import Mathlib
import RecordSchema.Model.FieldKind

/-!
# Markers of keys

A key is a stem with a row of markers behind it, and splitting it takes the last of them away. Main
statements: `splitKey_append_marker`, the marker behind a name is found whatever the name ends with,
`splitKey_eq_normal_iff`, nothing is taken from a name without a marker at its end and from no other,
and `splitKey_takes_last_marker`.
-/

namespace RecordSchema.FieldKind

/-- No marker stands at the end of a text. -/
def IsUnmarked (text : String) : Prop :=
  ∀ marker ∈ ["[]", "?", "!"], ¬ marker.toList <:+ text.toList

/-- Whether a text is unmarked can be decided. -/
instance (text : String) : Decidable (IsUnmarked text) :=
  inferInstanceAs (Decidable (∀ marker ∈ ["[]", "?", "!"], ¬ marker.toList <:+ text.toList))

/-- A text with the markers of some kinds behind it, one after the other. -/
def markedWith (text : String) (kinds : List FieldKind) : String :=
  kinds.foldl (fun marked kind => marked ++ kind.marker) text

/-- A key is made of a stem without a marker at its end and of the markers of a row of kinds. -/
structure IsMarked (key stem : String) (row : List FieldKind) : Prop where
  unmarked : IsUnmarked stem
  marks : .normal ∉ row
  key_eq : markedWith stem row = key

/-- The last of some markers stands behind all the others. -/
lemma markedWith_concat (text : String) (kinds : List FieldKind) (kind : FieldKind) :
    markedWith text (kinds ++ [kind]) = markedWith text kinds ++ kind.marker := by
  rw [markedWith, List.foldl_concat, ← markedWith]

/-- The markers are those of the kinds other than `normal`. -/
lemma mem_markers {marker : String} :
    marker ∈ ["[]", "?", "!"] ↔ ∃ kind : FieldKind, kind ≠ .normal ∧ kind.marker = marker := by
  constructor
  · simp only [List.mem_cons, List.not_mem_nil, or_false]
    rintro (rfl | rfl | rfl)
    · exact ⟨.array, by decide, rfl⟩
    · exact ⟨.optional, by decide, rfl⟩
    · exact ⟨.primaryKey, by decide, rfl⟩
  · rintro ⟨kind, isMarker, rfl⟩
    cases kind with
    | normal => exact absurd rfl isMarker
    | array => simp [marker]
    | optional => simp [marker]
    | primaryKey => simp [marker]

/-- A text is unmarked when it is no name with a marker behind it. -/
lemma isUnmarked_iff {text : String} :
    IsUnmarked text ↔
      ∀ (name : String) (kind : FieldKind), kind ≠ .normal → text ≠ name ++ kind.marker := by
  constructor
  · rintro unmarked name kind isMarker rfl
    apply unmarked kind.marker (mem_markers.2 ⟨kind, isMarker, rfl⟩)
    rw [String.toList_append]
    exact List.suffix_append _ _
  · rintro none marker listed ⟨name, ends⟩
    obtain ⟨kind, isMarker, rfl⟩ := mem_markers.1 listed
    apply none (String.ofList name) kind isMarker
    rw [← String.toList_inj, String.toList_append, String.toList_ofList, ends]

/-! ### Splitting -/

/-- A marker is found at the end, which comes first here. -/
lemma splitReversed_marker {kind : FieldKind} (isMarker : kind ≠ .normal) (rest : List Char) :
    splitReversed (kind.marker.toList.reverse ++ rest) = (rest, kind) := by
  cases kind with
  | normal => exact absurd rfl isMarker
  | array => rfl
  | optional => rfl
  | primaryKey => rfl

/-- The name followed by the marker of its kind is the key. -/
lemma name_append_marker (key : String) : (splitKey key).1 ++ (splitKey key).2.marker = key := by
  have reversed := congrArg List.reverse (splitReversed_append key.toList.reverse)
  rw [List.reverse_append, List.reverse_reverse, List.reverse_reverse] at reversed
  rw [← String.toList_inj, String.toList_append, splitKey, String.toList_ofList, reversed]

/-- The marker behind a name is found, whatever the name ends with. -/
lemma splitKey_append_marker {kind : FieldKind} (isMarker : kind ≠ .normal) (name : String) :
    splitKey (name ++ kind.marker) = (name, kind) := by
  rw [splitKey, String.toList_append, List.reverse_append, splitReversed_marker isMarker]
  simp

/-- The name of a normal field is the whole key. -/
lemma splitKey_of_normal {key : String} (isNormal : (splitKey key).2 = .normal) :
    splitKey key = (key, .normal) := by
  have parts := name_append_marker key
  rw [isNormal, marker, String.append_empty] at parts
  exact Prod.ext parts isNormal

/-- Nothing is taken away exactly where no marker stands at the end. -/
lemma splitKey_eq_normal_iff {key : String} : splitKey key = (key, .normal) ↔ IsUnmarked key := by
  rw [isUnmarked_iff]
  constructor
  · rintro whole name kind isMarker rfl
    rw [splitKey_append_marker isMarker] at whole
    exact isMarker (congrArg Prod.snd whole)
  · intro none
    by_cases isNormal : (splitKey key).2 = .normal
    · exact splitKey_of_normal isNormal
    · exact absurd (name_append_marker key).symm (none _ _ isNormal)

/-! ### Rows of markers -/

/-- What is left of a key with a marker at its end is shorter. -/
lemma length_name_lt {key : String} (isMarker : (splitKey key).2 ≠ .normal) :
    (splitKey key).1.length < key.length := by
  have lengths := congrArg String.length (name_append_marker key)
  rw [String.length_append] at lengths
  have some : 0 < (splitKey key).2.marker.length := by
    cases kind : (splitKey key).2 with
    | normal => exact absurd kind isMarker
    | array => decide
    | optional => decide
    | primaryKey => decide
  omega

/-- Every key is made of a stem and a row of markers. -/
lemma exists_isMarked (key : String) : ∃ stem row, IsMarked key stem row := by
  -- the name that splitting leaves has all markers but the last one
  induction size : key.length using Nat.strong_induction_on generalizing key with
  | h n ih =>
    by_cases isNormal : (splitKey key).2 = .normal
    · exact ⟨key, [], splitKey_eq_normal_iff.1 (splitKey_of_normal isNormal), by simp, rfl⟩
    · obtain ⟨stem, row, marked⟩ := ih _ (size ▸ length_name_lt isNormal) (splitKey key).1 rfl
      refine ⟨stem, row ++ [(splitKey key).2], marked.unmarked, ?marks, ?key_eq⟩
      case marks => simp [marked.marks, Ne.symm isNormal]
      case key_eq => rw [markedWith_concat, marked.key_eq, name_append_marker]

/-- The last of a row of markers is taken away. -/
lemma IsMarked.splitKey_eq {key stem : String} {row : List FieldKind} (marked : IsMarked key stem row) :
    splitKey key = (markedWith stem row.dropLast, row.getLast?.getD .normal) := by
  obtain ⟨unmarked, marks, rfl⟩ := marked
  rcases List.eq_nil_or_concat row with rfl | ⟨front, kind, rfl⟩
  · exact splitKey_eq_normal_iff.2 unmarked
  · have isMarker : kind ≠ .normal := by
      rintro rfl
      simp at marks
    rw [List.concat_eq_append, markedWith_concat, splitKey_append_marker isMarker, List.dropLast_concat,
      List.getLast?_concat, Option.getD_some]

/-- Splitting a key loses nothing: a marker behind a name is told apart from the name whatever the name ends
with, and a name without a marker at its end is left as it is. So of the markers in a row at the end of a
key the last one is taken away, and the others stay with the name. -/
theorem splitKey_takes_last_marker (key name : String) (kind : FieldKind) :
    (splitKey key).1 ++ (splitKey key).2.marker = key ∧
      (kind ≠ .normal → splitKey (name ++ kind.marker) = (name, kind)) ∧
      (splitKey name = (name, .normal) ↔ IsUnmarked name) ∧
      (∃ stem row, IsMarked key stem row) ∧
      ∀ stem row, IsMarked key stem row →
        splitKey key = (markedWith stem row.dropLast, row.getLast?.getD .normal) :=
  ⟨name_append_marker key, fun isMarker => splitKey_append_marker isMarker name, splitKey_eq_normal_iff,
    exists_isMarked key, fun _ _ marked => marked.splitKey_eq⟩

/-- Of the two markers of an optional list the first is part of its name, a marker alone leaves the empty
name, and half a marker is none. -/
theorem splitKey_takes_last_marker_tags :
    splitKey "tags[]?" = ("tags[]", .optional) ∧ splitKey "[]" = ("", .array) ∧
      splitKey "a]" = ("a]", .normal) ∧
      IsMarked "tags[]?" "tags" [.array, .optional] ∧
      splitKey "tags[]?" = (markedWith "tags" [.array], .optional) := by
  have tags : IsMarked "tags[]?" "tags" [.array, .optional] :=
    ⟨by decide, by decide, by decide⟩
  have half : IsUnmarked "a]" := by decide
  obtain ⟨-, list, -, -, row⟩ := splitKey_takes_last_marker "tags[]?" "tags[]" .optional
  obtain ⟨-, alone, -⟩ := splitKey_takes_last_marker "[]" "" .array
  obtain ⟨-, -, whole, -⟩ := splitKey_takes_last_marker "a]" "a]" .normal
  exact ⟨list (by decide), alone (by decide), whole.2 half, tags, row _ _ tags⟩

end RecordSchema.FieldKind
