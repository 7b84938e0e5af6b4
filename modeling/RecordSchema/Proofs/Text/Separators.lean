import Mathlib
import RecordSchema.Name
import RecordSchema.Proofs.Text.Pieces

/-!
# Names cut at separators

A name is converted word by word, so it can be cut at any separator, and it makes no difference how many
separators there are. Main statements: `words_append_append`, the words around a run of separators, and
`converted_at_separator`.
-/

namespace RecordSchema.Name

open Text

/-- A text of separators only. -/
def IsGap (gap : List Char) : Prop :=
  ∀ c ∈ gap, c = '_' ∨ c = '-'

/-- The separators are the underscore and the hyphen. -/
lemma isSeparator_iff {c : Char} : isSeparator c ↔ c = '_' ∨ c = '-' := by
  rw [isSeparator, Bool.or_eq_true, beq_iff_eq, beq_iff_eq]

/-! ### Words -/

/-- A separator cuts a text into two that have their own words. -/
lemma words_append_cons {c : Char} (separator : isSeparator c) (a b : List Char) :
    words (a ++ c :: b) = words a ++ words b :=
  chunks_append_cons separator a b

/-- A text of separators has no words, and no other text has none. -/
lemma words_eq_nil_iff {s : List Char} : words s = [] ↔ IsGap s := by
  rw [words, chunks_eq_nil_iff, IsGap]
  simp only [isSeparator_iff]

variable {gap : List Char}

/-- Separators in front of a text add no words. -/
lemma words_gap_append (isGap : IsGap gap) (s : List Char) : words (gap ++ s) = words s := by
  induction gap with
  | nil => rfl
  | cons c gap ih =>
    rw [IsGap, List.forall_mem_cons] at isGap
    have cut := words_append_cons (isSeparator_iff.2 isGap.1) [] (gap ++ s)
    rw [List.nil_append] at cut
    rw [List.cons_append, cut, ih isGap.2]
    rfl

/-- A run of separators cuts a text as one separator does. -/
lemma words_append_append (isGap : IsGap gap) (some : gap ≠ []) (a b : List Char) :
    words (a ++ gap ++ b) = words a ++ words b := by
  obtain ⟨c, rest, rfl⟩ := List.exists_cons_of_ne_nil some
  rw [IsGap, List.forall_mem_cons] at isGap
  rw [List.append_assoc, List.cons_append, words_append_cons (isSeparator_iff.2 isGap.1),
    words_gap_append isGap.2]

/-- Separators behind a text add no words. -/
lemma words_append_gap (isGap : IsGap gap) (s : List Char) : words (s ++ gap) = words s := by
  cases gap with
  | nil => rw [List.append_nil]
  | cons c rest =>
    have cut := words_append_append isGap (List.cons_ne_nil c rest) s []
    have none : words [] = [] := rfl
    rwa [none, List.append_nil, List.append_nil] at cut

/-! ### Conversions -/

/-- What a name is converted to depends on its words alone. -/
lemma convert_congr {a b : String} (same : words a.toList = words b.toList) :
    ∀ convert ∈ [pascal, protoPascal, camel], convert a = convert b := by
  simp only [List.forall_mem_cons]
  refine ⟨?_, ?_, ?_, by nofun⟩
  · rw [pascal, pascal, pascalChars, pascalChars, same]
  · rw [protoPascal, protoPascal, protoPascalChars, protoPascalChars, same]
  · rw [camel, camel, camelChars, camelChars, same]

/-- The first word goes into lower case, and the others are converted as ever. -/
lemma camelChars_of_words {name first : List Char} {rest : List (List Char)}
    (split : words name = first :: rest) :
    camelChars name = lower first ++ rest.flatMap pascalWord := by
  rw [camelChars, split]

/-- A separator cuts a name in two that are converted on their own, except that in `camel` the second one is
no beginning when there is a word in the first. So it makes no difference where there are further
separators: at the ends of a name or next to another one. -/
theorem converted_at_separator (a b : String) {s : Char} (separator : s = '_' ∨ s = '-') :
    pascal (a ++ String.singleton s ++ b) = pascal a ++ pascal b ∧
      protoPascal (a ++ String.singleton s ++ b) = protoPascal a ++ protoPascal b ∧
      ((∃ c ∈ a.toList, c ≠ '_' ∧ c ≠ '-') →
        camel (a ++ String.singleton s ++ b) = camel a ++ pascal b) ∧
      ((∀ c ∈ a.toList, c = '_' ∨ c = '-') → camel (a ++ String.singleton s ++ b) = camel b) ∧
      ∀ convert ∈ [pascal, protoPascal, camel], ∀ leading run trailing : String,
        IsGap leading.toList → IsGap run.toList → IsGap trailing.toList →
          convert (leading ++ a ++ trailing) = convert a ∧
            (run ≠ "" → convert (a ++ run ++ b) = convert (a ++ String.singleton s ++ b)) := by
  -- The conversions go word by word, so all follows from what a separator does to the words.
  have cut : words (a ++ String.singleton s ++ b).toList = words a.toList ++ words b.toList := by
    rw [← words_append_cons (isSeparator_iff.2 separator)]
    simp
  refine ⟨?pascal, ?protoPascal, ?camelInside, ?camelFirst, ?further⟩
  case pascal =>
    rw [pascal, pascalChars, cut, List.flatMap_append, String.ofList_append]
    rfl
  case protoPascal =>
    rw [protoPascal, protoPascalChars, cut, List.flatMap_append, String.ofList_append]
    rfl
  case camelInside =>
    rintro ⟨c, mem, kept⟩
    cases first : words a.toList with
    | nil =>
      rcases words_eq_nil_iff.1 first c mem with rfl | rfl
      · exact absurd rfl kept.1
      · exact absurd rfl kept.2
    | cons word rest =>
      rw [first, List.cons_append] at cut
      rw [camel, camelChars_of_words cut, List.flatMap_append, ← List.append_assoc,
        ← camelChars_of_words first, String.ofList_append]
      rfl
  case camelFirst =>
    intro gap
    rw [words_eq_nil_iff.2 gap, List.nil_append] at cut
    exact convert_congr cut camel (by simp)
  case further =>
    intro convert listed leading run trailing leadingGap runGap trailingGap
    constructor
    · apply convert_congr _ convert listed
      rw [String.toList_append, String.toList_append, words_append_gap trailingGap,
        words_gap_append leadingGap]
    · intro some
      apply convert_congr _ convert listed
      rw [cut, String.toList_append, String.toList_append, words_append_append runGap]
      rwa [Ne, String.toList_eq_nil_iff]

/-- The second part of a name has its initialism in upper case, unless there is no word before it. -/
theorem converted_at_separator_user_id :
    camel ("user" ++ String.singleton '_' ++ "id") = "userID" ∧
      camel ("__" ++ String.singleton '-' ++ "id") = "id" := by
  have user : camel "user" = "user" := by decide +kernel
  have id : pascal "id" = "ID" := by decide +kernel
  have small : camel "id" = "id" := by decide +kernel
  have inside := (converted_at_separator "user" "id" (.inl rfl)).2.2.1 ⟨'u', by simp, by decide⟩
  have front := (converted_at_separator "__" "id" (s := '-') (.inr rfl)).2.2.2.1 (by simp)
  rw [user, id] at inside
  rw [small] at front
  exact ⟨inside, front⟩

end RecordSchema.Name
