import Mathlib
import RecordSchema.Proofs.Source.HeadComments
import RecordSchema.Proofs.Source.Trailing
import RecordSchema.Proofs.Yaml.LiteralEntry

/-!
# Comments below literal scalars

The lines of a literal scalar are its text, and the entry below it is an entry of its own. But comments are
looked up in the lines of the source, where a line of the scalar that begins with the marker of a comment
looks like one. Main statement: `literal_scalar_read`.
-/

namespace RecordSchema

open Yaml

/-- A line of text that can be indented: it is not empty and has no white space at its start. -/
structure IsTextLine (line : List Char) : Prop where
  nonempty : line ≠ []
  inline : ∀ c ∈ line, IsInline c
  flush : ∀ c ∈ line.head?, Text.isBlank c = false

/-- Whether a line is one of text shows in its characters. -/
lemma isTextLine_iff {line : List Char} :
    IsTextLine line ↔
      line ≠ [] ∧ line.all (decide <| IsInline ·) ∧ line.head?.all (!Text.isBlank ·) := by
  simp only [List.all_eq_true, decide_eq_true_eq, Option.all_eq_true, Bool.not_eq_true']
  exact ⟨fun h => ⟨h.nonempty, h.inline, h.flush⟩, fun h => ⟨h.1, h.2.1, h.2.2⟩⟩

/-- Whether a line is one of text can be decided. -/
instance (line : List Char) : Decidable (IsTextLine line) :=
  decidable_of_iff _ isTextLine_iff.symm

/-- A line of text can be the content of a scalar. -/
lemma IsTextLine.isContent {line : List Char} (h : IsTextLine line) : IsContent line := by
  obtain ⟨c, rest, rfl⟩ := List.exists_cons_of_ne_nil h.nonempty
  refine ⟨h.inline, c, rest, rfl, h.inline c List.mem_cons_self, ?_⟩
  rintro rfl
  exact absurd (h.flush ' ' rfl) (by decide)

/-! ### Nodes -/

namespace SourceLines

variable (s : SourceLines)

/-- The mapping has two entries, and the comment above the second key is looked up above its line. -/
lemma documentsOf_entryEvents (text : String) (k n : Nat) (e : Mark) :
    ∃ root a value b type,
      documentsOf s (entryEvents text k n e) =
          [.mapping root [(.scalar a "a", .scalar value text), (.scalar b "b", .scalar type "string")]] ∧
        b.head = (s.infoAt (.ofMark ⟨k, n, 0⟩)).head := by
  let tree : Tree := .mapping ⟨⟨1, 1, 1⟩, none⟩
    [(.scalar ⟨⟨0, 1, 0⟩, none⟩ true "a", .scalar ⟨⟨7, 2, 2⟩, none⟩ false text),
      (.scalar ⟨⟨k, n, 0⟩, none⟩ true "b", .scalar ⟨⟨k + 3, n, 3⟩, none⟩ true "string")]
  have read : Tree.ofEvents (entryEvents text k n e) = [tree] := rfl
  let info (number : Nat) (m : Mark) : Info :=
    s.withTrailing (s.candidates (Node.ofTree s tree)) number (s.infoAt (.ofMark m))
  refine ⟨info 0 ⟨1, 1, 1⟩, info 1 ⟨0, 1, 0⟩, info 2 ⟨7, 2, 2⟩, info 3 ⟨k, n, 0⟩,
    info 4 ⟨k + 3, n, 3⟩, ?_, head_withTrailing _ _ _⟩
  rw [documentsOf, read]
  rfl

end SourceLines

/-! ### Sources -/

/-- A mapping of two entries, the first of which is a literal scalar. -/
def literalSource (lines : List String) : String :=
  "a: |\n" ++ String.join (lines.map fun line => "  " ++ line ++ "\n") ++ "b: string"

/-- The lines at the end that begin with the marker of a comment, read as a comment. -/
def markedEnd (lines : List String) : String :=
  String.ofList (Text.joinWith ['\n']
    (((lines.map String.toList).rtakeWhile isMarked).map Text.trimEnd))

section Source

variable {lines : List String} {closing : String} (content : ∀ line ∈ lines, IsTextLine line.toList)
  (closed : closing = "" ∨ closing = "\n")

/-- The source is its first key, the indented lines and the second entry. -/
lemma toList_literalSource (lines : List String) (closing : String) :
    (literalSource lines ++ closing).toList =
      "a: |\n".toList ++
        (indentLines 2 (lines.map String.toList) ++ ("b: string".toList ++ closing.toList)) := by
  have indented : (String.join (lines.map fun line => "  " ++ line ++ "\n")).toList =
      indentLines 2 (lines.map String.toList) := by
    rw [String.toList_join, List.flatMap_map, indentLines, List.flatMap_map]
    simp only [String.toList_append]
    rfl
  simp only [literalSource, String.toList_append, indented, List.append_assoc]

include content closed

/-- The lines of the source are those of the scalar, indented, with one above and one below them. -/
lemma ofText_literalSource :
    SourceLines.ofText (literalSource lines ++ closing) =
      "a: |".toList :: ((lines.map String.toList).map (List.replicate 2 ' ' ++ ·) ++
        ["b: string".toList]) := by
  have last : Text.lines ("b: string".toList ++ closing.toList) = ["b: string".toList] := by
    rcases closed with rfl | rfl <;> rfl
  have split : (literalSource lines ++ closing).toList =
      ("a: |".toList :: (lines.map String.toList).map (List.replicate 2 ' ' ++ ·)).flatMap (· ++ ['\n']) ++
        ("b: string".toList ++ closing.toList) := by
    rw [toList_literalSource, indentLines, List.flatMap_cons, List.flatMap_map _ (· ++ ['\n']),
      List.append_assoc]
    rfl
  rw [SourceLines.ofText, split, Text.lines_flatMap_append, last]
  · rfl
  · rw [List.forall_mem_cons]
    refine ⟨by decide, ?_⟩
    simp only [List.forall_mem_map]
    intro line mem
    have inline := (content line mem).inline
    simp only [List.mem_append, List.mem_replicate, not_or]
    exact ⟨⟨by decide, fun feed => (inline _ feed).not_feed rfl⟩,
      by decide, fun ret => (inline _ ret).not_return rfl⟩

/-- The comment above the second key is made of the lines of the scalar. -/
lemma head_infoAt_literal (fits : lines.length + 2 < 2 ^ 64) (k : Nat) :
    ((SourceLines.ofText (literalSource lines ++ closing)).infoAt
        (.ofMark ⟨k, 2 + lines.length, 0⟩)).head = markedEnd lines := by
  have number : (2 + lines.length).toUInt64.toNat = lines.length + 2 := by
    rw [Nat.toUInt64_eq, UInt64.toNat_ofNat', Nat.mod_eq_of_lt (by omega), Nat.add_comm]
  have flush : ∀ line ∈ lines.map String.toList, ∀ c ∈ line.head?, Text.isBlank c = false := by
    rw [List.forall_mem_map]
    exact fun line mem => (content line mem).flush
  have noComment : isCommentLine "a: |".toList = false := by decide
  have block := commentBlock_indented noComment flush 2 ["b: string".toList]
  rw [List.length_map] at block
  rw [ofText_literalSource content closed, SourceLines.infoAt, if_pos]
  · rw [SourceLines.headComment, Position.ofMark, number, Nat.add_sub_assoc, block, markedEnd]
    decide
  · rw [SourceLines.isFirstOnLine, Position.ofMark, number]
    simp [SourceLines.line?]

end Source

/-- The lines are the text of the first value, and those at its end that begin with the marker are the head
comment of the second key. -/
lemma read_literalSource {lines : List String} (nonempty : lines ≠ [])
    (content : ∀ line ∈ lines, IsTextLine line.toList) {closing : String}
    (closed : closing = "" ∨ closing = "\n") :
    ∃ root a value b type,
      readDocuments (literalSource lines ++ closing) =
          .ok [.mapping root [(.scalar a "a", .scalar value (String.join (lines.map (· ++ "\n")))),
            (.scalar b "b", .scalar type "string")]] ∧
        (lines.length + 2 < 2 ^ 64 → b.head = markedEnd lines) := by
  have contents : ∀ line ∈ lines.map String.toList, IsContent line := by
    rw [List.forall_mem_map]
    exact fun line mem => (content line mem).isContent
  have closed' : closing.toList = [] ∨ closing.toList = ['\n'] := by
    rcases closed with rfl | rfl
    · exact .inl rfl
    · exact .inr rfl
  have text : String.ofList ((lines.map String.toList).flatMap (· ++ ['\n'])) =
      String.join (lines.map (· ++ "\n")) := by
    rw [← String.toList_inj, String.toList_ofList, String.toList_join, List.flatMap_map,
      List.flatMap_map]
    simp only [String.toList_append]
    rfl
  -- The events see a text of characters, the head comments its lines: both are taken of the same source.
  obtain ⟨k, e, events⟩ := events_literalEntry (by simpa using nonempty) contents closed'
  rw [← toList_literalSource, List.length_map, text] at events
  obtain ⟨root, a, value, b, type, read, head⟩ :=
    (SourceLines.ofText (literalSource lines ++ closing)).documentsOf_entryEvents
      (String.join (lines.map (· ++ "\n"))) k (2 + lines.length) e
  refine ⟨root, a, value, b, type, ?_, fun fits => ?_⟩
  · rw [readDocuments, events]
    exact congrArg Except.ok read
  · rw [head, head_infoAt_literal content closed fits]

/-- A line with the marker is more than white space. -/
lemma trimEnd_ne_nil_of_isMarked {line : List Char} (marked : isMarked line) :
    Text.trimEnd line ≠ [] := by
  intro empty
  rw [Text.trimEnd, Text.trimEndWhere, List.reverse_eq_nil_iff, List.dropWhile_eq_nil_iff] at empty
  have marker : '#' ∈ line := List.mem_of_head? (beq_iff_eq.1 marked)
  exact absurd (empty '#' (List.mem_reverse.2 marker)) (by decide)

/-- There are lines with the marker at the end when the last line has it. -/
lemma markedEnd_eq_empty_iff (lines : List String) :
    markedEnd lines = "" ↔ ∀ line ∈ lines.getLast?, isMarked line.toList = false := by
  have empty : markedEnd lines = "" ↔ (lines.map String.toList).rtakeWhile isMarked = [] := by
    constructor
    · intro empty
      cases kept : (lines.map String.toList).rtakeWhile isMarked with
      | nil => rfl
      | cons line rest =>
        have marked : isMarked line := List.mem_rtakeWhile_imp (kept ▸ List.mem_cons_self)
        rw [markedEnd, kept, List.map_cons] at empty
        exact absurd (String.ofList_injective empty)
          (Text.joinWith_ne_nil (trimEnd_ne_nil_of_isMarked marked) _)
    · intro none
      rw [markedEnd, none]
      rfl
  rw [empty]
  induction lines using List.reverseRecOn with
  | nil => simp
  | append_singleton lines line _ =>
    rw [List.map_append, List.map_singleton, List.rtakeWhile_concat]
    simp

/-- A literal scalar is read as its lines, whatever they hold, and the entry below it as an entry. But the
lines at the end of the scalar that begin with the marker of a comment are taken for the comment of that
entry, so it has none exactly when the last line begins with something else. -/
theorem literal_scalar_read {lines : List String} (nonempty : lines ≠ [])
    (content : ∀ line ∈ lines, IsTextLine line.toList) {closing : String}
    (closed : closing = "" ∨ closing = "\n") :
    ∃ root a value b type,
      readDocuments (literalSource lines ++ closing) =
          .ok [.mapping root [(.scalar a "a", .scalar value (String.join (lines.map (· ++ "\n")))),
            (.scalar b "b", .scalar type "string")]] ∧
        (lines.length + 2 < 2 ^ 64 →
          b.head = markedEnd lines ∧
            (b.head = "" ↔ ∀ line ∈ lines.getLast?, isMarked line.toList = false)) := by
  obtain ⟨root, a, value, b, type, read, head⟩ := read_literalSource nonempty content closed
  refine ⟨root, a, value, b, type, read, fun fits => ⟨head fits, ?_⟩⟩
  rw [head fits, markedEnd_eq_empty_iff]

/-- A marker within a line is text, and so is a line with the marker above one without it. -/
theorem literal_scalar_read_note :
    ∃ root a value b type,
      readDocuments "a: |\n  # note\n  see #4\nb: string\n" =
          .ok [.mapping root [(.scalar a "a", .scalar value "# note\nsee #4\n"),
            (.scalar b "b", .scalar type "string")]] ∧
        b.head = "" := by
  have content : ∀ line ∈ ["# note", "see #4"], IsTextLine line.toList := by decide +kernel
  obtain ⟨root, a, value, b, type, read, head⟩ :=
    literal_scalar_read (List.cons_ne_nil _ _) content (.inr rfl)
  refine ⟨root, a, value, b, type, read, (head (by decide)).2.2 (by decide)⟩

/-- The line of the scalar is the comment of the entry below it. -/
theorem scalar_line_taken_for_comment :
    (∀ line ∈ ["# x"], IsTextLine line.toList) ∧
      ∃ root a value b type,
        readDocuments "a: |\n  # x\nb: string" =
            .ok [.mapping root [(.scalar a "a", .scalar value "# x\n"),
              (.scalar b "b", .scalar type "string")]] ∧
          b.head = "# x" ∧ b.head ≠ "" := by
  have content : ∀ line ∈ ["# x"], IsTextLine line.toList := by decide +kernel
  obtain ⟨root, a, value, b, type, read, head⟩ :=
    read_literalSource (List.cons_ne_nil _ _) content (.inl rfl)
  have comment : b.head = "# x" := head (by decide)
  refine ⟨content, root, a, value, b, type, read, comment, ?_⟩
  rw [comment]
  decide

end RecordSchema
