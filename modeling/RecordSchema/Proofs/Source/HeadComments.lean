import Mathlib
import RecordSchema.Source.Lines
import RecordSchema.Proofs.Text.Pieces

/-!
# Head comments

The head comment of a node is looked up in the lines above it. Main statement: `commentBlock_eq`, it is
made of the longest run of comment lines that ends directly above.
-/

namespace RecordSchema

namespace Text

variable {line rest : List Char}

/-- A line without a carriage return loses nothing. -/
lemma dropReturn_of_notMem (plain : '\r' ∉ line) : dropReturn line = line := by
  apply if_neg
  intro last
  exact plain (List.mem_of_getLast? last)

/-- A line feed ends the first line, and the others follow it. -/
lemma lines_append_feed (one : '\n' ∉ line) (plain : '\r' ∉ line) :
    lines (line ++ '\n' :: rest) = line :: lines rest := by
  have first : pieces (· == '\n') line = [line] := by
    apply pieces_eq_singleton
    intro c mem
    rw [beq_eq_false_iff_ne]
    rintro rfl
    exact one mem
  have cut := pieces_append_cons (p := (· == '\n')) (c := '\n') rfl line rest
  rw [lines, cut, first, List.singleton_append, lines]
  cases below : pieces (· == '\n') rest with
  | nil => exact absurd below (pieces_ne_nil _ rest)
  | cons piece more => rw [closeLines, dropReturn_of_notMem plain]; nofun

/-- Lines that are each ended by a line feed are the lines of the whole, with those of what follows. -/
lemma lines_flatMap_append {above : List (List Char)} (one : ∀ line ∈ above, '\n' ∉ line ∧ '\r' ∉ line) :
    lines (above.flatMap (· ++ ['\n']) ++ rest) = above ++ lines rest := by
  induction above with
  | nil => rfl
  | cons line above ih =>
    rw [List.forall_mem_cons] at one
    rw [List.flatMap_cons, List.append_assoc, List.append_assoc, List.singleton_append,
      lines_append_feed one.1.1 one.1.2, ih one.2, List.cons_append]

end Text

namespace SourceLines

variable {s : SourceLines}

/-- The comment lines directly above a line are the longest run of such lines that ends there. -/
lemma commentBlock_eq {n : Nat} (inSource : n ≤ s.length) :
    s.commentBlock n = ((s.take n).rtakeWhile isCommentLine).map Text.trim := by
  induction n with
  | zero => rfl
  | succ n ih =>
    have above := ih (Nat.le_of_succ_le inSource)
    have here : s[n]? = some s[n] := List.getElem?_eq_getElem inSource
    rw [commentBlock, here, List.take_add_one, here, Option.toList_some, List.rtakeWhile_concat, above]
    simp only
    split
    · rw [List.map_append, List.map_singleton]
    · rfl

end SourceLines

/-! ### Indented lines -/

section Indented

variable {line : List Char} (n : Nat)

/-- Indentation goes with the white space around a line. -/
lemma trimStart_indented (flush : ∀ c ∈ line.head?, Text.isBlank c = false) :
    Text.trimStart (List.replicate n ' ' ++ line) = line := by
  have spaces : ∀ c ∈ List.replicate n ' ', Text.isBlank c = true := by
    intro c mem
    rw [List.eq_of_mem_replicate mem]
    decide
  rw [Text.trimStart, Text.trimStartWhere, List.dropWhile_append_of_pos spaces]
  cases line with
  | nil => rfl
  | cons c rest => rw [List.dropWhile_cons_of_neg (by simp [flush c rfl])]

/-- The line begins with the marker of a comment. -/
def isMarked (line : List Char) : Bool :=
  line.head? == some '#'

/-- Indented or not, a line that begins with the marker is taken for a comment. -/
lemma isCommentLine_indented (flush : ∀ c ∈ line.head?, Text.isBlank c = false) :
    isCommentLine (List.replicate n ' ' ++ line) = isMarked line := by
  rw [isCommentLine, trimStart_indented n flush, isMarked]

/-- Trimming an indented line takes away its indentation and what is blank at its end. -/
lemma trim_indented (flush : ∀ c ∈ line.head?, Text.isBlank c = false) :
    Text.trim (List.replicate n ' ' ++ line) = Text.trimEnd line := by
  have start := trimStart_indented n flush
  rw [Text.trimStart] at start
  rw [Text.trim, Text.trimWhere, start, Text.trimEnd]

end Indented

/-- What stands above the last run is not in it. -/
lemma rtakeWhile_cons_of_neg {α : Type} {p : α → Bool} {a : α} (above : p a = false) (l : List α) :
    (a :: l).rtakeWhile p = l.rtakeWhile p := by
  induction l using List.reverseRecOn with
  | nil => simp [List.rtakeWhile, above]
  | append_singleton l b ih =>
    rw [← List.cons_append, List.rtakeWhile_concat, List.rtakeWhile_concat, ih]

/-- The comment lines directly above a line that stands below indented ones are those of them at the end
that begin with the marker. -/
lemma commentBlock_indented {first : List Char} (noComment : isCommentLine first = false)
    {lines : List (List Char)} (flush : ∀ line ∈ lines, ∀ c ∈ line.head?, Text.isBlank c = false)
    (n : Nat) (below : SourceLines) :
    SourceLines.commentBlock (first :: (lines.map (List.replicate n ' ' ++ ·) ++ below))
        (lines.length + 1) =
      (lines.rtakeWhile isMarked).map Text.trimEnd := by
  have above : (lines.map (List.replicate n ' ' ++ ·) ++ below).take lines.length =
      lines.map (List.replicate n ' ' ++ ·) :=
    List.take_left' (List.length_map _)
  rw [SourceLines.commentBlock_eq (by simp), List.take_succ_cons, above,
    rtakeWhile_cons_of_neg noComment]
  clear above
  induction lines using List.reverseRecOn with
  | nil => rfl
  | append_singleton lines line ih =>
    rw [List.forall_mem_append, List.forall_mem_singleton] at flush
    rw [List.map_append, List.map_singleton, List.rtakeWhile_concat, List.rtakeWhile_concat,
      isCommentLine_indented n flush.2]
    split
    · rw [List.map_append, List.map_append, ih flush.1,
        List.map_singleton, List.map_singleton, trim_indented n flush.2]
    · rfl

end RecordSchema
