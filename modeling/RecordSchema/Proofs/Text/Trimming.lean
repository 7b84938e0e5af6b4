import Mathlib
import RecordSchema.Text.Blank
import RecordSchema.Text.Line

/-!
# Trimmed texts

Main statement: `isTrimmed_trimWhere`, trimming takes away the runs at the two ends of a text whose
characters pass the test, and no more.
-/

namespace RecordSchema.Text

/-- The text with the runs at its two ends taken away whose characters pass a test. -/
structure IsTrimmed (p : Char → Bool) (s trimmed : List Char) : Prop where
  ends : ∃ leading trailing, s = leading ++ trimmed ++ trailing ∧
    (∀ c ∈ leading, p c) ∧ ∀ c ∈ trailing, p c
  head : ∀ c ∈ trimmed.head?, p c = false
  last : ∀ c ∈ trimmed.getLast?, p c = false

variable {p : Char → Bool}

/-- What is left begins with the first character that fails the test. -/
lemma of_mem_head?_dropWhile {s : List Char} {c : Char} (isHead : c ∈ (s.dropWhile p).head?) :
    p c = false := by
  have first := List.head?_dropWhile_not p s
  rwa [Option.mem_def.1 isHead] at first

/-- Trimming takes away the runs at both ends. -/
lemma isTrimmed_trimWhere (s : List Char) : IsTrimmed p s (trimWhere p s) where
  ends := by
    have start := List.takeWhile_append_dropWhile (p := p) (l := s)
    have stop := List.rdropWhile_append_rtakeWhile (p := p) (l := s.dropWhile p)
    rw [← stop, ← List.append_assoc] at start
    exact ⟨_, _, start.symm, fun _ => List.mem_takeWhile_imp, fun _ => List.mem_rtakeWhile_imp⟩
  head := by
    intro c isHead
    obtain ⟨rest, left⟩ := List.rdropWhile_prefix p (s.dropWhile p)
    apply of_mem_head?_dropWhile (s := s)
    rw [← left, List.head?_append, Option.mem_def]
    exact Option.or_eq_some_iff.2 (.inl isHead)
  last := by
    intro c isLast
    rw [trimWhere, trimEndWhere, List.getLast?_reverse] at isLast
    exact of_mem_head?_dropWhile isLast

/-- A character that passes the test makes no difference at the end. -/
lemma trimWhere_concat (s : List Char) {c : Char} (passes : p c) :
    trimWhere p (s ++ [c]) = trimWhere p s := by
  rw [trimWhere, trimWhere, trimStartWhere, trimStartWhere, List.dropWhile_append]
  split
  · rename_i empty
    rw [List.isEmpty_iff] at empty
    rw [empty, List.dropWhile_cons_of_pos passes, List.dropWhile_nil]
  · exact List.rdropWhile_concat_pos p _ c passes

/-- The carriage return at the end of a line is trimmed away with the white space. -/
lemma trim_dropReturn (line : List Char) : trim (dropReturn line) = trim line := by
  rw [dropReturn]
  split
  · rename_i last
    have split := List.dropLast_append_getLast? '\r' last
    have blank : isBlank '\r' = true := by decide
    conv_rhs => rw [← split]
    exact (trimWhere_concat line.dropLast blank).symm
  · rfl

end RecordSchema.Text
