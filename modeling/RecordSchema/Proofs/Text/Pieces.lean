import Mathlib
import RecordSchema.Text.Split

/-!
# The pieces of a text

What is in the pieces between the separators of a text, and how texts that are put together with
separators are cut apart again. Main statements: `flatten_pieces`, the pieces hold all of the text but
its separators, `pieces_flatMap`, lines that are each ended by a separator are the pieces of the whole,
and `joinWith_append`, texts can be joined part by part.
-/

namespace RecordSchema.Text

variable {p : Char → Bool}

/-- The pieces of a text hold all of it but the separators. -/
lemma flatten_pieces (s : List Char) : (pieces p s).flatten = s.filter (!p ·) := by
  induction s with
  | nil => rfl
  | cons c rest ih =>
    rw [pieces]
    by_cases separator : p c
    · simp [separator, ih]
    · rw [if_neg separator, List.filter_cons_of_pos (by simp [separator]), ← ih]
      split
      · rename_i none
        exact absurd none (pieces_ne_nil p rest)
      · rename_i split
        rw [split, List.flatten_cons, List.flatten_cons, List.cons_append]

/-- All chunks together are the text without what cuts it. -/
lemma flatten_chunks (s : List Char) : (chunks p s).flatten = s.filter (!p ·) := by
  rw [← flatten_pieces, chunks]
  induction pieces p s with
  | nil => rfl
  | cons piece rest ih => cases piece <;> simp [ih]

/-- What is in a chunk is in the text and no separator. -/
lemma mem_of_mem_chunks {s chunk : List Char} (mem : chunk ∈ chunks p s) {c : Char}
    (inChunk : c ∈ chunk) : c ∈ s ∧ p c = false := by
  have inChunks : c ∈ (chunks p s).flatten := List.mem_flatten.2 ⟨chunk, mem, inChunk⟩
  rwa [flatten_chunks, List.mem_filter, Bool.not_eq_true'] at inChunks

/-- What is in the text and no separator is in a chunk. -/
lemma exists_chunk_of_mem {s : List Char} {c : Char} (mem : c ∈ s) (notSeparator : p c = false) :
    ∃ chunk ∈ chunks p s, c ∈ chunk := by
  have inChunks : c ∈ (chunks p s).flatten := by
    rw [flatten_chunks, List.mem_filter, Bool.not_eq_true']
    exact ⟨mem, notSeparator⟩
  exact List.mem_flatten.1 inChunks

/-- No chunk is empty. -/
lemma ne_nil_of_mem_chunks {s chunk : List Char} (mem : chunk ∈ chunks p s) : chunk ≠ [] := by
  have kept := (List.mem_filter.1 mem).2
  rwa [Bool.not_eq_true', List.isEmpty_eq_false_iff] at kept

/-- A text has no chunks when there is nothing but separators in it. -/
lemma chunks_eq_nil_iff {s : List Char} : chunks p s = [] ↔ ∀ c ∈ s, p c := by
  constructor
  · intro none c mem
    by_contra kept
    obtain ⟨chunk, inText, _⟩ := exists_chunk_of_mem mem ((Bool.not_eq_true _).mp kept)
    rw [none] at inText
    cases inText
  · intro separators
    rw [List.eq_nil_iff_forall_not_mem]
    intro chunk inText
    obtain ⟨c, rest, rfl⟩ := List.exists_cons_of_ne_nil (ne_nil_of_mem_chunks inText)
    obtain ⟨mem, kept⟩ := mem_of_mem_chunks inText List.mem_cons_self
    rw [separators c mem] at kept
    cases kept

/-- The pieces of a text are what it is split into. -/
lemma pieces_eq_splitOnP (s : List Char) : pieces p s = s.splitOnP p := by
  induction s with
  | nil => rfl
  | cons c rest ih =>
    rw [pieces, List.splitOnP_cons_eq_if_modifyHead, ih]
    split
    · rfl
    · cases h : rest.splitOnP p with
      | nil => exact absurd h (List.splitOnP_ne_nil p rest)
      | cons piece more => rfl

/-- A text that nothing cuts is one piece. -/
lemma pieces_eq_singleton {s : List Char} (none : ∀ c ∈ s, p c = false) : pieces p s = [s] := by
  rw [pieces_eq_splitOnP]
  exact List.splitOnP_eq_singleton none

/-- Lines that are each ended by a separator are the pieces of the whole, and after them there is an
empty one. -/
lemma pieces_flatMap {c : Char} (separator : p c = true) {lines : List (List Char)}
    (none : ∀ line ∈ lines, ∀ d ∈ line, p d = false) :
    pieces p (lines.flatMap (· ++ [c])) = lines ++ [[]] := by
  induction lines with
  | nil => rfl
  | cons line rest ih =>
    rw [List.forall_mem_cons] at none
    have cut := pieces_append_cons separator line (rest.flatMap (· ++ [c]))
    rw [List.flatMap_cons, List.append_assoc, List.singleton_append, cut,
      pieces_eq_singleton none.1, ih none.2]
    rfl

/-! ### Joined texts -/

/-- Joining puts the separator behind each text but the last one. -/
lemma joinWith_cons {separator s : List Char} {rest : List (List Char)} (more : rest ≠ []) :
    joinWith separator (s :: rest) = s ++ separator ++ joinWith separator rest := by
  cases rest with
  | nil => exact absurd rfl more
  | cons next rest => rfl

/-- Texts of which the first is not empty are not empty when they are joined. -/
lemma joinWith_ne_nil {separator first : List Char} (some : first ≠ []) (rest : List (List Char)) :
    joinWith separator (first :: rest) ≠ [] := by
  cases rest with
  | nil => exact some
  | cons next more =>
    rw [joinWith_cons (List.cons_ne_nil next more)]
    simp [some]

/-- Texts in two parts are joined part by part, with the separator between the parts. -/
lemma joinWith_append {separator : List Char} {above below : List (List Char)} (some : above ≠ [])
    (more : below ≠ []) :
    joinWith separator (above ++ below) =
      joinWith separator above ++ separator ++ joinWith separator below := by
  induction above with
  | nil => exact absurd rfl some
  | cons s rest ih =>
    cases rest with
    | nil => exact joinWith_cons more
    | cons next rest =>
      rw [List.cons_append, joinWith_cons (by simp), ih (List.cons_ne_nil next rest),
        joinWith_cons (List.cons_ne_nil next rest)]
      simp only [List.append_assoc]

/-- Joining is the library's own. -/
lemma joinWith_eq_intercalate (separator : List Char) (texts : List (List Char)) :
    joinWith separator texts = separator.intercalate texts := by
  induction texts with
  | nil => rfl
  | cons s rest ih =>
    cases rest with
    | nil => simp [joinWith]
    | cons next more =>
      rw [joinWith_cons (List.cons_ne_nil next more), List.intercalate_cons_cons, ih]

/-- Lines that are joined with an empty one after them are each ended by the separator. -/
lemma joinWith_append_nil (separator : List Char) (lines : List (List Char)) :
    joinWith separator (lines ++ [[]]) = lines.flatMap (· ++ separator) := by
  induction lines with
  | nil => rfl
  | cons line rest ih =>
    cases rest with
    | nil => simp [joinWith]
    | cons next more => simpa [joinWith] using ih

/-- What is in a joined text is in the separator or in one of the texts. -/
lemma mem_of_mem_joinWith {separator : List Char} {texts : List (List Char)} {c : Char}
    (mem : c ∈ joinWith separator texts) : c ∈ separator ∨ ∃ s ∈ texts, c ∈ s := by
  induction texts with
  | nil => cases mem
  | cons s rest ih =>
    cases rest with
    | nil => exact .inr ⟨s, List.mem_cons_self, mem⟩
    | cons next more =>
      rw [joinWith_cons (List.cons_ne_nil next more), List.mem_append, List.mem_append] at mem
      rcases mem with (first | between) | later
      · exact .inr ⟨s, List.mem_cons_self, first⟩
      · exact .inl between
      · refine (ih later).imp_right ?_
        rintro ⟨t, mem, inText⟩
        exact ⟨t, List.mem_cons_of_mem s mem, inText⟩

end RecordSchema.Text
