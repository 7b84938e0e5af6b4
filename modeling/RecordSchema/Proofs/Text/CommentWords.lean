import Mathlib
import RecordSchema.Comment
import RecordSchema.Proofs.Text.Pieces
import RecordSchema.Proofs.Text.Trimming

/-!
# The words of a comment

Normalizing a comment keeps its words and nothing but its words. Main statements: `words_joinWith` and
`isSpaced_joinWith`, words with single spaces between them are the words of the joined text and its only
white space is between them, and `normalize_keeps_words`.
-/

namespace RecordSchema

namespace Text

/-- The characters between white space in a text, run by run. -/
def unbroken (s : List Char) : List (List Char) :=
  (s.splitOnP isBlank).filter (!·.isEmpty)

/-- The only white space of a text is single spaces, and there is none at its ends. -/
structure IsSpaced (s : List Char) : Prop where
  space : ∀ c ∈ s, isBlank c → c = ' '
  single : s.IsChain fun c d => isBlank c → isBlank d = false
  head : ∀ c ∈ s.head?, isBlank c = false
  last : ∀ c ∈ s.getLast?, isBlank c = false

/-- A text without white space that is not empty. -/
structure IsWord (word : List Char) : Prop where
  nonempty : word ≠ []
  solid : ∀ c ∈ word, isBlank c = false

/-- The words of a text are the runs between its white space. -/
lemma words_eq_unbroken (s : List Char) : words s = unbroken s := by
  rw [words, chunks, pieces_eq_splitOnP, unbroken]

/-- No word of a text is empty or has white space in it. -/
lemma isWord_of_mem_words {s word : List Char} (mem : word ∈ words s) : IsWord word where
  nonempty := ne_nil_of_mem_chunks mem
  solid := fun _ inWord => (mem_of_mem_chunks mem inWord).2

/-- A word has one word, itself. -/
lemma IsWord.words_eq {word : List Char} (isWord : IsWord word) : words word = [word] := by
  rw [words, chunks, pieces_eq_singleton isWord.solid]
  exact List.filter_cons_of_pos (by simp [isWord.nonempty])

/-- Words that are joined by spaces can be told apart again. -/
lemma words_joinWith {ws : List (List Char)} (isWord : ∀ word ∈ ws, IsWord word) :
    words (joinWith [' '] ws) = ws := by
  induction ws with
  | nil => rfl
  | cons word rest ih =>
    rw [List.forall_mem_cons] at isWord
    cases rest with
    | nil => exact isWord.1.words_eq
    | cons next more =>
      have blank : isBlank ' ' = true := by decide
      have cut := chunks_append_cons blank word (joinWith [' '] (next :: more))
      rw [joinWith_cons (List.cons_ne_nil next more), List.append_assoc, List.singleton_append, words, cut,
        ← words, isWord.1.words_eq, ih isWord.2, List.singleton_append]

/-- A word has no white space at all. -/
lemma IsWord.isSpaced {word : List Char} (isWord : IsWord word) : IsSpaced word where
  space := by
    intro c mem blank
    rw [isWord.solid c mem] at blank
    cases blank
  single := by
    apply List.Pairwise.isChain
    rw [List.pairwise_iff_forall_sublist]
    intro c d sub _
    exact isWord.solid d (sub.subset (by simp))
  head := fun c isHead => isWord.solid c (List.mem_of_mem_head? isHead)
  last := fun c isLast => isWord.solid c (List.mem_of_mem_getLast? isLast)

/-- A word can be put in front with a space behind it. -/
lemma IsWord.isSpaced_append {word s : List Char} (isWord : IsWord word) (spaced : IsSpaced s)
    (nonempty : s ≠ []) : IsSpaced (word ++ ' ' :: s) where
  space := by
    intro c mem blank
    rcases List.mem_append.1 mem with inWord | behind
    · exact isWord.isSpaced.space c inWord blank
    · rcases List.mem_cons.1 behind with rfl | inText
      · rfl
      · exact spaced.space c inText blank
  single := by
    rw [List.isChain_append, List.isChain_cons]
    refine ⟨isWord.isSpaced.single, ⟨fun c isHead _ => spaced.head c isHead, spaced.single⟩, ?_⟩
    intro c isLast d _ blank
    rw [isWord.isSpaced.last c isLast] at blank
    cases blank
  head := by
    rw [List.head?_append_of_ne_nil _ isWord.nonempty]
    exact isWord.isSpaced.head
  last := by
    obtain ⟨c, rest, rfl⟩ := List.exists_cons_of_ne_nil nonempty
    rw [List.getLast?_append_of_ne_nil _ (List.cons_ne_nil _ _), List.getLast?_cons_cons]
    exact spaced.last

/-- Words joined by spaces have no other white space. -/
lemma isSpaced_joinWith {ws : List (List Char)} (isWord : ∀ word ∈ ws, IsWord word) :
    IsSpaced (joinWith [' '] ws) := by
  induction ws with
  | nil => exact ⟨by simp [joinWith], by simp [joinWith], by simp [joinWith], by simp [joinWith]⟩
  | cons word rest ih =>
    rw [List.forall_mem_cons] at isWord
    cases rest with
    | nil => exact isWord.1.isSpaced
    | cons next more =>
      rw [joinWith_cons (List.cons_ne_nil next more), List.append_assoc, List.singleton_append]
      have nonempty := (isWord.2 next List.mem_cons_self).nonempty
      exact isWord.1.isSpaced_append (ih isWord.2) (joinWith_ne_nil nonempty more)

end Text

namespace Comment

open Text

/-- The text of a line of a comment: without white space at its ends, to which the carriage return before a
line feed belongs, and then without markers there. -/
def IsTextOf (line text : List Char) : Prop :=
  ∃ inner, IsTrimmed isBlank line inner ∧ IsTrimmed (· == '#') inner text

/-- Two texts with a space between them, or the one that is not empty. -/
def spaced (a b : String) : String :=
  if a = "" then b else if b = "" then a else a ++ " " ++ b

/-- The words of the lines of a comment, in order. -/
def allWords (comment : List Char) : List (List Char) :=
  (pieces (· == '\n') comment).flatMap lineWords

/-- The words of a comment are words. -/
lemma isWord_of_mem_allWords {comment word : List Char} (mem : word ∈ allWords comment) :
    IsWord word := by
  obtain ⟨line, _, inLine⟩ := List.mem_flatMap.1 mem
  exact isWord_of_mem_words inLine

/-- The words of two comments one above the other are those of the upper one and then those of the
lower one. -/
lemma allWords_append (above below : List Char) :
    allWords (above ++ '\n' :: below) = allWords above ++ allWords below := by
  have cut := pieces_append_cons (p := (· == '\n')) (c := '\n') rfl above below
  rw [allWords, cut, List.flatMap_append, allWords, allWords]

/-- How a line ends makes no difference to its words, and an empty line has none. -/
lemma flatMap_lineWords_closeLines (pieces : List (List Char)) :
    (closeLines pieces).flatMap lineWords = pieces.flatMap lineWords := by
  fun_induction closeLines pieces with
  | case1 => rfl
  | case2 last empty =>
    rw [List.isEmpty_iff] at empty
    rw [empty]
    rfl
  | case3 last some => rfl
  | case4 line rest more ih =>
    have same : lineWords (dropReturn line) = lineWords line := by
      rw [lineWords, trim_dropReturn, lineWords]
    rw [List.flatMap_cons, List.flatMap_cons, same, ih]

/-- A normalized comment is its words, joined by spaces. -/
lemma normalizeChars_eq (comment : List Char) :
    normalizeChars comment = joinWith [' '] (allWords comment) := by
  rw [normalizeChars, lines, flatMap_lineWords_closeLines, allWords]

/-- The normalized text has the same characters. -/
lemma toList_normalize (comment : String) :
    (normalize comment).toList = joinWith [' '] (allWords comment.toList) := by
  rw [normalize, String.toList_ofList, normalizeChars_eq]

/-- A comment with words is not normalized to the empty text. -/
lemma normalize_eq_empty_iff (comment : String) :
    normalize comment = "" ↔ allWords comment.toList = [] := by
  rw [← String.toList_inj, toList_normalize, String.toList_empty]
  cases ws : allWords comment.toList with
  | nil => simp [joinWith]
  | cons word rest =>
    have isWord : IsWord word := isWord_of_mem_allWords (ws ▸ List.mem_cons_self)
    simp [joinWith_ne_nil isWord.nonempty]

/-- A normalized comment has no white space but single spaces between words. -/
lemma isSpaced_normalize (comment : String) : IsSpaced (normalize comment).toList := by
  rw [toList_normalize]
  exact isSpaced_joinWith fun word mem => isWord_of_mem_allWords mem

/-- Two comments that are normalized and put together have the words of both. -/
lemma toList_spaced_normalize (above below : String) :
    (spaced (normalize above) (normalize below)).toList =
      joinWith [' '] (allWords above.toList ++ allWords below.toList) := by
  rw [spaced]
  split
  · rename_i empty
    rw [normalize_eq_empty_iff] at empty
    rw [empty, List.nil_append, toList_normalize]
  · rename_i some
    rw [normalize_eq_empty_iff] at some
    split
    · rename_i empty
      rw [normalize_eq_empty_iff] at empty
      rw [empty, List.append_nil, toList_normalize]
    · rename_i more
      rw [normalize_eq_empty_iff] at more
      rw [joinWith_append some more, String.toList_append, String.toList_append, toList_normalize,
        toList_normalize]
      rfl

/-- Normalizing a comment leaves nothing but its words, in order and with single spaces between them: those
of its lines, without white space and markers around each line. So comments one above the other are
normalized one by one. -/
theorem normalize_keeps_words (comment above below : String) :
    IsSpaced (normalize comment).toList ∧
      (∃ texts, List.Forall₂ IsTextOf (comment.toList.splitOn '\n') texts ∧
        unbroken (normalize comment).toList = texts.flatMap unbroken) ∧
      normalize (above ++ "\n" ++ below) = spaced (normalize above) (normalize below) := by
  refine ⟨isSpaced_normalize comment, ?words, ?lines⟩
  case words =>
    refine ⟨(comment.toList.splitOn '\n').map fun line => trimWhere (· == '#') (trim line), ?_, ?_⟩
    · rw [List.forall₂_map_right_iff, List.forall₂_same]
      intro line _
      exact ⟨trim line, isTrimmed_trimWhere line, isTrimmed_trimWhere (trim line)⟩
    · rw [toList_normalize, ← words_eq_unbroken, words_joinWith fun word mem => isWord_of_mem_allWords mem,
        allWords, pieces_eq_splitOnP, ← List.splitOn_eq_splitOnP, List.flatMap_map]
      exact List.flatMap_congr fun line _ => words_eq_unbroken _
  case lines =>
    have split : allWords (above ++ "\n" ++ below).toList =
        allWords above.toList ++ allWords below.toList := by
      rw [← allWords_append, String.toList_append, String.toList_append, List.append_assoc]
      rfl
    rw [← String.toList_inj, toList_normalize, split, toList_spaced_normalize]

end Comment

end RecordSchema
