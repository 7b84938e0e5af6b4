import Mathlib
import RecordSchema.Source.Lines

/-!
# Comments behind written values

The scan for the comment of a line passes over a value, quoted or not, whatever is in it. Main statements:
`commentFrom_double`, `commentFrom_single` and `commentFrom_plain`, each way to write a text brings the
scan to its end, outside of quotes, and `commentIn_entry`.
-/

namespace RecordSchema

/-- A quote of either kind. -/
def isQuote (c : Char) : Bool :=
  c == '\'' || c == '"'

/-! ### Ways to write a text -/

/-- A character between double quotes: a quote or backslash comes behind a backslash. -/
def escapedChar (c : Char) : List Char :=
  if c = '\\' ∨ c = '"' then ['\\', c] else [c]

/-- A character between single quotes: a quote comes twice. -/
def doubledChar (c : Char) : List Char :=
  if c = '\'' then ['\'', '\''] else [c]

/-- The text can do without quotes: there is none in it, and no marker of a comment at its start or behind
white space. -/
structure IsBare (s : List Char) : Prop where
  unquoted : ∀ c ∈ s, isQuote c = false
  attached : ∀ before after, s = before ++ '#' :: after →
    ∃ c ∈ before.getLast?, Text.isBlank c = false

/-- The ways to write a text down as a value. -/
inductive IsWrittenAs (s : List Char) : List Char → Prop where
  | double : IsWrittenAs s ('"' :: s.flatMap escapedChar ++ ['"'])
  | single : IsWrittenAs s ('\'' :: s.flatMap doubledChar ++ ['\''])
  | bare : IsBare s → IsWrittenAs s s

/-! ### Scanning what is written -/

/-- A double quote that ends the text is the first one that the scan takes for an end. -/
lemma commentFrom_double (prev : Option Char) (s rest : List Char) :
    commentFrom .double prev (s.flatMap escapedChar ++ '"' :: rest) =
      commentFrom .none (some '"') rest := by
  induction s generalizing prev with
  | nil => simp [commentFrom]
  | cons c s ih =>
    rw [List.flatMap_cons, List.append_assoc, escapedChar]
    split
    · -- the backslash takes the character along
      simp only [List.cons_append, List.nil_append, commentFrom, if_true, ih]
    · rename_i ordinary
      rw [not_or] at ordinary
      simp only [List.cons_append, List.nil_append, commentFrom, if_neg ordinary.1,
        if_neg ordinary.2, ih]

/-- A single quote that ends the text is the first one that stands alone. -/
lemma commentFrom_single (prev : Option Char) (s : List Char) {rest : List Char}
    (alone : rest.head? ≠ some '\'') :
    commentFrom .single prev (s.flatMap doubledChar ++ '\'' :: rest) =
      commentFrom .none (some '\'') rest := by
  induction s generalizing prev with
  | nil =>
    cases rest with
    | nil => simp [commentFrom]
    | cons d rest =>
      have other : d ≠ '\'' := by
        rintro rfl
        exact alone rfl
      simp [commentFrom, other]
  | cons c s ih =>
    rw [List.flatMap_cons, List.append_assoc, doubledChar]
    split
    · -- the second quote of a pair is taken along
      simp only [List.cons_append, List.nil_append, commentFrom, if_true, ih]
    · rename_i ordinary
      rw [List.cons_append, List.nil_append, commentFrom.eq_def]
      simp only [if_neg ordinary, ih]

/-- Without quotes, and without markers behind white space, the scan goes to the end of a text. -/
lemma commentFrom_plain {prev : Option Char} {s : List Char}
    (unquoted : ∀ c ∈ s, isQuote c = false)
    (attached : ∀ before after, s = before ++ '#' :: after →
      ∃ c ∈ before.getLast?.or prev, Text.isBlank c = false) (rest : List Char) :
    commentFrom .none prev (s ++ rest) = commentFrom .none (s.getLast?.or prev) rest := by
  induction s generalizing prev with
  | nil => rfl
  | cons c s ih =>
    rw [List.forall_mem_cons, isQuote, Bool.or_eq_false_iff, beq_eq_false_iff_ne,
      beq_eq_false_iff_ne] at unquoted
    -- A marker that is attached to what is in front of it begins no comment.
    have noMarker : ¬ (c = '#' ∧ prev.all Text.isBlank) := by
      rintro ⟨rfl, blank⟩
      obtain ⟨d, isPrev, notBlank⟩ := attached [] s rfl
      rw [List.getLast?_nil, Option.none_or] at isPrev
      rw [Option.mem_def.1 isPrev, Option.all_some, notBlank] at blank
      cases blank
    have step : commentFrom .none prev (c :: s ++ rest) = commentFrom .none (some c) (s ++ rest) := by
      rw [List.cons_append, commentFrom]
      simp only [if_neg noMarker, unquoted.1.1, unquoted.1.2, false_and, if_false]
    have next : s.getLast?.or (some c) = (c :: s).getLast?.or prev := by
      rw [List.getLast?_cons]
      cases s.getLast? <;> rfl
    rw [step, ih unquoted.2, next]
    intro before after split
    have whole := attached (c :: before) after (by rw [split, List.cons_append])
    rw [List.getLast?_cons] at whole
    cases last : before.getLast? <;> simpa [last] using whole

/-- From white space on, the scan passes over a value however it is written. -/
lemma IsWrittenAs.commentFrom_eq {s value : List Char} (written : IsWrittenAs s value) {rest : List Char}
    (alone : rest.head? ≠ some '\'') :
    ∃ prev, commentFrom .none (some ' ') (value ++ rest) = commentFrom .none prev rest := by
  have opens : startsToken (some ' ') = true := by decide
  cases written with
  | double =>
    refine ⟨some '"', ?_⟩
    rw [List.cons_append, List.cons_append, List.append_assoc, List.singleton_append,
      ← commentFrom_double (some '"') s rest, commentFrom]
    simp [opens]
  | single =>
    refine ⟨some '\'', ?_⟩
    rw [List.cons_append, List.cons_append, List.append_assoc, List.singleton_append,
      ← commentFrom_single (some '\'') s alone, commentFrom]
    simp [opens]
  | bare bare =>
    refine ⟨s.getLast?.or (some ' '), commentFrom_plain bare.unquoted ?_ rest⟩
    intro before after split
    obtain ⟨c, isLast, notBlank⟩ := bare.attached before after split
    exact ⟨c, by rw [Option.mem_def.1 isLast]; rfl, notBlank⟩

/-- In a line with a key and a value, the comment begins at the marker behind them, whatever text the value
holds and however it is written; and without that marker there is none. -/
theorem commentIn_entry {key s value : List Char}
    (plain : ∀ c ∈ key, c ≠ '#' ∧ isQuote c = false) (written : IsWrittenAs s value)
    (comment : List Char) :
    commentIn (key ++ [':', ' '] ++ value ++ [' ', '#'] ++ comment) = some ('#' :: comment) ∧
      commentIn (key ++ [':', ' '] ++ value) = none := by
  have lead (rest : List Char) :
      commentIn (key ++ [':', ' '] ++ rest) = commentFrom .none (some ' ') rest := by
    have unquoted : ∀ c ∈ key ++ [':', ' '], isQuote c = false := by
      rw [List.forall_mem_append]
      exact ⟨fun c mem => (plain c mem).2, by simp [isQuote]⟩
    have unmarked : '#' ∉ key ++ [':', ' '] := by
      rw [List.mem_append, not_or]
      exact ⟨fun mem => (plain '#' mem).1 rfl, by decide⟩
    rw [commentIn, commentFrom_plain unquoted, List.getLast?_append]
    · rfl
    · intro before after split
      exact absurd (by rw [split]; simp) unmarked
  constructor
  case left =>
    have alone : ([' ', '#'] ++ comment).head? ≠ some '\'' := by simp
    have blank : Text.isBlank ' ' = true := by decide
    obtain ⟨prev, scanned⟩ := written.commentFrom_eq alone
    rw [List.append_assoc, List.append_assoc, lead, scanned]
    simp [commentFrom, blank]
  case right =>
    have alone : ([] : List Char).head? ≠ some '\'' := by simp
    obtain ⟨prev, scanned⟩ := written.commentFrom_eq alone
    rw [List.append_nil] at scanned
    rw [lead, scanned, commentFrom]

/-- A marker between quotes is passed over, with escaped quotes and backslashes around it, and so is one
within a word. -/
theorem commentIn_entry_text :
    (commentIn "text: \"a \\\" # \\\\\" # c".toList = some "# c".toList ∧
        commentIn "text: \"a \\\" # \\\\\"".toList = none) ∧
      commentIn "text: a#b # c".toList = some "# c".toList ∧ commentIn "text: a#b".toList = none := by
  have plain : ∀ c ∈ "text".toList, c ≠ '#' ∧ isQuote c = false := by simp [isQuote]
  have quoted : IsWrittenAs "a \" # \\".toList "\"a \\\" # \\\\\"".toList := .double
  have bare : IsBare "a#b".toList := by
    refine ⟨by simp [isQuote], ?_⟩
    intro before after split
    have chars : "a#b".toList = ['a', '#', 'b'] := by simp
    rw [chars] at split
    rcases before with _ | ⟨c, _ | ⟨d, rest⟩⟩
    · cases split
    · cases split
      exact ⟨'a', rfl, by decide⟩
    · -- behind the marker there is no other one
      obtain ⟨_, _, last⟩ : 'a' = c ∧ '#' = d ∧ ['b'] = rest ++ '#' :: after := by simpa using split
      have marker : '#' ∈ ['b'] := by simp [last]
      exact absurd marker (by decide)
  exact ⟨commentIn_entry plain quoted " c".toList, commentIn_entry plain (.bare bare) " c".toList⟩

end RecordSchema
