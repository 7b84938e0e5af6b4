import RecordSchema.Yaml.SyntaxError

/-!
# Located text

The characters of a text with their places. A line break in any of its spellings is one line feed,
and the text ends with a NUL, which also cuts off everything after the first NUL it holds; so there
is always a next character to look at. Main statement: nothing that is skipped comes back, the
rest of an input is never longer than the input.
-/

namespace RecordSchema.Yaml

/-- A place in a text: how many characters precede it, its line from 1, its column from 0. -/
structure Mark where
  index : Nat
  line : Nat
  column : Nat
deriving DecidableEq, Repr, Inhabited

/-- The start of a text. -/
def Mark.start : Mark :=
  ⟨0, 1, 0⟩

/-- The place after a character that stays on the line. -/
def Mark.right (m : Mark) : Mark :=
  ⟨m.index + 1, m.line, m.column + 1⟩

/-- The place after a line break of so many characters. -/
def Mark.below (m : Mark) (size : Nat) : Mark :=
  ⟨m.index + size, m.line + 1, 0⟩

/-- Something at a place. -/
structure Located (α : Type) where
  value : α
  mark : Mark
deriving DecidableEq, Repr

/-! ### Character classes -/

/-- A space or a tab. -/
def isBlank (c : Char) : Bool :=
  c == ' ' || c == '\t'

/-- A line break or the end of the text. -/
def endsLine (c : Char) : Bool :=
  c == '\n' || c == '\x00'

/-- A character that separates words: blank, line break or end. -/
def isBlankOrEnd (c : Char) : Bool :=
  isBlank c || endsLine c

/-- The indicators of flow collections. -/
def isFlowIndicator (c : Char) : Bool :=
  c == ',' || c == '[' || c == ']' || c == '{' || c == '}'

/-- The characters of handles and directive names. -/
def isNameChar (c : Char) : Bool :=
  c.isAlphanum || c == '_' || c == '-'

/-- The value of a hexadecimal digit. -/
def hexValue? (c : Char) : Option Nat :=
  if c.isDigit then some (c.toNat - '0'.toNat)
  else if 'a' ≤ c ∧ c ≤ 'f' then some (c.toNat - 'a'.toNat + 10)
  else if 'A' ≤ c ∧ c ≤ 'F' then some (c.toNat - 'A'.toNat + 10)
  else none

/-! ### Input -/

/-- A character of a text, its place, and whether only blanks precede it on its line. -/
structure Glyph where
  char : Char
  mark : Mark
  leads : Bool
deriving DecidableEq, Repr

/-- What is left of a text. -/
abbrev Input := List Glyph

/-- The characters of a text with their places. -/
def Input.locate (m : Mark) (leads : Bool) : List Char → Input
  | [] => [⟨'\x00', m, leads⟩]
  | '\r' :: '\n' :: rest => ⟨'\n', m, leads⟩ :: locate (m.below 2) true rest
  | c :: rest =>
    if c = '\n' ∨ c = '\r' then
      ⟨'\n', m, leads⟩ :: locate (m.below 1) true rest
    else if c = '\x00' then
      [⟨'\x00', m, leads⟩]
    else
      ⟨c, m, leads⟩ :: locate m.right (leads && isBlank c) rest

/-- The input for a whole text. -/
def Input.ofText (s : List Char) : Input :=
  locate .start true s

namespace Input

/-- The next character. -/
def peek : Input → Char
  | [] => '\x00'
  | g :: _ => g.char

/-- The character after `n` others. -/
def peekAt (i : Input) (n : Nat) : Char :=
  peek (i.drop n)

/-- The place of the next character. -/
def mark : Input → Mark
  | [] => .start
  | g :: _ => g.mark

/-- The column of the next character. -/
def column (i : Input) : Nat :=
  i.mark.column

/-- The input is used up. -/
def atEnd (i : Input) : Bool :=
  i.peek == '\x00'

/-- The characters up to the first that fails a test. -/
def takeChars (i : Input) (p : Char → Bool) : List Char :=
  (i.takeWhile (p ·.char)).map Glyph.char

/-- The input from the first character on that fails a test. -/
def skipChars (i : Input) (p : Char → Bool) : Input :=
  i.dropWhile (p ·.char)

/-- The input from the end of the current line on. -/
def skipLine (i : Input) : Input :=
  i.skipChars (!endsLine ·)

/-- The input behind a line break, if it starts with one. -/
def skipBreak (i : Input) : Input :=
  if i.peek = '\n' then i.drop 1 else i

/-- Three equal characters at the start of a line that stand alone: a document marker. -/
def atMarker (i : Input) (c : Char) : Bool :=
  i.column == 0 && i.peek == c && i.peekAt 1 == c && i.peekAt 2 == c && isBlankOrEnd (i.peekAt 3)

/-- A document start or document end marker. -/
def atDocumentMarker (i : Input) : Bool :=
  i.atMarker '-' || i.atMarker '.'

/-- The rest of the line holds blanks and at most a comment. -/
def restIsEmpty (i : Input) : Bool :=
  let c := (i.skipChars isBlank).peek
  endsLine c || c == '#'

/-- Which blanks were skipped. -/
structure Blanks where
  space : Bool
  tab : Bool
deriving DecidableEq, Repr

/-- Skips the blanks on the line, tabs only where they are allowed, and a comment after them. -/
def skipBlanks (i : Input) (tabs : Bool) : Except SyntaxError (Blanks × Input) :=
  let isSkipped (c : Char) : Bool := c == ' ' || (tabs && c == '\t')
  let skipped := i.takeChars isSkipped
  let rest := i.skipChars isSkipped
  let blanks : Blanks := ⟨skipped.contains ' ', skipped.contains '\t'⟩
  if rest.peek = '#' then
    if skipped.isEmpty then .error .attachedComment else .ok (blanks, rest.skipLine)
  else
    .ok (blanks, rest)

/-- Skipping keeps to the input. -/
theorem length_skipChars_le (i : Input) (p : Char → Bool) :
    (i.skipChars p).length ≤ i.length := by
  unfold skipChars
  exact (List.dropWhile_sublist _).length_le

/-- Skipping a line break keeps to the input. -/
theorem length_skipBreak_le (i : Input) : i.skipBreak.length ≤ i.length := by
  unfold skipBreak
  split
  · simp only [List.length_drop]
    omega
  · exact Nat.le_refl _

end Input

end RecordSchema.Yaml
