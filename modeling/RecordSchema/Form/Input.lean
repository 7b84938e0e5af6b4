import RecordSchema.Yaml.Input

/-!
# The text of a form

A form is a YAML text with fixed fields: settings, a manifest or a type map. Its lines may also end
with a next-line character, which counts as a line feed, or with a line or paragraph separator,
which is a line break that keeps its own character. A byte order mark at the start of the text takes
up a column and is otherwise ignored.
-/

namespace RecordSchema.Form

open Yaml (Input Mark isBlank)

/-! ### Character classes -/

/-- A character that a form may hold: no control character but tabs and line breaks, and no code
point that is reserved for internal use. -/
def isPermitted (c : Char) : Bool :=
  let n := c.toNat
  c == '\t' || c == '\n' || c == '\r' || (0x20 ≤ n && n ≤ 0x7E) || n == 0x85 ||
    (0xA0 ≤ n && n ≤ 0xFFFD) || 0x10000 ≤ n

/-- A line break. -/
def isBreak (c : Char) : Bool :=
  c == '\n' || c == '\u2028' || c == '\u2029'

/-- A line break or the end of the text. -/
def endsLine (c : Char) : Bool :=
  isBreak c || c == '\x00'

/-- A character that separates words: blank, line break or end. -/
def separates (c : Char) : Bool :=
  isBlank c || endsLine c

/-! ### Input -/

/-- The characters of a text with their places. -/
def locate (m : Mark) (leads : Bool) : List Char → Input
  | [] => [⟨'\x00', m, leads⟩]
  | '\r' :: '\n' :: rest => ⟨'\n', m, leads⟩ :: locate (m.below 2) true rest
  | c :: rest =>
    if c = '\n' ∨ c = '\r' ∨ c = '\u0085' then
      ⟨'\n', m, leads⟩ :: locate (m.below 1) true rest
    else if isBreak c then
      ⟨c, m, leads⟩ :: locate (m.below 1) true rest
    else
      ⟨c, m, leads⟩ :: locate m.right (leads && isBlank c) rest

/-- The input for a whole text. -/
def inputOf : List Char → Input
  | '\ufeff' :: rest => locate Mark.start.right true rest
  | text => locate .start true text

/-- The input from the end of the current line on. -/
def skipLine (i : Input) : Input :=
  i.skipChars (!endsLine ·)

/-- The input behind a line break, if it starts with one. -/
def skipBreak (i : Input) : Input :=
  if isBreak i.peek then i.drop 1 else i

/-- Skips the blanks on the line, and a comment after them. -/
def skipLineRest (i : Input) : Input :=
  let rest := i.skipChars isBlank
  if rest.peek = '#' then skipLine rest else rest

/-- Three equal characters at the start of a line that stand alone: a document marker. -/
def atMarker (i : Input) (c : Char) : Bool :=
  i.column == 0 && i.peek == c && i.peekAt 1 == c && i.peekAt 2 == c && separates (i.peekAt 3)

/-- A document start or document end marker. -/
def atDocumentMarker (i : Input) : Bool :=
  atMarker i '-' || atMarker i '.'

end RecordSchema.Form
