import RecordSchema.Form.Input

/-!
# Gaps in the scalars of a form

Between two runs of content a quoted or plain scalar holds blanks, which stay as they are, or line
breaks with blanks around them. A single line feed is folded to a space, and a line feed in front of
other breaks is dropped; a separator that comes first stays.
-/

namespace RecordSchema.Form

/-- What stands between two runs of content. -/
inductive Gap where
  /-- blanks on one line, the last one first -/
  | blanks (reversed : List Char)
  /-- a line break, unless it is escaped, and the others, the last one first -/
  | lines (first : Option Char) (reversed : List Char)
deriving DecidableEq, Repr

namespace Gap

/-- No gap. -/
def none : Gap :=
  blanks []

/-- An escaped line break. -/
def escaped : Gap :=
  lines Option.none []

/-- The gap spans lines. -/
def spansLines : Gap → Bool
  | blanks _ => false
  | lines _ _ => true

/-- A further blank counts only while the gap keeps to its line. -/
def addBlank (c : Char) : Gap → Gap
  | blanks cs => blanks (c :: cs)
  | gap => gap

/-- A line break drops the blanks before it. -/
def addBreak (c : Char) : Gap → Gap
  | blanks _ => lines (some c) []
  | lines first cs => lines first (c :: cs)

/-- What a gap leaves in the scalar, the last character first. -/
def reversedText : Gap → List Char
  | blanks cs => cs
  | lines (some '\n') [] => [' ']
  | lines (some '\n') cs => cs
  | lines first cs => cs ++ first.toList

end Gap

end RecordSchema.Form
