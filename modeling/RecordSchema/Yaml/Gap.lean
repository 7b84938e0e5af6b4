import RecordSchema.Yaml.Input

/-!
# Gaps in flow scalars

Between two runs of content a quoted or plain scalar holds blanks, which stay as they are, or line
breaks with blanks around them, which are folded: one break is a space, and of more breaks the
first is dropped.
-/

namespace RecordSchema.Yaml

/-- What stands between two runs of content. -/
inductive Gap where
  /-- blanks on one line, the last one first -/
  | blanks (reversed : List Char)
  /-- a line break, and so many more -/
  | folded (more : Nat)
  /-- an escaped line break, which is dropped, and so many others -/
  | joined (more : Nat)
deriving DecidableEq, Repr

namespace Gap

/-- No gap. -/
def none : Gap :=
  blanks []

/-- The gap spans lines. -/
def spansLines : Gap → Bool
  | blanks _ => false
  | folded _ | joined _ => true

/-- A further blank counts only while the gap keeps to its line. -/
def addBlank (c : Char) : Gap → Gap
  | blanks cs => blanks (c :: cs)
  | gap => gap

/-- A line break drops the blanks before it. -/
def addBreak : Gap → Gap
  | blanks _ => folded 0
  | folded n => folded (n + 1)
  | joined n => joined (n + 1)

/-- What a gap leaves in the scalar, the last character first. -/
def reversedText : Gap → List Char
  | blanks cs => cs
  | folded 0 => [' ']
  | folded (n + 1) => List.replicate (n + 1) '\n'
  | joined n => List.replicate n '\n'

end Gap

end RecordSchema.Yaml
