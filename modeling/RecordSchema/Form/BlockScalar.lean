import RecordSchema.Form.Input
import RecordSchema.Yaml.BlockScalar

/-!
# Block scalars of a form

A literal or folded scalar is read in two steps: its lines, each with the line breaks behind it, and
then the text that they fold to. The break that ends the last line belongs to the text only where it
is written: a text that ends with the content adds none.
-/

namespace RecordSchema.Form

open Yaml (BlockHeader Chomping Input SyntaxError readBlockHeader startsBlank)

/-- A content line, the break that ends it, if there is one, and the breaks of the empty lines
below. -/
structure BlockLine where
  text : List Char
  ending : Option Char
  below : List Char
deriving DecidableEq, Repr

/-- Skips indentation up to a column and empty lines; answers their breaks. A tab may not stand in
the place of indentation. -/
def skipBlockIndent (indent : Nat) (breaks : List Char) :
    Input → Except SyntaxError (List Char × Input)
  | [] => .ok (breaks.reverse, [])
  | g :: rest =>
    if g.char = ' ' ∧ g.mark.column < indent then skipBlockIndent indent breaks rest
    else if g.char = '\t' ∧ g.mark.column < indent then .error .tabIndentation
    else if isBreak g.char then skipBlockIndent indent (g.char :: breaks) rest
    else .ok (breaks.reverse, g :: rest)

/-- Skips spaces and empty lines; answers the deepest column that they reach and their breaks. -/
def detectBlockIndent (deepest : Nat) (breaks : List Char) :
    Input → Except SyntaxError (Nat × List Char × Input)
  | [] => .ok (deepest, breaks.reverse, [])
  | g :: rest =>
    let deepest := max deepest g.mark.column
    if g.char = ' ' then detectBlockIndent deepest breaks rest
    else if g.char = '\t' then .error .tabIndentation
    else if isBreak g.char then detectBlockIndent deepest (g.char :: breaks) rest
    else .ok (deepest, breaks.reverse, g :: rest)

/-- Skipping indentation keeps to the input. -/
theorem length_skipBlockIndent_le {indent : Nat} {breaks breaks' : List Char} {i rest : Input}
    (h : skipBlockIndent indent breaks i = .ok (breaks', rest)) : rest.length ≤ i.length := by
  fun_induction skipBlockIndent indent breaks i with
  | case1 => simp_all
  | case2 _ _ _ _ ih | case4 _ _ _ _ _ _ ih =>
    have := ih h
    simp only [List.length_cons]
    omega
  | case3 => simp at h
  | case5 => simp_all

/-- The lines of a block scalar from a place on, and what follows them. -/
def readBlockLines (indent : Nat) (i : Input) : Except SyntaxError (List BlockLine × Input) :=
  if i.column == indent && !i.atEnd then
    let text := i.takeChars (!endsLine ·)
    let after := skipLine i
    if after.atEnd then
      .ok ([⟨text, none, []⟩], after)
    else
      match _hnext : skipBlockIndent indent [] (after.drop 1) with
      | .error e => .error e
      | .ok (below, next) =>
        match readBlockLines indent next with
        | .error e => .error e
        | .ok (lines, rest) => .ok (⟨text, some after.peek, below⟩ :: lines, rest)
  else
    .ok ([], i)
termination_by i.length
decreasing_by
  rename_i hend
  have hle : (skipLine i).length ≤ i.length := Input.length_skipChars_le i _
  have hskip := length_skipBlockIndent_le _hnext
  have hne : skipLine i ≠ [] := by
    intro hnil
    apply hend
    simp [after, hnil, Input.atEnd, Input.peek]
  have hpos := List.length_pos_iff.2 hne
  simp only [after, List.length_drop] at hskip
  omega

/-- What stands between two lines of a block scalar. A line feed is folded unless a blank starts one
of the lines. -/
def blockJoint (literal : Bool) (above : BlockLine) (text : List Char) : List Char :=
  if literal || above.ending != some '\n' || startsBlank above.text || startsBlank text then
    above.ending.toList ++ above.below
  else if above.below.isEmpty then
    [' ']
  else
    above.below

/-- The lines below a line, with what stands between. -/
def foldBlockLines (literal : Bool) (above : BlockLine) : List BlockLine → List Char
  | [] => []
  | line :: rest =>
    blockJoint literal above line.text ++ line.text ++ foldBlockLines literal line rest

/-- The breaks behind a line that is the last one. -/
def chomp (chomping : Chomping) (last : BlockLine) : List Char :=
  match chomping with
  | .strip => []
  | .clip => last.ending.toList
  | .keep => last.ending.toList ++ last.below

/-- The text that the lines of a block scalar fold to, with so many breaks above them. -/
def foldBlock (header : BlockHeader) (above : List Char) (lines : List BlockLine) : List Char :=
  match lines with
  | [] => chomp header.chomping ⟨[], none, above⟩
  | line :: rest =>
    above ++ line.text ++ foldBlockLines header.literal line rest ++
      chomp header.chomping ((line :: rest).getLast (List.cons_ne_nil line rest))

/-- Skips what precedes the content: the indentation of the content, the breaks of the empty lines
above it, and the rest of the input. The indentation is the parent's and the one the header gives,
or that of the first content line or a deeper empty line above it. -/
def enterBlock (parent : Int) (indent : Option Nat) (i : Input) :
    Except SyntaxError (Nat × List Char × Input) :=
  match indent with
  | some n =>
    let indent := (max parent 0).toNat + n
    (skipBlockIndent indent [] i).map (indent, ·)
  | none =>
    (detectBlockIndent 0 [] i).map fun (deepest, found) =>
      (max (max deepest (parent + 1).toNat) 1, found)

/-- Reads a block scalar after its `|` or `>`, given the column of the parent block: its text and the
rest of the input. -/
def readBlockScalar (literal : Bool) (parent : Int) (i : Input) :
    Except SyntaxError (List Char × Input) :=
  match readBlockHeader literal i with
  | .error e => .error e
  | .ok (header, i) =>
    let i := skipLineRest i
    if !endsLine i.peek then
      .error .badBlockHeader
    else
      match enterBlock parent header.indent (skipBreak i) with
      | .error e => .error e
      | .ok (indent, above, i) =>
        match readBlockLines indent i with
        | .error e => .error e
        | .ok (lines, rest) => .ok (foldBlock header above lines, rest)

end RecordSchema.Form
