import RecordSchema.Yaml.Input

/-!
# Block scalars

A literal or folded scalar is read in two steps: its lines, each with the number of empty lines
before it, and then the text that they fold to. Main statement: reading the lines uses up input,
so there are finitely many.
-/

namespace RecordSchema.Yaml

/-- What happens to the line breaks after the last line. -/
inductive Chomping where
  | strip
  | clip
  | keep
deriving DecidableEq, Repr

/-- The header of a block scalar. -/
structure BlockHeader where
  literal : Bool
  chomping : Chomping
  indent : Option Nat
deriving DecidableEq, Repr

/-- A content line, and how many empty lines precede it. -/
structure BlockLine where
  emptyBefore : Nat
  text : List Char
deriving DecidableEq, Repr

/-- The chomping indicators. -/
def chomping? (c : Char) : Option Chomping :=
  if c = '+' then some .keep else if c = '-' then some .strip else none

/-- A chomping indicator at the start of the input, and what follows. -/
def readChomping (i : Input) : Option Chomping × Input :=
  match chomping? i.peek with
  | some chomping => (some chomping, i.drop 1)
  | none => (none, i)

/-- An indentation indicator at the start of the input, and what follows. -/
def readIndentation (i : Input) : Option Nat × Input :=
  if i.peek.isDigit then (some (i.peek.toNat - '0'.toNat), i.drop 1) else (none, i)

/-- The indicators of chomping and indentation, in either order; the indentation is not zero. -/
def readBlockHeader (literal : Bool) (i : Input) : Except SyntaxError (BlockHeader × Input) :=
  let first := readChomping i
  let indent := readIndentation first.2
  let second :=
    if first.1.isNone && indent.1.isSome then readChomping indent.2 else (none, indent.2)
  if indent.1 = some 0 then .error .badBlockHeader
  else .ok (⟨literal, (first.1 <|> second.1).getD .clip, indent.1⟩, second.2)

/-- Skips indentation up to a column and empty lines, which are counted. -/
def skipBlockIndent (indent : Nat) (empty : Nat) : Input → Nat × Input
  | [] => (empty, [])
  | g :: rest =>
    if g.char = ' ' ∧ g.mark.column < indent then skipBlockIndent indent empty rest
    else if g.char = '\n' then skipBlockIndent indent (empty + 1) rest
    else (empty, g :: rest)

/-- Skips spaces and empty lines, which are counted, and finds the deepest column that they
reach. -/
def detectBlockIndent (deepest empty : Nat) : Input → Nat × Nat × Input
  | [] => (deepest, empty, [])
  | g :: rest =>
    let deepest := max deepest g.mark.column
    if g.char = ' ' then detectBlockIndent deepest empty rest
    else if g.char = '\n' then detectBlockIndent deepest (empty + 1) rest
    else (deepest, empty, g :: rest)

/-- Skipping indentation keeps to the input. -/
theorem length_skipBlockIndent_le (indent empty : Nat) (i : Input) :
    (skipBlockIndent indent empty i).2.length ≤ i.length := by
  fun_induction skipBlockIndent indent empty i with
  | case1 => simp
  | case2 _ _ _ _ ih | case3 _ _ _ _ _ ih =>
    simp only [List.length_cons]
    omega
  | case4 => simp

/-- The lines of a block scalar from a place on, what follows them, how many empty lines come after
the last one, and whether a line break ended the last one. -/
structure BlockBody where
  lines : List BlockLine
  emptyAfter : Nat
  lastEnded : Bool
  rest : Input

/-- A content line begins here: at the indentation, and not at a document end marker. -/
def atBlockLine (indent : Nat) (i : Input) : Bool :=
  i.column == indent && !i.atEnd && !(indent == 0 && i.atMarker '.')

/-- Reads the lines from a place on that so many empty lines precede. -/
def readBlockBody (indent empty : Nat) (ended : Bool) (i : Input) : BlockBody :=
  if atBlockLine indent i then
    let text := i.takeChars (!endsLine ·)
    let after := i.skipLine
    if after.atEnd then
      ⟨[⟨empty, text⟩], 0, false, after⟩
    else
      let next := skipBlockIndent indent 0 (after.drop 1)
      let body := readBlockBody indent next.1 true next.2
      { body with lines := ⟨empty, text⟩ :: body.lines }
  else
    ⟨[], empty, ended, i⟩
termination_by i.length
decreasing_by
  rename_i hend
  have hle : i.skipLine.length ≤ i.length := Input.length_skipChars_le i _
  have hskip := length_skipBlockIndent_le indent 0 (i.skipLine.drop 1)
  have hne : i.skipLine ≠ [] := by
    intro hnil
    apply hend
    simp [after, hnil, Input.atEnd, Input.peek]
  have hpos := List.length_pos_iff.2 hne
  simp only [List.length_drop] at hskip
  omega

/-- The line starts with a blank, which keeps a folded scalar from folding around it. -/
def startsBlank (text : List Char) : Bool :=
  text.head?.any isBlank

/-- What stands between two lines of a block scalar. -/
def blockJoint (literal : Bool) (above : List Char) (line : BlockLine) : List Char :=
  if literal || startsBlank above || startsBlank line.text then
    List.replicate (line.emptyBefore + 1) '\n'
  else if line.emptyBefore = 0 then
    [' ']
  else
    List.replicate line.emptyBefore '\n'

/-- The lines below a line, with what stands between. -/
def foldBlockLines (literal : Bool) (above : List Char) : List BlockLine → List Char
  | [] => []
  | line :: rest =>
    blockJoint literal above line ++ line.text ++ foldBlockLines literal line.text rest

/-- The text that the lines of a block scalar fold to. -/
def foldBlock (literal : Bool) : List BlockLine → List Char
  | [] => []
  | line :: rest =>
    List.replicate line.emptyBefore '\n' ++ line.text ++ foldBlockLines literal line.text rest

/-- The line breaks after the last line. At the end of the text a last line that is indented like
the scalar counts as ended. -/
def chomp (chomping : Chomping) (indent : Nat) (body : BlockBody) : List Char :=
  let last :=
    (if body.lastEnded then ['\n'] else []) ++
      (if body.rest.atEnd && decide (max indent 1 ≤ body.rest.column) then ['\n'] else [])
  match chomping with
  | .strip => []
  | .clip => last
  | .keep => last ++ List.replicate body.emptyAfter '\n'

/-- The text of a block scalar that ends with its header or with empty lines. -/
def emptyBlock (chomping : Chomping) (headerEnded : Bool) (empty : Nat) : List Char :=
  if !headerEnded then []
  else
    match chomping with
    | .strip => []
    | .clip => ['\n']
    | .keep => List.replicate (max empty 1) '\n'

/-- The indentation of the content: the parent's and the one the header gives, or that of the
first content line or a deeper empty line above it. -/
def blockIndent (parent : Int) (deepest : Nat) : Nat :=
  let least := max deepest (parent + 1).toNat
  if parent > 0 then max least 1 else least

/-- Skips what precedes the content: the indentation of the content, how many empty lines there
were, and the rest of the input. -/
def enterBlock (parent : Int) (indent : Option Nat) (i : Input) : Nat × Nat × Input :=
  match indent with
  | some n =>
    let indent := if parent ≥ 0 then parent.toNat + n else n
    (indent, skipBlockIndent indent 0 i)
  | none =>
    let found := detectBlockIndent 0 0 i
    (blockIndent parent found.1, found.2)

/-- Reads a block scalar after its `|` or `>`, given the column of the parent block: its text, the
place of its content unless the text ends before, and the rest of the input. -/
def readBlockScalar (literal : Bool) (parent : Int) (i : Input) :
    Except SyntaxError (List Char × Option Mark × Input) :=
  match readBlockHeader literal i with
  | .error e => .error e
  | .ok (header, i) =>
    match i.skipBlanks true with
    | .error e => .error e
    | .ok (_, i) =>
      if !endsLine (Input.peek i) then
        .error .badBlockHeader
      else
        let ended := Input.peek i == '\n'
        let i := if ended then i.drop 1 else i
        if Input.peek i = '\t' then
          .error .tabIndentation
        else
          match enterBlock parent header.indent i with
          | (indent, empty, i) =>
            if Input.atEnd i then
              .ok (emptyBlock header.chomping ended empty, none, i)
            else if Input.column i < indent ∧ (Input.column i : Int) > parent then
              .error .wrongIndentation
            else
              let body := readBlockBody indent empty false i
              .ok (foldBlock literal body.lines ++ chomp header.chomping indent body,
                some (Input.mark i), body.rest)

end RecordSchema.Yaml
