import RecordSchema.Yaml.BlockScalar
import RecordSchema.Yaml.FlowScalar
import RecordSchema.Yaml.Tag
import RecordSchema.Yaml.Token

/-!
# From text to tokens

The tokenizer keeps the indentation of the open blocks and, for the block level and every open
flow collection, the last token that may still turn out to be a key: when its `:` comes, the key
token and the start of a block mapping are put in front of it. Each step reads one token, so the
input gets shorter until the text ends.
-/

namespace RecordSchema.Yaml

/-- A token that may turn out to be a key, given by the number of tokens before it. -/
structure PossibleKey where
  required : Bool
  number : Nat
  mark : Mark
deriving DecidableEq, Repr

/-- An enclosing indentation, and whether the block inside it is closed by a token of its own. -/
structure Indentation where
  column : Int
  isBlock : Bool
deriving DecidableEq, Repr

/-- The state between two tokens. -/
structure Tokenizer where
  /-- the text ahead -/
  input : Input
  /-- the tokens so far, the last one first -/
  found : List (Located Token)
  /-- the column of the innermost block, or -1 -/
  indent : Int
  /-- the enclosing indentations, the innermost first -/
  indents : List Indentation
  /-- the possible key at the innermost level -/
  key : Option PossibleKey
  /-- the possible keys outside of the open flow collections, the innermost first -/
  outerKeys : List (Option PossibleKey)
  /-- a key may start at the next token -/
  keyAllowed : Bool
  /-- the place where `:` is a value indicator whatever follows it -/
  adjacentValueAt : Nat
  /-- an explicit flow mapping has been started -/
  mappingStarted : Bool
  /-- a single pair is open in a flow sequence -/
  pairOpen : Bool
deriving Repr

namespace Tokenizer

/-- The state before the first token. -/
def ofText (s : List Char) : Tokenizer where
  input := .ofText s
  found := []
  indent := -1
  indents := []
  key := none
  outerKeys := []
  keyAllowed := true
  adjacentValueAt := 0
  mappingStarted := false
  pairOpen := false

/-- How many flow collections are open. -/
def flowDepth (s : Tokenizer) : Nat :=
  s.outerKeys.length

/-- Inside a flow collection. -/
def inFlow (s : Tokenizer) : Bool :=
  !s.outerKeys.isEmpty

/-- The place of the next character. -/
def mark (s : Tokenizer) : Mark :=
  s.input.mark

/-- Adds a token. -/
def emit (s : Tokenizer) (t : Token) (m : Mark) : Tokenizer :=
  { s with found := ⟨t, m⟩ :: s.found }

/-- Puts a token behind the first `n` tokens. -/
def insert (s : Tokenizer) (n : Nat) (t : Token) (m : Mark) : Tokenizer :=
  { s with found := s.found.insertIdx (s.found.length - n) ⟨t, m⟩ }

/-- Goes on with the input after `n` characters. -/
def skip (s : Tokenizer) (n : Nat) : Tokenizer :=
  { s with input := s.input.drop n }

/-- Allows or forbids a key at the next token. -/
def allowKey (s : Tokenizer) (allowed : Bool) : Tokenizer :=
  { s with keyAllowed := allowed }

/-! ### Indentation -/

/-- Leaves the blocks that are indented deeper than a column. -/
def leaveTo (column : Int) (m : Mark) (indent : Int) (found : List (Located Token)) :
    List Indentation → Int × List Indentation × List (Located Token)
  | [] => (indent, [], found)
  | outer :: rest =>
    if indent > column then
      let found := if outer.isBlock then ⟨.blockEnd, m⟩ :: found else found
      leaveTo column m outer.column found rest
    else
      (indent, outer :: rest, found)

/-- Closes the blocks that are indented deeper than a column. -/
def closeTo (s : Tokenizer) (column : Int) (m : Mark) : Tokenizer :=
  if s.inFlow then s
  else
    let (indent, indents, found) := leaveTo column m s.indent s.found s.indents
    { s with indent, indents, found }

/-- The innermost indentation belongs to a block. -/
def inBlock (s : Tokenizer) : Bool :=
  s.indents.head?.any (·.isBlock)

/-- The innermost indentation without those that belong to no block. -/
def dropPending (indent : Int) : List Indentation → Int × List Indentation
  | [] => (indent, [])
  | outer :: rest =>
    if outer.isBlock then (indent, outer :: rest) else dropPending outer.column rest

/-- Forgets the indentations that belong to no block. -/
def forgetPending (s : Tokenizer) : Tokenizer :=
  let (indent, indents) := dropPending s.indent s.indents
  { s with indent, indents }

/-- Asks for one more column than the block has. -/
def indentPending (s : Tokenizer) : Tokenizer :=
  if !s.inFlow && s.inBlock then
    { s with indent := s.indent + 1, indents := ⟨s.indent, false⟩ :: s.indents }
  else
    s

/-- Forgets one indentation that belongs to no block and is not deeper than a column. -/
def forgetOnePending (s : Tokenizer) (column : Int) : Tokenizer :=
  match s.indents with
  | outer :: rest =>
    if s.indent ≤ column ∧ outer.isBlock = false then
      { s with indent := outer.column, indents := rest }
    else
      s
  | [] => s

/-- Opens a block at a column that is deeper than the current one; its token goes behind the first
`number` tokens. -/
def openBlock (s : Tokenizer) (column : Int) (number : Nat) (t : Token) (m : Mark) : Tokenizer :=
  if s.inFlow then s
  else
    let s := s.forgetOnePending column
    if s.indent < column then
      { s.insert number t m with indent := column, indents := ⟨s.indent, true⟩ :: s.indents }
    else
      s

/-! ### Possible keys -/

/-- A possible key that cannot be given up has to get its `:`. -/
def giveUp : Option PossibleKey → Except SyntaxError Unit
  | some ⟨true, _, _⟩ => .error .missingValue
  | _ => .ok ()

/-- Gives up the possible key at this level. -/
def dropKey (s : Tokenizer) : Except SyntaxError Tokenizer := do
  giveUp s.key
  return { s with key := none }

/-- Notes that the next token may be a key. -/
def noteKey (s : Tokenizer) : Tokenizer :=
  if s.keyAllowed then
    let required := !s.inFlow && decide (s.indent = s.mark.column) && s.inBlock
    { s with key := some ⟨required, s.found.length, s.mark⟩ }
  else
    s

/-- Outside of flow collections a key is on one line and within 1024 characters. -/
def dropStaleKey (s : Tokenizer) : Except SyntaxError Tokenizer :=
  match s.key with
  | some key =>
    if !s.inFlow && (decide (key.mark.line < s.mark.line) ||
        decide (key.mark.index + 1024 < s.mark.index)) then
      s.dropKey
    else
      .ok s
  | none => .ok s

/-! ### Blanks between tokens -/

/-- Skips blanks, comments and line breaks before the next token, and says whether a key may start
there. A tab left of the block may stand only on an otherwise empty line. -/
def skipGap (flow : Bool) (indent : Option Int) (keyAllowed comment : Bool) :
    Input → Except SyntaxError (Bool × Input)
  | [] => .ok (keyAllowed, [])
  | g :: rest =>
    if g.char = '\n' then skipGap flow indent (keyAllowed || !flow) false rest
    else if comment && g.char != '\x00' then skipGap flow indent keyAllowed true rest
    else if isBlank g.char then
      if g.char = '\t' && g.leads && indent.any (fun n => decide ((g.mark.column : Int) < n)) &&
          !Input.restIsEmpty rest then
        .error .tabIndentation
      else
        skipGap flow indent keyAllowed false rest
    else if g.char = '#' then skipGap flow indent keyAllowed true rest
    else .ok (keyAllowed, g :: rest)

/-- Skips to the next token. -/
def toToken (s : Tokenizer) : Except SyntaxError Tokenizer := do
  let indent := if s.indents.isEmpty then none else some s.indent
  let (keyAllowed, input) ← skipGap s.inFlow indent s.keyAllowed false s.input
  return { s with keyAllowed, input }

/-- Skips the blanks on the line, and a comment after them. -/
def skipBlanks (s : Tokenizer) : Except SyntaxError Tokenizer := do
  let (_, input) ← s.input.skipBlanks true
  return { s with input }

/-! ### Markers and directives -/

/-- A document start or document end marker. -/
def readMarker (s : Tokenizer) (t : Token) : Except SyntaxError Tokenizer := do
  let s ← (s.closeTo (-1) s.mark).dropKey
  return ((s.allowKey false).emit t s.mark).skip 3

/-- A document end marker, which stands alone on its line. -/
def readDocumentEnd (s : Tokenizer) : Except SyntaxError Tokenizer := do
  let s ← (← s.readMarker .documentEnd).skipBlanks
  if endsLine s.input.peek then return s else throw .badDocumentEnd

/-- The token of a directive; one that is not known declares an empty handle. -/
def directiveToken : Directive → Token
  | .version => .versionDirective
  | .tag handle => .tagDirective handle
  | .unknown => .tagDirective ""

/-- A directive. -/
def readDirectiveLine (s : Tokenizer) : Except SyntaxError Tokenizer := do
  let s ← (s.closeTo (-1) s.mark).dropKey
  let (directive, rest) ← readDirective (s.input.drop 1)
  let input := Input.skipBreak rest
  return { (s.allowKey false).emit (directiveToken directive) s.mark with input }

/-- The end of the text, which counts as the start of a line. -/
def readEnd (s : Tokenizer) : Except SyntaxError (List (Located Token)) := do
  let m := if s.mark.column = 0 then s.mark else ⟨s.mark.index, s.mark.line + 1, 0⟩
  (s.key :: s.outerKeys).forM giveUp
  return ((s.closeTo (-1) m).emit .streamEnd m).found.reverse

/-! ### Flow collections -/

/-- The start of a flow collection. -/
def readFlowStart (s : Tokenizer) (t : Token) : Except SyntaxError Tokenizer := do
  let s := s.noteKey.indentPending
  if 255 ≤ s.flowDepth then
    throw .deepFlow
  let m := s.mark
  let s := { s with outerKeys := s.key :: s.outerKeys, key := none, keyAllowed := true }
  let s := if t = .flowMappingStart then { s with mappingStarted := true } else s
  return (← (s.skip 1).skipBlanks).emit t m

/-- Closes the single pair that is open. -/
def closePair (s : Tokenizer) : Tokenizer :=
  if s.pairOpen then
    { s.emit .flowMappingEnd s.mark with mappingStarted := false, pairOpen := false }
  else
    s

/-- The end of a flow collection. -/
def readFlowEnd (s : Tokenizer) (t : Token) : Except SyntaxError Tokenizer := do
  let s ← s.dropKey
  let s :=
    match s.outerKeys with
    | key :: rest => { s with key := key, outerKeys := rest }
    | [] => s
  let s := (s.allowKey false).closePair
  let m := s.mark
  let s ← (s.skip 1).skipBlanks
  let s := if s.inFlow then { s with adjacentValueAt := s.mark.index } else s
  return s.emit t m

/-- The separator between the entries of a flow collection. -/
def readFlowEntry (s : Tokenizer) : Except SyntaxError Tokenizer := do
  let s := ((← s.dropKey).allowKey true).closePair
  let m := s.mark
  return (← (s.skip 1).skipBlanks).emit .flowEntry m

/-! ### Block collections -/

/-- The last token is an anchor or a tag at the start of a line. -/
def followsProperty (s : Tokenizer) : Bool :=
  s.found.head?.any fun t => t.value.isProperty && t.mark.column == 0

/-- The indicator of an entry of a block sequence. -/
def readBlockEntry (s : Tokenizer) : Except SyntaxError Tokenizer := do
  let m := s.mark
  if s.inFlow || !s.keyAllowed then
    throw .misplacedEntry
  if s.followsProperty && m.column == 0 && decide (s.indent > -1) then
    throw .wrongIndentation
  let s := (s.skip 1).openBlock m.column s.found.length .blockSequenceStart m
  let (blanks, input) ← s.input.skipBlanks true
  if blanks.tab && input.peek == '-' && isBlankOrEnd (input.peekAt 1) then
    throw .tabAfterIndicator
  let s := { s with input }
  let s := if input.peek = '\n' || isFlowIndicator input.peek then s.indentPending else s
  let s ← s.dropKey
  return (s.allowKey true).emit .blockEntry s.mark

/-- Skips spaces, line breaks and comments after the indicator of a key. -/
def skipAfterKey (comment : Bool) : Input → Input
  | [] => []
  | g :: rest =>
    if g.char = '\n' then skipAfterKey false rest
    else if comment && g.char != '\x00' then skipAfterKey true rest
    else if g.char = ' ' then skipAfterKey false rest
    else if g.char = '#' then skipAfterKey true rest
    else g :: rest

/-- The indicator of an explicit key. -/
def readKey (s : Tokenizer) : Except SyntaxError Tokenizer := do
  let m := s.mark
  if !s.inFlow && !s.keyAllowed then
    throw .misplacedKey
  let s :=
    if s.inFlow then { s with mappingStarted := true }
    else s.openBlock m.column s.found.length .blockMappingStart m
  let s := (← s.dropKey).allowKey (!s.inFlow)
  let next := s.input.peekAt 1
  if !(next == ' ' || next == '\n') then
    throw .tabAfterIndicator
  let input := skipAfterKey false (s.input.drop 1)
  if input.peek = '\t' then
    throw .tabAfterIndicator
  return { s with input }.emit .key m

/-- Skips the `:` of a value. -/
def skipValueIndicator (i : Input) : Except SyntaxError Input := do
  let i : Input := i.drop 1
  if i.peek = '\t' then
    let (blanks, rest) ← i.skipBlanks true
    if !blanks.space && (rest.peek == '-' || isNameChar rest.peek) then
      throw .tabAfterIndicator
    return rest
  else
    return i

/-- The indicator of a value. A possible key becomes a key. -/
def readValue (s : Tokenizer) : Except SyntaxError Tokenizer := do
  let m := s.mark
  let single := s.inFlow && !s.mappingStarted
  let input ← skipValueIndicator s.input
  let s := { s with input, pairOpen := single }
  match s.key with
  | some key =>
    if single && decide (key.mark.line < m.line) then
      throw .misplacedValue
    let s := s.insert key.number .key key.mark
    let s := if single then s.insert key.number .flowMappingStart s.mark else s
    let s := (s.openBlock key.mark.column key.number .blockMappingStart m).indentPending
    return ({ s with key := none }.allowKey false).emit .value m
  | none =>
    let s := if single then s.emit .flowMappingStart s.mark else s
    if !s.inFlow && !s.keyAllowed then
      throw .misplacedValue
    let s := (s.openBlock m.column s.found.length .blockMappingStart m).indentPending
    return (s.allowKey (!s.inFlow)).emit .value m

/-! ### Properties and scalars -/

/-- A character of the name of an anchor. -/
def isAnchorChar (c : Char) : Bool :=
  !isBlankOrEnd c && !isFlowIndicator c && c != '\ufeff'

/-- An anchor or an alias. -/
def readAnchor (s : Tokenizer) (t : String → Token) : Except SyntaxError Tokenizer := do
  let s := s.noteKey.allowKey false
  let after : Input := s.input.drop 1
  let name := after.takeChars isAnchorChar
  if name.isEmpty then
    throw .badAnchor
  return { s.emit (t (String.ofList name)) s.mark with input := after.skipChars isAnchorChar }

/-- A tag. -/
def readTagToken (s : Tokenizer) : Except SyntaxError Tokenizer := do
  let s := s.noteKey.allowKey false
  let (handle, input) ← readTag s.inFlow s.input
  return { s.emit (.tag handle) s.mark with input }

/-- A literal or folded scalar. -/
def readBlock (s : Tokenizer) (literal : Bool) : Except SyntaxError Tokenizer := do
  let m := s.mark
  let s := (s.noteKey.allowKey true).forgetPending
  let (text, content, input) ← readBlockScalar literal s.indent (s.input.drop 1)
  return { s.emit (.scalar false (String.ofList text)) (content.getD m) with input }

/-- After a quoted scalar the line ends, or a flow collection or a pair goes on. -/
def checkAfterQuoted (flow sameLine : Bool) (c : Char) : Except SyntaxError Unit :=
  if endsLine c || (flow && (c == ',' || c == '}' || c == ']')) ||
      (c == ':' && (flow || sameLine)) then
    .ok ()
  else
    .error .trailingContent

/-- A quoted scalar. -/
def readQuoted (s : Tokenizer) (single : Bool) : Except SyntaxError Tokenizer := do
  let m := s.mark
  let s := s.noteKey.allowKey false
  let read := if single then readSingleQuoted else readDoubleQuoted
  let (text, input) ← read s.indent [] .none (s.input.drop 1)
  let (_, input) ← input.skipBlanks true
  checkAfterQuoted s.inFlow (m.line == input.mark.line) input.peek
  let s ← { s with input }.toToken
  return { s with adjacentValueAt := s.mark.index }.emit (.scalar false (String.ofList text)) m

/-- A plain scalar. -/
def readPlainToken (s : Tokenizer) : Except SyntaxError Tokenizer := do
  let m := s.mark
  let s := (s.noteKey.allowKey false).forgetPending
  if s.inFlow && decide ((m.column : Int) < s.indent + 1) then
    throw .wrongIndentation
  let (text, input, broken) ← readPlain s.inFlow (s.indent + 1) [] .none s.input
  let s := if broken then s.allowKey true else s
  return { s.emit (.scalar true (String.ofList text)) m with input }

/-! ### Tokens -/

/-- A `:` is a value indicator. -/
def atValue (s : Tokenizer) : Bool :=
  let next := s.input.peekAt 1
  isBlankOrEnd next ||
    (s.inFlow && (isFlowIndicator next || s.mark.index == s.adjacentValueAt))

/-- Reads the token that starts at the next character. -/
def readToken (s : Tokenizer) : Except SyntaxError Tokenizer :=
  let c := s.input.peek
  let alone := isBlankOrEnd (s.input.peekAt 1)
  if s.mark.column = 0 ∧ c = '%' then s.readDirectiveLine
  else if s.input.atMarker '-' then s.readMarker .documentStart
  else if s.input.atMarker '.' then s.readDocumentEnd
  else if s.mark.column < s.indent then .error .wrongIndentation
  else if c = '[' then s.readFlowStart .flowSequenceStart
  else if c = '{' then s.readFlowStart .flowMappingStart
  else if c = ']' then s.readFlowEnd .flowSequenceEnd
  else if c = '}' then s.readFlowEnd .flowMappingEnd
  else if c = ',' then s.readFlowEntry
  else if c = '-' ∧ alone then s.readBlockEntry
  else if c = '?' ∧ alone then s.readKey
  else if c = ':' ∧ s.atValue then s.readValue
  else if c = '*' then s.readAnchor .reference
  else if c = '&' then s.readAnchor .anchor
  else if c = '!' then s.readTagToken
  else if c = '|' ∧ s.inFlow = false then s.readBlock true
  else if c = '>' ∧ s.inFlow = false then s.readBlock false
  else if c = '\'' then s.readQuoted true
  else if c = '"' then s.readQuoted false
  else if c = '%' ∨ c = '@' ∨ c = '\x60' then .error .reservedIndicator
  else s.readPlainToken

/-- Skips to the next token and closes what ends before it. -/
def settle (s : Tokenizer) : Except SyntaxError Tokenizer := do
  let s ← (← s.toToken).dropStaleKey
  return s.closeTo s.mark.column s.mark

/-- The tokens of the whole text. -/
def run (s : Tokenizer) : Except SyntaxError (List (Located Token)) :=
  match s.settle with
  | .error e => .error e
  | .ok s' =>
    if s'.input.atEnd then s'.readEnd
    else
      match s'.readToken with
      | .error e => .error e
      | .ok next =>
        if next.input.length < s.input.length then next.run else .error .missingContent
termination_by s.input.length

end Tokenizer

/-- The tokens of a text. -/
def Token.ofText (s : List Char) : Except SyntaxError (List (Located Token)) :=
  (Tokenizer.ofText s).run

end RecordSchema.Yaml
