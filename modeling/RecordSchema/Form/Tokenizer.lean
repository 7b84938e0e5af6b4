import RecordSchema.Form.BlockScalar
import RecordSchema.Form.FlowScalar
import RecordSchema.Form.Token

/-!
# From the text of a form to tokens

The tokenizer keeps the indentation of the open blocks and, for the block level and every open flow
collection, the last token that may still turn out to be a key: when its `:` comes, the key token
and the start of a block mapping are put in front of it. Flow collections do not keep to the
indentation of the block around them. Each step reads one token, so the input gets shorter until the
text ends.
-/

namespace RecordSchema.Form

open Yaml (Input Mark SyntaxError isBlank isNameChar)

/-- A token that may turn out to be a key, given by the number of tokens before it. -/
structure PossibleKey where
  required : Bool
  number : Nat
  mark : Mark
deriving DecidableEq, Repr

/-- The state between two tokens. -/
structure Tokenizer where
  /-- the text ahead -/
  input : Input
  /-- the tokens so far, the last one first -/
  found : List Token
  /-- the column of the innermost block, or -1 -/
  indent : Int
  /-- the columns of the enclosing blocks, the innermost first -/
  outerIndents : List Int
  /-- the possible key at the innermost level -/
  key : Option PossibleKey
  /-- the possible keys outside of the open flow collections, the innermost first -/
  outerKeys : List (Option PossibleKey)
  /-- a key may start at the next token -/
  keyAllowed : Bool
deriving Repr

namespace Tokenizer

/-- The state before the first token. -/
def ofText (s : List Char) : Tokenizer where
  input := inputOf s
  found := []
  indent := -1
  outerIndents := []
  key := none
  outerKeys := []
  keyAllowed := true

/-- Inside a flow collection. -/
def inFlow (s : Tokenizer) : Bool :=
  !s.outerKeys.isEmpty

/-- The place of the next character. -/
def mark (s : Tokenizer) : Mark :=
  s.input.mark

/-- Adds a token. -/
def emit (s : Tokenizer) (t : Token) : Tokenizer :=
  { s with found := t :: s.found }

/-- Puts a token behind the first `n` tokens. -/
def insert (s : Tokenizer) (n : Nat) (t : Token) : Tokenizer :=
  { s with found := s.found.insertIdx (s.found.length - n) t }

/-- Goes on with the input after `n` characters. -/
def skip (s : Tokenizer) (n : Nat) : Tokenizer :=
  { s with input := s.input.drop n }

/-- Allows or forbids a key at the next token. -/
def allowKey (s : Tokenizer) (allowed : Bool) : Tokenizer :=
  { s with keyAllowed := allowed }

/-! ### Indentation -/

/-- Leaves the blocks that are indented deeper than a column. -/
def leaveTo (column : Int) (indent : Int) (found : List Token) :
    List Int → Int × List Int × List Token
  | [] => (indent, [], found)
  | outer :: rest =>
    if indent > column then leaveTo column outer (.blockEnd :: found) rest
    else (indent, outer :: rest, found)

/-- Closes the blocks that are indented deeper than a column. -/
def closeTo (s : Tokenizer) (column : Int) : Tokenizer :=
  if s.inFlow then s
  else
    let (indent, outerIndents, found) := leaveTo column s.indent s.found s.outerIndents
    { s with indent, outerIndents, found }

/-- Opens a block at a column that is deeper than the current one; its token goes behind the first
`number` tokens. -/
def openBlock (s : Tokenizer) (column : Nat) (number : Nat) (t : Token) : Tokenizer :=
  if !s.inFlow && decide (s.indent < column) then
    { s.insert number t with indent := column, outerIndents := s.indent :: s.outerIndents }
  else
    s

/-! ### Possible keys -/

/-- Gives up the possible key at this level; one that is required has to get its `:`. -/
def dropKey (s : Tokenizer) : Except SyntaxError Tokenizer :=
  if s.key.any (·.required) then .error .missingValue else .ok { s with key := none }

/-- Notes that the next token may be a key. It has to be one where a key of the block stands. -/
def noteKey (s : Tokenizer) : Except SyntaxError Tokenizer := do
  if s.keyAllowed then
    let required := !s.inFlow && decide (s.indent = s.mark.column)
    return { ← s.dropKey with key := some ⟨required, s.found.length, s.mark⟩ }
  else
    return s

/-- A key is on one line and within 1024 characters. -/
def dropStaleKey (s : Tokenizer) : Except SyntaxError Tokenizer :=
  match s.key with
  | some key =>
    if key.mark.line < s.mark.line ∨ key.mark.index + 1024 < s.mark.index then s.dropKey else .ok s
  | none => .ok s

/-! ### Between tokens -/

/-- Skips blanks, comments and line breaks before the next token, and says whether a key may start
there. Where a key may start outside of flow collections, a tab is not skipped. -/
def skipGap (flow keyAllowed comment : Bool) : Input → Bool × Input
  | [] => (keyAllowed, [])
  | g :: rest =>
    if isBreak g.char then skipGap flow (keyAllowed || !flow) false rest
    else if comment && g.char != '\x00' then skipGap flow keyAllowed true rest
    else if g.char = ' ' || (g.char == '\t' && (flow || !keyAllowed)) then
      skipGap flow keyAllowed false rest
    else if g.char = '#' then skipGap flow keyAllowed true rest
    else (keyAllowed, g :: rest)

/-- Skips to the next token and closes what ends before it. -/
def settle (s : Tokenizer) : Except SyntaxError Tokenizer := do
  let (keyAllowed, input) := skipGap s.inFlow s.keyAllowed false s.input
  let s ← { s with keyAllowed, input }.dropStaleKey
  return s.closeTo s.mark.column

/-! ### Markers and directives -/

/-- A document start or document end marker. -/
def readMarker (s : Tokenizer) (t : Token) : Except SyntaxError Tokenizer := do
  let s ← (s.closeTo (-1)).dropKey
  return ((s.allowKey false).emit t).skip 3

/-- A directive. -/
def readDirectiveLine (s : Tokenizer) : Except SyntaxError Tokenizer := do
  let s ← (s.closeTo (-1)).dropKey
  let (declared, input) ← readDirective (s.input.drop 1)
  return { (s.allowKey false).emit (.directive declared) with input }

/-- The end of the text. -/
def readEnd (s : Tokenizer) : Except SyntaxError (List Token) := do
  let s ← (s.closeTo (-1)).dropKey
  return (s.emit .streamEnd).found.reverse

/-! ### Flow collections -/

/-- The start of a flow collection. -/
def readFlowStart (s : Tokenizer) (t : Token) : Except SyntaxError Tokenizer := do
  let s ← s.noteKey
  let s := { s with outerKeys := s.key :: s.outerKeys, key := none }
  return ((s.allowKey true).emit t).skip 1

/-- The end of a flow collection. -/
def readFlowEnd (s : Tokenizer) (t : Token) : Except SyntaxError Tokenizer := do
  let s ← s.dropKey
  let s :=
    match s.outerKeys with
    | key :: rest => { s with key := key, outerKeys := rest }
    | [] => s
  return ((s.allowKey false).emit t).skip 1

/-- The separator between the entries of a flow collection. -/
def readFlowEntry (s : Tokenizer) : Except SyntaxError Tokenizer := do
  return (((← s.dropKey).allowKey true).emit .flowEntry).skip 1

/-! ### Entries, keys and values -/

/-- Opens a block at the next character, where a key has to be allowed. -/
def openHere (s : Tokenizer) (t : Token) (e : SyntaxError) : Except SyntaxError Tokenizer :=
  if s.inFlow then .ok s
  else if s.keyAllowed then .ok (s.openBlock s.mark.column s.found.length t)
  else .error e

/-- The indicator of an entry of a block sequence. -/
def readBlockEntry (s : Tokenizer) : Except SyntaxError Tokenizer := do
  let s ← (← s.openHere .blockSequenceStart .misplacedEntry).dropKey
  return ((s.allowKey true).emit .blockEntry).skip 1

/-- The indicator of an explicit key. -/
def readKey (s : Tokenizer) : Except SyntaxError Tokenizer := do
  let s ← (← s.openHere .blockMappingStart .misplacedKey).dropKey
  return ((s.allowKey (!s.inFlow)).emit .key).skip 1

/-- The indicator of a value. A possible key becomes a key. -/
def readValue (s : Tokenizer) : Except SyntaxError Tokenizer := do
  match s.key with
  | some key =>
    let s := (s.insert key.number .key).openBlock key.mark.column key.number .blockMappingStart
    return (({ s with key := none }.allowKey false).emit .value).skip 1
  | none =>
    let s ← s.openHere .blockMappingStart .misplacedValue
    return ((s.allowKey (!s.inFlow)).emit .value).skip 1

/-! ### Properties and scalars -/

/-- A character that may follow the name of an anchor. -/
def endsAnchor (c : Char) : Bool :=
  separates c || "?:,]\x7d%@\x60".toList.contains c

/-- An anchor or an alias. -/
def readAnchor (s : Tokenizer) (t : String → Token) : Except SyntaxError Tokenizer := do
  let s := (← s.noteKey).allowKey false
  let after : Input := s.input.drop 1
  let name := after.takeChars isNameChar
  let input := after.skipChars isNameChar
  if name.isEmpty || !endsAnchor input.peek then
    throw .badAnchor
  return { s.emit (t (String.ofList name)) with input }

/-- A tag. -/
def readTagToken (s : Tokenizer) : Except SyntaxError Tokenizer := do
  let s := (← s.noteKey).allowKey false
  let (tag, input) ← readTag s.inFlow s.input
  return { s.emit (.tag tag) with input }

/-- A literal or folded scalar. -/
def readBlock (s : Tokenizer) (literal : Bool) : Except SyntaxError Tokenizer := do
  let s := (← s.dropKey).allowKey true
  let (text, input) ← readBlockScalar literal s.indent (s.input.drop 1)
  return { s.emit (.scalar false (String.ofList text)) with input }

/-- A quoted scalar. -/
def readQuoted (s : Tokenizer) (single : Bool) : Except SyntaxError Tokenizer := do
  let s := (← s.noteKey).allowKey false
  let read := if single then readSingleQuoted else readDoubleQuoted
  let (text, input) ← read [] .none (s.input.drop 1)
  return { s.emit (.scalar false (String.ofList text)) with input }

/-- A plain scalar. -/
def readPlainToken (s : Tokenizer) : Except SyntaxError Tokenizer := do
  let s ← s.noteKey
  let (text, input, broken) ← readPlain s.inFlow (s.indent + 1) [] .none s.input
  return { (s.allowKey broken).emit (.scalar true (String.ofList text)) with input }

/-! ### Tokens -/

/-- Reads the token that starts at the next character. -/
def readToken (s : Tokenizer) : Except SyntaxError Tokenizer :=
  let c := s.input.peek
  let alone := separates (s.input.peekAt 1)
  if s.mark.column = 0 ∧ c = '%' then s.readDirectiveLine
  else if atMarker s.input '-' then s.readMarker .documentStart
  else if atMarker s.input '.' then s.readMarker .documentEnd
  else if c = '[' then s.readFlowStart .flowSequenceStart
  else if c = '{' then s.readFlowStart .flowMappingStart
  else if c = ']' then s.readFlowEnd .flowSequenceEnd
  else if c = '}' then s.readFlowEnd .flowMappingEnd
  else if c = ',' then s.readFlowEntry
  else if c = '-' ∧ alone then s.readBlockEntry
  else if c = '?' ∧ (s.inFlow || alone) then s.readKey
  else if c = ':' ∧ (s.inFlow || alone) then s.readValue
  else if c = '*' then s.readAnchor .reference
  else if c = '&' then s.readAnchor .anchor
  else if c = '!' then s.readTagToken
  else if c = '|' ∧ s.inFlow = false then s.readBlock true
  else if c = '>' ∧ s.inFlow = false then s.readBlock false
  else if c = '\'' then s.readQuoted true
  else if c = '"' then s.readQuoted false
  else if isBlank c then .error .tabIndentation
  else if "|>%@\x60".toList.contains c then .error .reservedIndicator
  else s.readPlainToken

/-- The tokens of the whole text. -/
def run (s : Tokenizer) : Except SyntaxError (List Token) :=
  match s.settle with
  | .error e => .error e
  | .ok s' =>
    if s'.input.atEnd then s'.readEnd
    else
      match s'.readToken with
      | .error e => .error e
      | .ok next =>
        if next.input.length < s.input.length then next.run else .error .missingContent
termination_by s.input.length

end Tokenizer

/-- The tokens of a form. -/
def Token.ofText (s : List Char) : Except SyntaxError (List Token) :=
  (Tokenizer.ofText s).run

end RecordSchema.Form
