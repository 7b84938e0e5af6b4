import RecordSchema.Yaml.Tokenizer

/-!
# From tokens to events

The events of a text say, document by document and in order, where scalars and aliases stand and
where collections begin and end. A stack of goals holds what may come next, the innermost first;
each step answers one event, and the number of events is bounded by the number of tokens.
-/

namespace RecordSchema.Yaml

/-- What happens at a place of a text. -/
inductive Event where
  | documentStart
  | documentEnd
  | scalar (plain : Bool) (text : String) (anchor : Option String)
  | reference (name : String)
  | sequenceStart (anchor : Option String)
  | sequenceEnd
  | mappingStart (anchor : Option String)
  | mappingEnd
deriving DecidableEq, Repr

/-- A scalar for a node that is left out. -/
def Event.absent : Event :=
  .scalar true "" none

/-- What may come next. -/
inductive Goal where
  | documentStart (implicit : Bool)
  | documentContent
  | documentEnd
  | node
  | sequenceEntry
  | indentlessEntry
  | mappingKey
  | mappingValue
  | flowSequenceEntry (first : Bool)
  | pairKey
  | pairValue
  | pairEnd (m : Mark)
  | flowMappingKey (first : Bool)
  | flowMappingValue
  | flowMappingNoValue
deriving DecidableEq, Repr

/-- The state between two events. -/
structure EventReader where
  /-- the tokens ahead -/
  tokens : List (Located Token)
  /-- what may come next, the innermost first -/
  goals : List Goal
  /-- the tag handles that the document declares -/
  handles : List String
  /-- the anchors of the document so far -/
  anchors : List String
deriving Repr

namespace EventReader

/-- The state before the first event. -/
def ofTokens (tokens : List (Located Token)) : EventReader :=
  ⟨tokens, [.documentStart true], [], []⟩

/-- The place of the next token. -/
def mark (s : EventReader) : Mark :=
  (s.tokens.head?.map Located.mark).getD .start

/-- The next token. -/
def peek? (s : EventReader) : Option Token :=
  s.tokens.head?.map Located.value

/-- Goes on after the next token. -/
def skip (s : EventReader) : EventReader :=
  { s with tokens := s.tokens.drop 1 }

/-- Puts goals in front of the others. -/
def expect (s : EventReader) (goals : List Goal) : EventReader :=
  { s with goals := goals ++ s.goals }

/-- An event and the state after it. -/
abbrev Step := Except SyntaxError (Located Event × EventReader)

/-- Answers an event. -/
def give (s : EventReader) (e : Event) (m : Mark) : Step :=
  .ok (⟨e, m⟩, s)

/-! ### Nodes -/

/-- A named handle has to be declared, except `!!`. -/
def checkHandle (s : EventReader) (handle : String) : Except SyntaxError Unit :=
  if isNamedHandle handle.toList && handle != "!!" && !s.handles.contains handle then
    .error .undeclaredHandle
  else
    .ok ()

/-- The anchor and the tag of a node. -/
structure Properties where
  anchor : Option String
  isTagged : Bool
deriving DecidableEq, Repr

/-- Notes an anchor. -/
def noteAnchor (s : EventReader) (name : String) : EventReader :=
  { s with anchors := name :: s.anchors }

/-- Reads the properties of a node, in either order. -/
def readProperties (s : EventReader) : Except SyntaxError (Properties × EventReader) := do
  match s.tokens with
  | ⟨.anchor name, _⟩ :: ⟨.tag handle, _⟩ :: rest =>
    s.checkHandle handle
    return (⟨some name, true⟩, { s.noteAnchor name with tokens := rest })
  | ⟨.anchor name, _⟩ :: rest =>
    return (⟨some name, false⟩, { s.noteAnchor name with tokens := rest })
  | ⟨.tag handle, _⟩ :: ⟨.anchor name, _⟩ :: rest =>
    s.checkHandle handle
    return (⟨some name, true⟩, { s.noteAnchor name with tokens := rest })
  | ⟨.tag handle, _⟩ :: rest =>
    s.checkHandle handle
    return (⟨none, true⟩, { s with tokens := rest })
  | _ => return (⟨none, false⟩, s)

/-- Reads the content of a node. Block collections may start only where `block` allows them, and a
sequence at the indentation of its parent only where `indentless` does. -/
def readContent (s : EventReader) (block indentless : Bool) (p : Properties) : Step :=
  match s.tokens with
  | ⟨.scalar plain text, m⟩ :: _ => s.skip.give (.scalar plain text p.anchor) m
  | ⟨.flowSequenceStart, m⟩ :: _ =>
    (s.skip.expect [.flowSequenceEntry true]).give (.sequenceStart p.anchor) m
  | ⟨.flowMappingStart, m⟩ :: _ =>
    (s.skip.expect [.flowMappingKey true]).give (.mappingStart p.anchor) m
  | ⟨token, m⟩ :: _ =>
    if token = .blockEntry ∧ indentless then
      (s.expect [.indentlessEntry]).give (.sequenceStart p.anchor) m
    else if token = .blockSequenceStart ∧ block then
      (s.skip.expect [.sequenceEntry]).give (.sequenceStart p.anchor) m
    else if token = .blockMappingStart ∧ block then
      (s.skip.expect [.mappingKey]).give (.mappingStart p.anchor) m
    else if p.anchor.isSome || p.isTagged then
      s.give (.scalar true "" p.anchor) m
    else
      .error .missingContent
  | [] => .error .missingContent

/-- Reads a node. -/
def readNode (s : EventReader) (block indentless : Bool) : Step :=
  match s.tokens with
  | ⟨.reference name, m⟩ :: _ =>
    if s.anchors.contains name then s.skip.give (.reference name) m else .error .unknownAnchor
  | _ =>
    match s.readProperties with
    | .error e => .error e
    | .ok (p, s) => s.readContent block indentless p

/-- Reads a node, which is left out before certain tokens. -/
def readNodeUnless (s : EventReader) (isAbsent : Token → Bool) (block indentless : Bool) : Step :=
  if s.peek?.any isAbsent then s.give .absent s.mark else s.readNode block indentless

/-! ### Documents -/

/-- Reads directives; the last one alone decides which handles are declared. -/
def readDirectives (version : Bool) (handles : List String) :
    List (Located Token) → Except SyntaxError (List String × List (Located Token))
  | ⟨.versionDirective, _⟩ :: rest =>
    if version then .error .repeatedVersion else readDirectives true [] rest
  | ⟨.tagDirective handle, _⟩ :: rest => readDirectives version [handle] rest
  | rest => .ok (handles, rest)

/-- A directive. -/
def isDirective : Token → Bool
  | .versionDirective | .tagDirective _ => true
  | _ => false

/-- A document that begins with its marker. -/
def startExplicit (s : EventReader) : Step :=
  match readDirectives false s.handles s.tokens with
  | .error e => .error e
  | .ok (handles, tokens) =>
    match tokens with
    | ⟨.documentStart, m⟩ :: rest =>
      ({ s with tokens := rest, handles, anchors := [] }.expect
        [.documentContent, .documentEnd]).give .documentStart m
    | _ => .error .missingDocumentStart

/-- Document end markers. -/
def isDocumentEnd (t : Located Token) : Bool :=
  t.value == .documentEnd

/-- The start of a document; `none` at the end of the stream. -/
def startDocument (s : EventReader) (implicit : Bool) :
    Except SyntaxError (Option (Located Event × EventReader)) :=
  let s := { s with tokens := s.tokens.dropWhile isDocumentEnd }
  match s.peek? with
  | none | some .streamEnd => .ok none
  | some token =>
    if isDirective token || token == .documentStart || !implicit then
      s.startExplicit.map some
    else
      (({ s with anchors := [] }.expect [.node, .documentEnd]).give .documentStart s.mark).map some

/-- The end of a document; a directive may follow only an end marker. -/
def endDocument (s : EventReader) : Step :=
  let m := s.mark
  let ended := s.peek? == some .documentEnd
  let s := { (if ended then s.skip else s) with handles := [] }
  if !ended && s.peek?.any isDirective then
    .error .missingDocumentEnd
  else
    (s.expect [.documentStart ended]).give .documentEnd m

/-- The tokens before which the content of a document is left out. -/
def endsDocument : Token → Bool
  | .versionDirective | .tagDirective _ | .documentStart | .documentEnd | .streamEnd => true
  | _ => false

/-! ### Block collections -/

/-- The tokens before which a key or a value in a block mapping is left out. -/
def endsMappingPart : Token → Bool
  | .key | .value | .blockEnd => true
  | _ => false

/-- The tokens before which an entry of an indentless sequence is left out. -/
def endsIndentlessEntry : Token → Bool
  | .blockEntry | .key | .value | .blockEnd => true
  | _ => false

/-- The tokens before which an entry of a block sequence is left out. -/
def endsSequenceEntry : Token → Bool
  | .blockEntry | .blockEnd => true
  | _ => false

/-- An entry of a block sequence, or its end. -/
def sequenceEntry (s : EventReader) : Step :=
  match s.tokens with
  | ⟨.blockEnd, m⟩ :: _ => s.skip.give .sequenceEnd m
  | ⟨.blockEntry, _⟩ :: _ =>
    (s.skip.expect [.sequenceEntry]).readNodeUnless endsSequenceEntry true false
  | _ => .error .misplacedEntry

/-- An entry of a sequence at the indentation of its parent, or its end. -/
def indentlessEntry (s : EventReader) : Step :=
  if s.peek? = some .blockEntry then
    (s.skip.expect [.indentlessEntry]).readNodeUnless endsIndentlessEntry true false
  else
    s.give .sequenceEnd s.mark

/-- A key of a block mapping, or its end. -/
def mappingKey (s : EventReader) : Step :=
  match s.tokens with
  | ⟨.key, _⟩ :: _ => (s.skip.expect [.mappingValue]).readNodeUnless endsMappingPart true true
  | ⟨.value, m⟩ :: _ => (s.expect [.mappingValue]).give .absent m
  | ⟨.blockEnd, m⟩ :: _ => s.skip.give .mappingEnd m
  | _ => .error .misplacedKey

/-- A value of a block mapping. -/
def mappingValue (s : EventReader) : Step :=
  if s.peek? = some .value then
    (s.skip.expect [.mappingKey]).readNodeUnless endsMappingPart true true
  else
    (s.expect [.mappingKey]).give .absent s.mark

/-! ### Flow collections -/

/-- Skips the comma in front of an entry that is not the first. -/
def skipComma (s : EventReader) (first : Bool) : Except SyntaxError EventReader :=
  if first then .ok s
  else if s.peek? = some .flowEntry then .ok s.skip
  else .error .missingSeparator

/-- An entry of a flow sequence, or its end. -/
def flowSequenceEntry (s : EventReader) (first : Bool) : Step :=
  if s.peek? = some .flowSequenceEnd then
    s.skip.give .sequenceEnd s.mark
  else
    match s.skipComma first with
    | .error e => .error e
    | .ok s =>
      match s.peek? with
      | some .flowSequenceEnd => s.skip.give .sequenceEnd s.mark
      | some .key =>
        (s.skip.expect [.pairKey, .flowSequenceEntry false]).give (.mappingStart none) s.mark
      | _ => (s.expect [.flowSequenceEntry false]).readNode false false

/-- The tokens that stand for the missing key of a pair in a flow sequence. -/
def endsPairKey : Token → Bool
  | .value | .flowEntry | .flowSequenceEnd => true
  | _ => false

/-- The key of a pair in a flow sequence. -/
def pairKey (s : EventReader) : Step :=
  if s.peek?.any endsPairKey then
    (s.skip.expect [.pairValue]).give .absent s.mark
  else
    (s.expect [.pairValue]).readNode false false

/-- The value of a pair in a flow sequence. -/
def pairValue (s : EventReader) : Step :=
  if s.peek? = some .value then
    (s.skip.expect [.pairEnd s.mark]).readNodeUnless
      (fun t => t == .flowEntry || t == .flowSequenceEnd) false false
  else
    (s.expect [.pairEnd s.mark]).give .absent s.mark

/-- The tokens before which a key in a flow mapping is left out. -/
def endsFlowKey : Token → Bool
  | .value | .flowEntry | .flowMappingEnd => true
  | _ => false

/-- A key of a flow mapping, or its end. -/
def flowMappingKey (s : EventReader) (first : Bool) : Step :=
  if s.peek? = some .flowMappingEnd then
    s.skip.give .mappingEnd s.mark
  else
    match s.skipComma first with
    | .error e => .error e
    | .ok s =>
      match s.peek? with
      | some .flowMappingEnd => s.skip.give .mappingEnd s.mark
      | some .key =>
        (s.skip.expect [.flowMappingValue]).readNodeUnless endsFlowKey false false
      | some .value => (s.expect [.flowMappingValue]).give .absent s.mark
      | _ => (s.expect [.flowMappingNoValue]).readNode false false

/-- A value of a flow mapping; a missing one stands at its indicator. -/
def flowMappingValue (s : EventReader) : Step :=
  let after := s.skip.expect [.flowMappingKey false]
  if s.peek? = some .value then
    if s.skip.peek?.any (fun t => t == .flowEntry || t == .flowMappingEnd) then
      after.give .absent s.mark
    else
      after.readNode false false
  else
    (s.expect [.flowMappingKey false]).give .absent s.mark

/-! ### Events -/

/-- The next event and the state after it; `none` at the end of the stream. -/
def next (s : EventReader) : Except SyntaxError (Option (Located Event × EventReader)) :=
  match s.goals with
  | [] => .ok none
  | goal :: goals =>
    let s := { s with goals }
    match goal with
    | .documentStart implicit => s.startDocument implicit
    | .documentContent => (s.readNodeUnless endsDocument true false).map some
    | .documentEnd => s.endDocument.map some
    | .node => (s.readNode true false).map some
    | .sequenceEntry => s.sequenceEntry.map some
    | .indentlessEntry => s.indentlessEntry.map some
    | .mappingKey => s.mappingKey.map some
    | .mappingValue => s.mappingValue.map some
    | .flowSequenceEntry first => (s.flowSequenceEntry first).map some
    | .pairKey => s.pairKey.map some
    | .pairValue => s.pairValue.map some
    | .pairEnd m => (s.give .mappingEnd m).map some
    | .flowMappingKey first => (s.flowMappingKey first).map some
    | .flowMappingValue => s.flowMappingValue.map some
    | .flowMappingNoValue => ((s.expect [.flowMappingKey false]).give .absent s.mark).map some

/-- At most so many events. -/
def run : Nat → EventReader → Except SyntaxError (List (Located Event))
  | 0, _ => .error .missingContent
  | bound + 1, s =>
    match s.next with
    | .error e => .error e
    | .ok none => .ok []
    | .ok (some (e, s)) => (run bound s).map (e :: ·)

end EventReader

/-- The events of a sequence of tokens. Between two tokens that are used up at most three events
use none. -/
def Event.ofTokens (tokens : List (Located Token)) : Except SyntaxError (List (Located Event)) :=
  (EventReader.ofTokens tokens).run (4 * tokens.length + 4)

/-- The events of a text. -/
def Event.ofText (s : List Char) : Except SyntaxError (List (Located Event)) :=
  (Token.ofText s).bind Event.ofTokens

end RecordSchema.Yaml
