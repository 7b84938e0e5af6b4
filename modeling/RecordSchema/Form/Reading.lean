import RecordSchema.Form.Tokenizer
import RecordSchema.Form.Value

/-!
# From tokens to forms

A form is read from its tokens by recursion on its nodes. A form has at most one document; the text
without any holds an absent value.
-/

namespace RecordSchema.Form

open Yaml (SyntaxError)

/-- The state between two nodes. -/
structure Reader where
  /-- the tokens ahead -/
  tokens : List Token
  /-- the names of anchors so far, with the numbers that they stand for -/
  names : List (String × Nat)
deriving Repr

namespace Reader

/-- The next token. -/
def peek? (s : Reader) : Option Token :=
  s.tokens.head?

/-- Goes on after the next token. -/
def skip (s : Reader) : Reader :=
  { s with tokens := s.tokens.drop 1 }

/-! ### Properties -/

/-- What handles stand for. -/
abbrev Handles := List (String × String)

/-- The handles that need no declaration. -/
def builtinHandles : Handles :=
  [("!", "!"), ("!!", "tag:yaml.org,2002:")]

/-- The tag that is written in a document with some handles. -/
def resolveTag (handles : Handles) : Tag → Except SyntaxError String
  | .whole uri => .ok uri
  | .shorthand handle suffix =>
    match handles.lookup handle with
    | some start => .ok (start ++ suffix)
    | none => .error .undeclaredHandle

/-- Notes an anchor and answers its number. -/
def noteAnchor (s : Reader) (name : String) : Nat × Reader :=
  let number := s.names.length
  (number, { s with names := (name, number) :: s.names.filter (·.1 != name) })

/-- The anchor and the tag of a node. -/
structure Properties where
  anchor : Option Nat
  tag : Option String
deriving DecidableEq, Repr

/-- Reads an anchor that may be left out. -/
def readAnchor (s : Reader) : Option Nat × Reader :=
  match s.tokens with
  | .anchor name :: rest =>
    let (number, s) := s.noteAnchor name
    (some number, { s with tokens := rest })
  | _ => (none, s)

/-- Reads a tag that may be left out. -/
def readTag (handles : Handles) (s : Reader) : Except SyntaxError (Option String × Reader) :=
  match s.tokens with
  | .tag tag :: rest => (resolveTag handles tag).map fun tag => (some tag, { s with tokens := rest })
  | _ => .ok (none, s)

/-- Reads the properties of a node, in either order. -/
def readProperties (handles : Handles) (s : Reader) : Except SyntaxError (Properties × Reader) := do
  let (anchor, s) := s.readAnchor
  let (tag, s) ← s.readTag handles
  if anchor.isSome then return (⟨anchor, tag⟩, s)
  let (anchor, s) := s.readAnchor
  return (⟨anchor, tag⟩, s)

/-! ### Nodes -/

/-- How the entries of a sequence are written. -/
inductive SequenceStyle where
  | block
  | indentless
  | flow
deriving DecidableEq, Repr

/-- The tokens before which an entry of a block sequence is left out. -/
def endsEntry (style : SequenceStyle) : Token → Bool
  | .blockEntry | .blockEnd => true
  | .key | .value => style == .indentless
  | _ => false

/-- The tokens before which a key or a value in a block mapping is left out. -/
def endsMappingPart : Token → Bool
  | .key | .value | .blockEnd => true
  | _ => false

/-- The tokens before which a value is left out in a flow collection that `close` ends. -/
def endsFlowValue (close t : Token) : Bool :=
  t == .flowEntry || t == close

/-- The tokens before which a key is left out in a flow collection that `close` ends. -/
def endsFlowKey (close t : Token) : Bool :=
  t == .value || endsFlowValue close t

/-- Skips the comma in front of an entry that is not the first. -/
def skipComma (s : Reader) (first : Bool) : Except SyntaxError Reader :=
  if first then .ok s
  else if s.peek? = some .flowEntry then .ok s.skip
  else .error .missingSeparator

/-- The value of a scalar token. The unspecific tag of a scalar does not count. -/
def scalarOf (p : Properties) (plain : Bool) (text : String) : Value :=
  .scalar p.anchor (if p.tag = some "!" then none else p.tag) plain text

mutual

/-- Reads a node by at most so many nested steps. Block collections may start only where `block`
allows them, and a sequence at the indentation of its parent only where `indentless` does. -/
def readNode (handles : Handles) (block indentless : Bool) :
    Nat → Reader → Except SyntaxError (Value × Reader)
  | 0, _ => .error .missingContent
  | bound + 1, s =>
    match s.tokens with
    | .reference name :: _ =>
      match s.names.lookup name with
      | some number => .ok (.reference number, s.skip)
      | none => .error .unknownAnchor
    | _ =>
      match s.readProperties handles with
      | .error e => .error e
      | .ok (p, s) =>
        match s.tokens with
        | .scalar plain text :: _ => .ok (scalarOf p plain text, s.skip)
        | .flowSequenceStart :: _ => do
          let (items, s) ← readFlowItems handles true [] bound s.skip
          return (.sequence p.anchor items, s)
        | .flowMappingStart :: _ => do
          let (entries, s) ← readFlowEntries handles true [] bound s.skip
          return (.mapping p.anchor entries, s)
        | token :: _ =>
          if token = .blockEntry ∧ indentless then do
            let (items, s) ← readItems handles .indentless [] bound s
            return (.sequence p.anchor items, s)
          else if token = .blockSequenceStart ∧ block then do
            let (items, s) ← readItems handles .block [] bound s.skip
            return (.sequence p.anchor items, s)
          else if token = .blockMappingStart ∧ block then do
            let (entries, s) ← readEntries handles [] bound s.skip
            return (.mapping p.anchor entries, s)
          else if p.anchor.isSome ∨ p.tag.isSome then
            .ok (.scalar p.anchor p.tag true "", s)
          else
            .error .missingContent
        | [] => .error .missingContent

/-- Reads a node, which is left out before certain tokens. -/
def readNodeUnless (handles : Handles) (isAbsent : Token → Bool) (block indentless : Bool) :
    Nat → Reader → Except SyntaxError (Value × Reader)
  | 0, _ => .error .missingContent
  | bound + 1, s =>
    if s.peek?.any isAbsent then .ok (.absent, s) else readNode handles block indentless bound s

/-- Reads the rest of a sequence outside of flow collections; the items so far come last first. -/
def readItems (handles : Handles) (style : SequenceStyle) (items : List Value) :
    Nat → Reader → Except SyntaxError (List Value × Reader)
  | 0, _ => .error .missingContent
  | bound + 1, s =>
    if s.peek? = some .blockEntry then
      match readNodeUnless handles (endsEntry style) true false bound s.skip with
      | .error e => .error e
      | .ok (item, s) => readItems handles style (item :: items) bound s
    else if style = .indentless then
      .ok (items.reverse, s)
    else if s.peek? = some .blockEnd then
      .ok (items.reverse, s.skip)
    else
      .error .misplacedEntry

/-- Reads the rest of a block mapping; the entries so far come last first. Each entry starts with
its key token. -/
def readEntries (handles : Handles) (entries : List (Value × Value)) :
    Nat → Reader → Except SyntaxError (List (Value × Value) × Reader)
  | 0, _ => .error .missingContent
  | bound + 1, s =>
    if s.peek? = some .key then
      match readNodeUnless handles endsMappingPart true true bound s.skip with
      | .error e => .error e
      | .ok (k, s) =>
        if s.peek? = some .value then
          match readNodeUnless handles endsMappingPart true true bound s.skip with
          | .error e => .error e
          | .ok (v, s) => readEntries handles ((k, v) :: entries) bound s
        else
          readEntries handles ((k, .absent) :: entries) bound s
    else if s.peek? = some .blockEnd then
      .ok (entries.reverse, s.skip)
    else
      .error .misplacedKey

/-- Reads the value of a pair in a flow collection that `close` ends; its `:` may be missing. -/
def readFlowValue (handles : Handles) (close : Token) :
    Nat → Reader → Except SyntaxError (Value × Reader)
  | 0, _ => .error .missingContent
  | bound + 1, s =>
    if s.peek? = some .value then
      readNodeUnless handles (endsFlowValue close) false false bound s.skip
    else
      .ok (.absent, s)

/-- Reads a single pair in a flow sequence behind its key token. The token that stands in the place
of a missing key goes with it. -/
def readPair (handles : Handles) : Nat → Reader → Except SyntaxError (Value × Reader)
  | 0, _ => .error .missingContent
  | bound + 1, s => do
    let (k, s) ←
      if s.peek?.any (endsFlowKey .flowSequenceEnd) then pure (.absent, s.skip)
      else readNode handles false false bound s
    let (v, s) ← readFlowValue handles .flowSequenceEnd bound s
    return (.mapping none [(k, v)], s)

/-- Reads the rest of a flow sequence; the items so far come last first. -/
def readFlowItems (handles : Handles) (first : Bool) (items : List Value) :
    Nat → Reader → Except SyntaxError (List Value × Reader)
  | 0, _ => .error .missingContent
  | bound + 1, s =>
    if s.peek? = some .flowSequenceEnd then
      .ok (items.reverse, s.skip)
    else
      match s.skipComma first with
      | .error e => .error e
      | .ok s =>
        if s.peek? = some .flowSequenceEnd then
          .ok (items.reverse, s.skip)
        else
          let item :=
            if s.peek? = some .key then readPair handles bound s.skip
            else readNode handles false false bound s
          match item with
          | .error e => .error e
          | .ok (item, s) => readFlowItems handles false (item :: items) bound s

/-- Reads the rest of a flow mapping; the entries so far come last first. A node without a key token
is a key without a value. -/
def readFlowEntries (handles : Handles) (first : Bool) (entries : List (Value × Value)) :
    Nat → Reader → Except SyntaxError (List (Value × Value) × Reader)
  | 0, _ => .error .missingContent
  | bound + 1, s =>
    if s.peek? = some .flowMappingEnd then
      .ok (entries.reverse, s.skip)
    else
      match s.skipComma first with
      | .error e => .error e
      | .ok s =>
        if s.peek? = some .flowMappingEnd then
          .ok (entries.reverse, s.skip)
        else if s.peek? = some .key then
          match readNodeUnless handles (endsFlowKey .flowMappingEnd) false false bound s.skip with
          | .error e => .error e
          | .ok (k, s) =>
            match readFlowValue handles .flowMappingEnd bound s with
            | .error e => .error e
            | .ok (v, s) => readFlowEntries handles false ((k, v) :: entries) bound s
        else
          match readNode handles false false bound s with
          | .error e => .error e
          | .ok (k, s) => readFlowEntries handles false ((k, .absent) :: entries) bound s

end

/-! ### Documents -/

/-- Reads directives: what the handles of the document stand for. -/
def readDirectives (version : Bool) (handles : Handles) :
    List Token → Except SyntaxError (Handles × List Token)
  | .directive (.version major minor) :: rest =>
    if version then .error .repeatedVersion
    else if major = 1 ∧ (minor = 1 ∨ minor = 2) then readDirectives true handles rest
    else .error .unsupportedVersion
  | .directive (.tag handle uri) :: rest =>
    if (handles.lookup handle).isSome then .error .repeatedHandle
    else readDirectives version ((handle, uri) :: handles) rest
  | rest => .ok (handles ++ builtinHandles, rest)

/-- The document starts with a directive or its marker. -/
def startsDocument : Token → Bool
  | .directive _ | .documentStart => true
  | _ => false

/-- The tokens before which the content of a document is left out. -/
def endsDocument : Token → Bool
  | .directive _ | .documentStart | .documentEnd | .streamEnd => true
  | _ => false

/-- Reads the first document of a form: its value, and the tokens behind it. -/
def readDocument (tokens : List Token) : Except SyntaxError (Value × List Token) := do
  let bound := 4 * tokens.length + 4
  if tokens.head? = some .streamEnd then
    return (.absent, tokens)
  else if tokens.head?.any startsDocument then
    let (handles, tokens) ← readDirectives false [] tokens
    let .documentStart :: rest := tokens | throw .missingDocumentStart
    let (v, s) ← readNodeUnless handles endsDocument true false bound ⟨rest, []⟩
    return (v, s.tokens)
  else
    let (v, s) ← readNode builtinHandles true false bound ⟨tokens, []⟩
    return (v, s.tokens)

end Reader

/-- A document end marker. -/
def isDocumentEnd (t : Token) : Bool :=
  t == .documentEnd

/-- Reads a text as a form. -/
def ofText (text : String) : Except FormError Form :=
  if text.toList.all isPermitted then
    match (Token.ofText text.toList).bind Reader.readDocument with
    | .error cause => .error (.malformed cause)
    | .ok (v, rest) =>
      if rest.dropWhile isDocumentEnd = [.streamEnd] then .ok (ofValue v)
      else .error .severalDocuments
  else
    .error .controlCharacter

end RecordSchema.Form
