import RecordSchema.Form.Input
import RecordSchema.Yaml.Tag

/-!
# Tags and directives of a form

A tag is written out, or a handle that is declared and a suffix. Tags are made of bytes: an escaped
byte stands for the character of the same number, and the first zero byte ends the tag. Of the
directives only the two that are known are allowed.
-/

namespace RecordSchema.Form

open Yaml (Input SyntaxError escapedByte? isBlank isNameChar isNamedHandle readHandle)

/-! ### URIs -/

/-- The characters of a URI; the flow indicators among them only in a URI that is written out. -/
def isUriChar (whole : Bool) (c : Char) : Bool :=
  isNameChar c || ";/?:@&=+$.%!~*'()".toList.contains c || (whole && ",[]".toList.contains c)

/-- How many bytes a character takes up whose first byte this is. -/
def byteCount? (byte : Nat) : Option Nat :=
  if byte < 0x80 then some 1
  else if 0xC0 ≤ byte ∧ byte < 0xE0 then some 2
  else if 0xE0 ≤ byte ∧ byte < 0xF0 then some 3
  else if 0xF0 ≤ byte ∧ byte < 0xF8 then some 4
  else none

/-- The bytes of the rest of a character, which has so many more. -/
def readTrailingBytes (bytes : List Char) : Nat → Input → Except SyntaxError (List Char × Input)
  | 0, i => .ok (bytes, i)
  | count + 1, i =>
    match escapedByte? i with
    | some byte =>
      if 0x80 ≤ byte ∧ byte < 0xC0 then
        readTrailingBytes (Char.ofNat byte :: bytes) count (i.drop 3)
      else
        .error .badTag
    | none => .error .badTag

/-- The bytes of an escaped character, the last one first. -/
def readUriEscape (i : Input) : Except SyntaxError (List Char × Input) :=
  match escapedByte? i with
  | none => .error .badTag
  | some byte =>
    match byteCount? byte with
    | none => .error .badTag
    | some count => readTrailingBytes [Char.ofNat byte] (count - 1) (i.drop 3)

/-- The rest of a character keeps to the input. -/
theorem length_readTrailingBytes_le {count : Nat} {bytes bytes' : List Char} {i rest : Input}
    (h : readTrailingBytes bytes count i = .ok (bytes', rest)) : rest.length ≤ i.length := by
  induction count generalizing bytes i with
  | zero => simp_all [readTrailingBytes]
  | succ count ih =>
    simp only [readTrailingBytes] at h
    split at h
    · split at h
      · have := ih h
        simp only [List.length_drop] at this
        omega
      · simp at h
    · simp at h

/-- An escape uses up input. -/
theorem length_readUriEscape_lt {i rest : Input} {bytes : List Char}
    (h : readUriEscape i = .ok (bytes, rest)) : rest.length < i.length := by
  cases i with
  | nil => simp [readUriEscape, escapedByte?, Input.peek] at h
  | cons g r =>
    unfold readUriEscape at h
    split at h
    · simp at h
    · split at h
      · simp at h
      · have := length_readTrailingBytes_le h
        simp only [List.length_drop, List.length_cons] at this ⊢
        omega

/-- The bytes of a URI, behind those that were read before, and what follows. -/
def readUri (whole : Bool) (bytes : List Char) (i : Input) :
    Except SyntaxError (List Char × Input) :=
  match i with
  | [] => .ok (bytes.reverse, [])
  | g :: rest =>
    if isUriChar whole g.char then
      if g.char = '%' then
        match _hnext : readUriEscape (g :: rest) with
        | .error e => .error e
        | .ok (escaped, next) => readUri whole (escaped ++ bytes) next
      else
        readUri whole (g.char :: bytes) rest
    else
      .ok (bytes.reverse, g :: rest)
termination_by i.length
decreasing_by
  · exact length_readUriEscape_lt _hnext
  · simp

/-- The text of a tag that has these bytes. -/
def textOfBytes (bytes : List Char) : String :=
  String.ofList (bytes.takeWhile (· != '\x00'))

/-- The bytes of a URI that is not empty. -/
def readSomeUri (whole : Bool) (i : Input) : Except SyntaxError (String × Input) :=
  match readUri whole [] i with
  | .error e => .error e
  | .ok (bytes, rest) => if bytes.isEmpty then .error .badTag else .ok (textOfBytes bytes, rest)

/-! ### Tags -/

/-- A tag as it is written. -/
inductive Tag where
  | whole (uri : String)
  | shorthand (handle suffix : String)
deriving DecidableEq, Repr

/-- The tag that asks for no particular one. -/
def Tag.unspecific : Tag :=
  whole "!"

/-- Reads a tag. One without a handle is local and has the handle `!`. -/
def readTag (flow : Bool) (i : Input) : Except SyntaxError (Tag × Input) := do
  let (tag, rest) ←
    if i.peekAt 1 = '<' then
      let (uri, rest) ← readSomeUri true (i.drop 2)
      if Input.peek rest = '>' then .ok (Tag.whole uri, rest.drop 1) else .error .badTag
    else
      let (handle, rest) ← readHandle i
      if isNamedHandle handle then
        let (suffix, rest) ← readSomeUri false rest
        .ok (.shorthand (String.ofList handle) suffix, rest)
      else
        let (bytes, rest) ← readUri false (handle.drop 1).reverse rest
        let suffix := textOfBytes bytes
        .ok (if suffix = "" then .unspecific else .shorthand "!" suffix, rest)
  if separates (Input.peek rest) || (flow && Input.peek rest == ',') then
    .ok (tag, rest)
  else
    .error .badTag

/-! ### Directives -/

/-- What a directive declares. -/
inductive Directive where
  | version (major minor : Nat)
  | tag (handle uri : String)
deriving DecidableEq, Repr

/-- Reads a number of at most nine digits. -/
def readNumber (i : Input) : Except SyntaxError (Nat × Input) :=
  let digits := i.takeChars Char.isDigit
  if digits.isEmpty ∨ 9 < digits.length then .error .badDirective
  else .ok (digits.foldl (fun n d => 10 * n + (d.toNat - '0'.toNat)) 0, i.drop digits.length)

/-- Reads a version: two numbers and a dot between them. -/
def readVersion (i : Input) : Except SyntaxError (Directive × Input) := do
  let (major, rest) ← readNumber i
  if Input.peek rest = '.' then
    let (minor, rest) ← readNumber (rest.drop 1)
    return (.version major minor, rest)
  else
    throw .badDirective

/-- Reads a handle and the URI that it stands for. -/
def readHandleDeclaration (i : Input) : Except SyntaxError (Directive × Input) := do
  let (handle, rest) ← readHandle i
  if (handle = ['!'] ∨ isNamedHandle handle = true) ∧ isBlank (Input.peek rest) = true then
    let (uri, rest) ← readSomeUri true (rest.skipChars isBlank)
    if separates (Input.peek rest) then return (.tag (String.ofList handle) uri, rest)
    else throw .badDirective
  else
    throw .badDirective

/-- Reads a directive after its `%`, with its line. -/
def readDirective (i : Input) : Except SyntaxError (Directive × Input) := do
  let name := i.takeChars isNameChar
  let rest := i.skipChars isNameChar
  if name.isEmpty || !separates (Input.peek rest) then
    throw .badDirective
  let rest := rest.skipChars isBlank
  let (directive, rest) ←
    if name = "YAML".toList then readVersion rest
    else if name = "TAG".toList then readHandleDeclaration rest
    else .error .unknownDirective
  let rest := skipLineRest rest
  if endsLine rest.peek then return (directive, skipBreak rest) else throw .badDirective

end RecordSchema.Form
