import RecordSchema.Yaml.Input

/-!
# Tags and directives

A tag does not change what a document means here, but it has to be well formed and its handle has
to be declared; so the functions check a tag and keep its handle.
-/

namespace RecordSchema.Yaml

/-- The characters of a URI. -/
def isUriChar (c : Char) : Bool :=
  c.isAlphanum || c == '-' || "#;/?:@&=+$,_.!~*'()[]%".toList.contains c

/-- The characters of a tag suffix: those of a URI without flow indicators and `!`. -/
def isTagChar (c : Char) : Bool :=
  isUriChar c && !isFlowIndicator c && c != '!'

/-- The byte that `%` and two hexadecimal digits write. -/
def escapedByte? (i : Input) : Option Nat :=
  if i.peek = '%' then
    (hexValue? (i.peekAt 1)).bind fun high => (hexValue? (i.peekAt 2)).map (16 * high + ·)
  else
    none

/-- Skips an escaped character: one byte below 128, or two bytes the first of which is below
216. -/
def skipUriEscape (i : Input) : Except SyntaxError Input :=
  match escapedByte? i with
  | none => .error .badTag
  | some byte =>
    if byte < 0x80 then .ok (i.drop 3)
    else if 0xC0 ≤ byte ∧ byte < 0xD8 then
      match escapedByte? (i.drop 3) with
      | none => .error .badTag
      | some next => if 0x80 ≤ next ∧ next < 0xC0 then .ok (i.drop 6) else .error .badTag
    else .error .badTag

/-- An escape uses up input. -/
theorem length_skipUriEscape_lt {i rest : Input} (h : skipUriEscape i = .ok rest) :
    rest.length < i.length := by
  have hne : 0 < i.length := by
    cases i with
    | nil => simp [skipUriEscape, escapedByte?, Input.peek] at h
    | cons => simp
  unfold skipUriEscape at h
  split at h
  · simp at h
  · split at h
    · injection h with h
      subst h
      simp only [List.length_drop]
      omega
    · split at h
      · split at h
        · simp at h
        · split at h
          · injection h with h
            subst h
            simp only [List.length_drop]
            omega
          · simp at h
      · simp at h

/-- Skips URI characters that pass a test, decoding escapes. -/
def skipUriChars (p : Char → Bool) (i : Input) : Except SyntaxError Input :=
  match i with
  | [] => .ok []
  | g :: rest =>
    if p g.char then
      if g.char = '%' then
        match _hnext : skipUriEscape (g :: rest) with
        | .error e => .error e
        | .ok next => skipUriChars p next
      else
        skipUriChars p rest
    else
      .ok (g :: rest)
termination_by i.length
decreasing_by
  · exact length_skipUriEscape_lt _hnext
  · simp

/-- Reads a handle: `!`, name characters and perhaps another `!`. -/
def readHandle (i : Input) : Except SyntaxError (List Char × Input) :=
  if i.peek = '!' then
    let after : Input := i.drop 1
    let name := after.takeChars isNameChar
    let rest := after.skipChars isNameChar
    if Input.peek rest = '!' then .ok ('!' :: name ++ ['!'], rest.drop 1)
    else .ok ('!' :: name, rest)
  else
    .error .badTag

/-- A handle that has to be declared: `!`, a name and `!`. -/
def isNamedHandle (handle : List Char) : Bool :=
  decide (2 ≤ handle.length) && handle.getLast? == some '!'

/-- Reads the prefix that a directive declares for a handle. -/
def skipTagPrefix (i : Input) : Except SyntaxError Input :=
  if i.peek = '!' then skipUriChars isUriChar (i.drop 1)
  else if isTagChar i.peek then skipUriChars isUriChar i
  else .error .badTag

/-- Reads a tag in one of its forms. A tag without a named handle is local and has the handle
`!`. -/
def readTag (flow : Bool) (i : Input) : Except SyntaxError (String × Input) := do
  let (handle, rest) ←
    if i.peekAt 1 = '<' then
      let rest ← skipUriChars isUriChar (i.drop 2)
      if Input.peek rest = '>' then .ok (['!'], rest.drop 1) else .error .badTag
    else
      let (handle, suffix) ← readHandle i
      let rest ← skipUriChars isTagChar suffix
      if isNamedHandle handle then
        if rest.length < suffix.length then .ok (handle, rest) else .error .badTag
      else
        .ok (['!'], rest)
  if isBlankOrEnd (Input.peek rest) || (flow && isFlowIndicator (Input.peek rest)) then
    .ok (String.ofList handle, rest)
  else
    .error .badTag

/-- What a directive declares. -/
inductive Directive where
  | version
  | tag (handle : String)
  | unknown
deriving DecidableEq, Repr

/-- Skips a number of at most nine digits. -/
def skipNumber (i : Input) : Except SyntaxError Input :=
  let digits := i.takeChars Char.isDigit
  if digits.isEmpty ∨ 9 < digits.length then .error .badDirective
  else .ok (i.drop digits.length)

/-- Reads a directive after its `%`, up to the end of its line. -/
def readDirective (i : Input) : Except SyntaxError (Directive × Input) := do
  let name := i.takeChars isNameChar
  let rest := i.skipChars isNameChar
  if name.isEmpty || !isBlankOrEnd (Input.peek rest) then
    throw .badDirective
  let (directive, rest) ←
    if name = "YAML".toList then
      let major ← skipNumber (rest.skipChars isBlank)
      if Input.peek major = '.' then
        let minor ← skipNumber (major.drop 1)
        .ok (.version, minor)
      else
        .error .badDirective
    else if name = "TAG".toList then
      let (handle, rest) ← readHandle (rest.skipChars isBlank)
      if handle = ['!'] ∨ isNamedHandle handle = true then
        let rest ← skipTagPrefix (rest.skipChars isBlank)
        if isBlankOrEnd (Input.peek rest) then .ok (.tag (String.ofList handle), rest)
        else .error .badDirective
      else
        .error .badDirective
    else
      .ok (.unknown, rest.skipLine)
  let (_, rest) ← rest.skipBlanks true
  if endsLine (Input.peek rest) then
    .ok (directive, rest)
  else
    .error .badDirective

end RecordSchema.Yaml
