import RecordSchema.Text.Case.Mapping
import RecordSchema.Text.Case.Property

/-!
# Upper and lower case

The full case mappings of text, in which one character may become several. A capital sigma becomes
a final small sigma where it ends a word, that is, after a cased character and not before one,
characters that case ignores being skipped on either side.
-/

namespace RecordSchema.Text

/-- The form of a code point under runs and expansions; a code point they do not cover stays. -/
def caseForm (expansions : List (Nat × List Nat)) (runs : List CaseRun) (n : Nat) : List Nat :=
  match expansions.lookup n with
  | some form => form
  | none =>
    match runs.findSome? (·.image? n) with
    | some m => [m]
    | none => [n]

/-- The upper-case form of a character. -/
def upperChar (c : Char) : List Char :=
  if c.toNat < 128 then
    [c.toUpper]
  else
    (caseForm upperExpansions upperRuns c.toNat).map Char.ofNat

/-- The lower-case form of a character on its own. -/
def lowerChar (c : Char) : List Char :=
  if c.toNat < 128 then
    [c.toLower]
  else
    (caseForm lowerExpansions lowerRuns c.toNat).map Char.ofNat

/-- The upper-case form of a text. -/
def upper (s : List Char) : List Char :=
  s.flatMap upperChar

/-- The first character that case does not ignore is a cased one. -/
def meetsCased (s : List Char) : Bool :=
  match s.dropWhile caseIgnorable.contains with
  | [] => false
  | c :: _ => cased.contains c

/-- The lower-case form of what follows the characters of `before`, which are given last first. -/
def lowerAfter (before : List Char) : List Char → List Char
  | [] => []
  | c :: rest =>
    let form :=
      if c = 'Σ' then
        [if meetsCased before && !meetsCased rest then 'ς' else 'σ']
      else
        lowerChar c
    form ++ lowerAfter (c :: before) rest

/-- The lower-case form of a text. -/
def lower (s : List Char) : List Char :=
  lowerAfter [] s

/-- The upper-case form of a string. -/
def upperString (s : String) : String :=
  String.ofList (upper s.toList)

end RecordSchema.Text
