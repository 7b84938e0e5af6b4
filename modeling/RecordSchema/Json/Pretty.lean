import RecordSchema.Json.Basic

/-!
# Indented JSON text

JSON values as text for people: two spaces for each level, every item and every field on its own
line, and empty arrays and objects on one.
-/

namespace RecordSchema.Json

/-- A hexadecimal number of four digits. -/
def hexFour (n : Nat) : List Char :=
  let digits := Nat.toDigits 16 n
  List.replicate (4 - digits.length) '0' ++ digits

/-- A character inside a JSON string. -/
def escapedChar (c : Char) : List Char :=
  if c = '"' then ['\\', '"']
  else if c = '\\' then ['\\', '\\']
  else if c = '\x08' then ['\\', 'b']
  else if c = '\x0c' then ['\\', 'f']
  else if c = '\n' then ['\\', 'n']
  else if c = '\r' then ['\\', 'r']
  else if c = '\t' then ['\\', 't']
  else if c.toNat < 0x20 then ['\\', 'u'] ++ hexFour c.toNat
  else [c]

/-- A JSON string. -/
def stringText (s : String) : String :=
  String.ofList ('"' :: s.toList.flatMap escapedChar ++ ['"'])

/-- The text of a number. -/
def numberText (digits : Int) (places : Nat) : String :=
  if places = 0 then
    toString digits
  else
    let whole := toString (digits.natAbs / Nat.pow 10 places)
    let part := toString (digits.natAbs % Nat.pow 10 places)
    let zeros := String.ofList (List.replicate (places - part.length) '0')
    (if digits < 0 then "-" else "") ++ whole ++ "." ++ zeros ++ part

/-- A new line at a level. -/
def newLine (level : Nat) : String :=
  "\n" ++ String.ofList (List.replicate (2 * level) ' ')

mutual

/-- The text of a value whose lines stand at a level. -/
def prettyAt (level : Nat) : Json → String
  | null => "null"
  | bool true => "true"
  | bool false => "false"
  | number digits places => numberText digits places
  | string s => stringText s
  | array [] => "[]"
  | array (item :: rest) =>
    "[" ++ newLine (level + 1) ++ prettyAt (level + 1) item ++ prettyItems (level + 1) rest ++
      newLine level ++ "]"
  | object [] => "\x7b\x7d"
  | object ((name, value) :: rest) =>
    "\x7b" ++ newLine (level + 1) ++ stringText name ++ ": " ++ prettyAt (level + 1) value ++
      prettyFields (level + 1) rest ++ newLine level ++ "\x7d"

/-- The items after the first, each behind a comma. -/
def prettyItems (level : Nat) : List Json → String
  | [] => ""
  | item :: rest => "," ++ newLine level ++ prettyAt level item ++ prettyItems level rest

/-- The fields after the first, each behind a comma. -/
def prettyFields (level : Nat) : List (String × Json) → String
  | [] => ""
  | (name, value) :: rest =>
    "," ++ newLine level ++ stringText name ++ ": " ++ prettyAt level value ++
      prettyFields level rest

end

/-- The indented text of a value. -/
def pretty (j : Json) : String :=
  prettyAt 0 j

end RecordSchema.Json
