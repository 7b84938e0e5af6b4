import RecordSchema.Text.Printable
import RecordSchema.Text.Cluster.Property

/-!
# Quoted text in messages

A text in double quotes with everything escaped that a reader could not see or could mistake: the
quote and the backslash, the usual control characters by their letters, and other characters that
are not printable or attach to their neighbour by their code point.
-/

namespace RecordSchema.Text

/-- A lower-case hexadecimal number. -/
def hexNumber (n : Nat) : List Char :=
  Nat.toDigits 16 n

/-- The sound marks of halfwidth Katakana, which extend a cluster but have a width of their own. -/
def halfwidthMarks : Intervals :=
  [(0xFF9E, 0xFF9F)]

/-- A character that is drawn onto its neighbour. -/
def attaches (c : Char) : Bool :=
  extending.contains c && !halfwidthMarks.contains c

/-- The written form of one character between double quotes. -/
def quotedChar (c : Char) : List Char :=
  if c = '"' then ['\\', '"']
  else if c = '\\' then ['\\', '\\']
  else if c = '\n' then ['\\', 'n']
  else if c = '\r' then ['\\', 'r']
  else if c = '\t' then ['\\', 't']
  else if c = '\x00' then ['\\', '0']
  else if !isPrintable c || attaches c then
    ['\\', 'u', '\x7b'] ++ hexNumber c.toNat ++ ['\x7d']
  else [c]

/-- A text in double quotes. -/
def quoted (s : String) : String :=
  String.ofList ('"' :: s.toList.flatMap quotedChar ++ ['"'])

end RecordSchema.Text
