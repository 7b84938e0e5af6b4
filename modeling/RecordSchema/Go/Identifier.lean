/-!
# Go identifiers

The identifiers that generated code may hold: ASCII letters, digits and underscores, and no digit
first.
-/

namespace RecordSchema.Go

/-- A character that may begin an identifier. -/
def isIdentifierStart (c : Char) : Bool :=
  c.isAlpha || c == '_'

/-- A character that may go on an identifier. -/
def isIdentifierRest (c : Char) : Bool :=
  c.isAlphanum || c == '_'

/-- The characters of an identifier. -/
def isIdentifierChars : List Char → Bool
  | [] => false
  | c :: rest => isIdentifierStart c && rest.all isIdentifierRest

/-- An identifier. -/
def isIdentifier (name : String) : Bool :=
  isIdentifierChars name.toList

end RecordSchema.Go
