/-!
# Field kinds

A marker at the end of a field's key says what kind of field it is. Main statement: a key is its
name followed by the marker of its kind, so splitting loses nothing.
-/

namespace RecordSchema

/-- The kind of a field. -/
inductive FieldKind where
  | normal
  | array
  | optional
  | primaryKey
deriving DecidableEq, Repr, Inhabited

namespace FieldKind

/-- The marker of a kind. -/
def marker : FieldKind → String
  | normal => ""
  | array => "[]"
  | optional => "?"
  | primaryKey => "!"

/-- The name of a kind. -/
def name : FieldKind → String
  | normal => "Normal"
  | array => "Array"
  | optional => "Optional"
  | primaryKey => "PrimaryKey"

/-- The name and the kind in a key whose characters are given last first. -/
def splitReversed : List Char → List Char × FieldKind
  | ']' :: '[' :: rest => (rest, array)
  | '?' :: rest => (rest, optional)
  | '!' :: rest => (rest, primaryKey)
  | rest => (rest, normal)

/-- Splits a key into its name and its kind. Only the last marker counts, so `tags[]?` is an
optional field with the name `tags[]`. -/
def splitKey (key : String) : String × FieldKind :=
  let (name, kind) := splitReversed key.toList.reverse
  (String.ofList name.reverse, kind)

/-- A name followed by the marker of its kind is the key. -/
theorem splitReversed_append (key : List Char) :
    (splitReversed key).2.marker.toList.reverse ++ (splitReversed key).1 = key := by
  fun_cases splitReversed key <;> simp [marker]

end FieldKind

end RecordSchema
