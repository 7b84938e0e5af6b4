import RecordSchema.Dictionary

/-!
# Type maps

A type map gives the targets of the primitive types of the schema.
-/

namespace RecordSchema

/-- The target of a primitive type: its name, and the support package to import, or nothing. -/
structure TypeTarget where
  name : String
  package : String
deriving DecidableEq, Repr, Inhabited

/-- Targets by the name of the primitive type. -/
abbrev TypeMap := Dictionary TypeTarget

end RecordSchema
