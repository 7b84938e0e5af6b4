import RecordSchema.Yaml.Input

/-!
# Positions and origins

Where a node starts in its source, and where a document comes from.
-/

namespace RecordSchema

/-- A place in a source: line and column from 1, and the number of characters before it. -/
structure Position where
  line : UInt64
  column : UInt64
  offset : UInt64
deriving DecidableEq, Repr, Inhabited

/-- The position of what has no place in a source. -/
def Position.unknown : Position :=
  ⟨0, 0, 0⟩

/-- The position of a mark, whose column counts from 0. -/
def Position.ofMark (m : Yaml.Mark) : Position :=
  ⟨m.line.toUInt64, (m.column + 1).toUInt64, m.index.toUInt64⟩

/-- Where a document comes from: the name of its source and its number in it, from 0. -/
structure Origin where
  source : String
  index : UInt64
  position : Position
deriving DecidableEq, Repr, Inhabited

/-- The name of a document in messages. -/
def Origin.label (o : Origin) : String :=
  o.source ++ "#" ++ toString o.index.toNat

end RecordSchema
