import RecordSchema.Node

/-!
# Documents

A schema document: its body and what its envelope says about it.
-/

namespace RecordSchema

/-- What is known about a document besides its body. -/
structure Metadata where
  /-- the name of the primary table -/
  table : Option String
  /-- the version of the envelope -/
  version : Option String
  /-- the kind of the envelope -/
  kind : Option String
  source : Option Origin
deriving DecidableEq, Repr, Inhabited

/-- Nothing is known. -/
def Metadata.unknown : Metadata :=
  ⟨none, none, none, none⟩

/-- A schema document. -/
structure Document where
  /-- the body, unless the document is blank -/
  root : Option Node
  metadata : Metadata
deriving Repr, Inhabited

namespace Document

/-- The name of the primary table, if one is declared. -/
def table? (d : Document) : Option String :=
  d.metadata.table

/-- The body is absent or null. -/
def isBlank (d : Document) : Bool :=
  d.root.all Node.isNull

end Document

end RecordSchema
