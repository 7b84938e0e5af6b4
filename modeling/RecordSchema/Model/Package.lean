import RecordSchema.Model.FieldKind

/-!
# Packages

A package is a flat list of structures and enumerations. A field does not own the type that it
refers to: it holds the type's name in the schema and, once it is linked, the name of the target.
-/

namespace RecordSchema

/-- What linking found for a type. -/
inductive Resolution where
  | unresolved
  | resolved (name : String) (package : Option String)
deriving DecidableEq, Repr, Inhabited

/-- The type of a field. -/
structure FieldType where
  /-- the name in the schema -/
  raw : String
  kind : FieldKind
  resolution : Resolution
deriving DecidableEq, Repr, Inhabited

namespace FieldType

/-- A type that is not linked yet. -/
def unlinked (raw : String) (kind : FieldKind) : FieldType :=
  ⟨raw, kind, .unresolved⟩

/-- The name of the target, empty before linking. -/
def name (t : FieldType) : String :=
  match t.resolution with
  | .resolved name _ => name
  | .unresolved => ""

/-- The support package of the target, empty if there is none. -/
def package (t : FieldType) : String :=
  match t.resolution with
  | .resolved _ (some package) => package
  | _ => ""

/-- The type is linked. -/
def isResolved (t : FieldType) : Bool :=
  match t.resolution with
  | .resolved _ _ => true
  | .unresolved => false

/-- The type with what linking found; an empty support package is none. -/
def resolve (t : FieldType) (name : String) (package : Option String) : FieldType :=
  { t with resolution := .resolved name (package.filter (· != "")) }

end FieldType

/-- A field of a structure. -/
structure Field where
  name : String
  comment : String
  type : FieldType
deriving DecidableEq, Repr, Inhabited

/-- A record type with its fields in the order of declaration. -/
structure Structure where
  name : String
  comment : String
  fields : List Field
deriving DecidableEq, Repr, Inhabited

/-- The first field of a name. -/
def Structure.field? (s : Structure) (name : String) : Option Field :=
  s.fields.find? (·.name == name)

/-- A value of an enumeration, and the constant that linking assigned to it. -/
structure EnumValue where
  name : String
  comment : String
  constant : Option String
deriving DecidableEq, Repr, Inhabited

/-- The constant of a value, or its name before linking. -/
def EnumValue.identifier (v : EnumValue) : String :=
  v.constant.getD v.name

/-- An enumeration with its values in the order of declaration. -/
structure Enumeration where
  name : String
  comment : String
  values : List EnumValue
deriving DecidableEq, Repr, Inhabited

/-- A unit of generated code. -/
structure Package where
  name : String
  enums : List Enumeration
  structures : List Structure
  /-- the support packages that field types need -/
  dependencies : List String
deriving DecidableEq, Repr, Inhabited

namespace Package

/-- The name of the package that documents without a primary table share. -/
def commonName : String :=
  "common"

/-- A package that declares nothing. -/
def empty (name : String) : Package :=
  ⟨name, [], [], []⟩

/-- The shared package. -/
def isCommon (p : Package) : Bool :=
  p.name == commonName

/-- The package declares nothing. -/
def isEmpty (p : Package) : Bool :=
  p.enums.isEmpty && p.structures.isEmpty

/-- The first structure of a name. -/
def structure? (p : Package) (name : String) : Option Structure :=
  p.structures.find? (·.name == name)

/-- The first enumeration of a name. -/
def enum? (p : Package) (name : String) : Option Enumeration :=
  p.enums.find? (·.name == name)

end Package

end RecordSchema
