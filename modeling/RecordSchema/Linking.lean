import RecordSchema.Model.Package
import RecordSchema.Text.Case
import RecordSchema.TypeMap

/-!
# Linking types

Every field's type is looked up in a type map; a name that is not in the map refers to a declared
type and is converted by a naming function. A package depends on the support packages of its
fields. Linking depends on nothing that an earlier linking has left behind.
-/

namespace RecordSchema

/-- A type map, and the naming of declared types. -/
structure Linker where
  typeMap : TypeMap
  naming : String → String

namespace Linker

/-- The linked form of a type. -/
def linkType (l : Linker) (t : FieldType) : FieldType :=
  match l.typeMap.get? t.raw with
  | some target => t.resolve target.name (some target.package)
  | none => t.resolve (l.naming t.raw) none

/-- A field with its type linked. -/
def linkField (l : Linker) (f : Field) : Field :=
  { f with type := l.linkType f.type }

/-- A structure with the types of its fields linked. -/
def linkStructure (l : Linker) (s : Structure) : Structure :=
  { s with fields := s.fields.map l.linkField }

/-- The constant of a value: its name behind that of the enumeration, in upper case. -/
def assignConstant (enum : String) (v : EnumValue) : EnumValue :=
  { v with constant := some (Text.upperString (enum ++ "_" ++ v.name)) }

/-- An enumeration whose values have their constants. -/
def assignConstants (e : Enumeration) : Enumeration :=
  { e with values := e.values.map (assignConstant e.name) }

/-- The support packages that the fields of a structure need. -/
def supportPackages (l : Linker) (s : Structure) : List String :=
  s.fields.filterMap fun f =>
    (l.typeMap.get? f.type.raw).bind fun target =>
      if target.package = "" then none else some target.package

/-- The support packages of a package in ascending order, each once. -/
def dependencies (l : Linker) (p : Package) : List String :=
  (Dictionary.ofList ((p.structures.flatMap l.supportPackages).map (·, ()))).entries.map Prod.fst

/-- A package with its types linked. -/
def linkPackage (l : Linker) (p : Package) : Package :=
  { p with
    enums := p.enums.map assignConstants
    structures := p.structures.map l.linkStructure
    dependencies := l.dependencies p }

/-- Packages with their types linked. -/
def link (l : Linker) (packages : List Package) : List Package :=
  packages.map l.linkPackage

end Linker

end RecordSchema
