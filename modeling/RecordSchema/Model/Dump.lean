import RecordSchema.Model.Package
import RecordSchema.Text.Blank

/-!
# Text dumps of packages

The form in which packages are shown to people.
-/

namespace RecordSchema

/-- The kind in brackets, the target with its support package, and the name in the schema. -/
def FieldType.dump (t : FieldType) : String :=
  let package := if t.package = "" then "" else t.package ++ "."
  "[" ++ t.kind.name ++ "]" ++ package ++ t.name ++ "(" ++ t.raw ++ ")"

/-- A field on one line. -/
def Field.dump (f : Field) : String :=
  f.name ++ " " ++ f.type.dump ++ "#" ++ f.comment

/-- A declaration with its comment above it and its members indented. -/
def dumpDeclaration (keyword name comment : String) (members : List String) : String :=
  "#" ++ comment ++ "\ntype " ++ name ++ " " ++ keyword ++ " \x7b\n" ++
    String.join (members.map fun m => "\t" ++ m ++ "\n") ++ "\x7d"

/-- A structure and its fields. -/
def Structure.dump (s : Structure) : String :=
  dumpDeclaration "struct" s.name s.comment (s.fields.map Field.dump)

/-- A value on one line. -/
def EnumValue.dump (v : EnumValue) : String :=
  v.identifier ++ "#" ++ v.comment

/-- An enumeration and its values. -/
def Enumeration.dump (e : Enumeration) : String :=
  dumpDeclaration "enum" e.name e.comment (e.values.map EnumValue.dump)

/-- A package: its name, dependencies, enumerations and structures, without white space around. -/
def Package.dump (p : Package) : String :=
  let parts := p.dependencies ++ p.enums.map Enumeration.dump ++ p.structures.map Structure.dump
  let text := "package " ++ p.name ++ "\n" ++ String.join (parts.map (· ++ "\n"))
  String.ofList (Text.trim text.toList)

end RecordSchema
