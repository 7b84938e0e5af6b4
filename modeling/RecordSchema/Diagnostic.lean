import RecordSchema.Node

/-!
# Diagnostics

The problems of a batch of documents. They are collected, so that one run reports all of them.
-/

namespace RecordSchema

/-- The groups of problems. -/
inductive Category where
  /-- the shape of a document -/
  | structural
  /-- conflicts of names -/
  | naming
  /-- references that lead nowhere -/
  | semantic
deriving DecidableEq, Repr

/-- The name of a group. -/
def Category.name : Category → String
  | structural => "Structural"
  | naming => "Naming"
  | semantic => "Semantic"

/-- A problem of a batch. -/
inductive Diagnostic where
  | invalidRoot (found : Shape)
  | nonScalarEnumValue (enum : String)
  | duplicateField (name : String)
  | duplicateEnumValue (name : String)
  | duplicateEnum (name : String)
  | duplicateStructure (name : String)
  | duplicatePackage (name : String)
  | multiplePrimaryTables (name : String)
deriving DecidableEq, Repr

namespace Diagnostic

/-- The group of a problem. -/
def category : Diagnostic → Category
  | invalidRoot _ | nonScalarEnumValue _ => .structural
  | _ => .naming

/-- A name between backquotes. -/
def ticked (name : String) : String :=
  "\x60" ++ name ++ "\x60"

/-- The wording of a problem. -/
def message : Diagnostic → String
  | invalidRoot found => "document root must be a mapping, found " ++ found.name
  | nonScalarEnumValue _ => "enum values must be scalar"
  | duplicateField name => "duplicate field name: " ++ ticked name
  | duplicateEnumValue name => "duplicate enum value: " ++ ticked name
  | duplicateEnum name => "duplicate enum: " ++ ticked name
  | duplicateStructure name => "duplicate structure: " ++ ticked name
  | duplicatePackage name => "duplicate package: " ++ ticked name
  | multiplePrimaryTables name =>
    "document declares more than one primary table: " ++ ticked name

/-- The wording of several problems. -/
def messageOfList : List Diagnostic → String
  | [] => "no diagnostics"
  | [d] => d.message
  | ds => toString ds.length ++ " diagnostics:" ++
      String.join (ds.map fun d => "\n  " ++ d.message)

end Diagnostic

end RecordSchema
