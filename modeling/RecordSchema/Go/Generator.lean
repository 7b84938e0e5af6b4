import RecordSchema.Diagnostic
import RecordSchema.Files.Tree
import RecordSchema.Go.Identifier
import RecordSchema.Go.Source
import RecordSchema.Linking
import RecordSchema.Name

/-!
# Generating Go

One source file for each package. An enumeration becomes an integer type with constants, and a
structure becomes a struct whose fields are tagged for BSON and JSON. Every name in a file is an
identifier, or there is no file at all.
-/

namespace RecordSchema.Go

/-- Why there is no code for some packages. -/
inductive GenerateError where
  | unknownDependency (package dependency : String)
  | missingType (structure_ field : String)
  | invalidIdentifier (name : String)
  | unwritable (path : String) (cause : FileError)
deriving DecidableEq, Repr

namespace GenerateError

/-- The wording of an error. -/
def message : GenerateError → String
  | unknownDependency package dependency =>
    "unknown cross-file reference " ++ Diagnostic.ticked dependency ++ " in package " ++
      Diagnostic.ticked package
  | missingType structure_ field =>
    "field " ++ Diagnostic.ticked field ++ " of " ++ Diagnostic.ticked structure_ ++
      " has no type"
  | invalidIdentifier name => "invalid identifier: " ++ Diagnostic.ticked name
  | unwritable path cause => "failed to write " ++ path ++ ": " ++ cause.message

/-- The group of an error that describes the schema. -/
def category? : GenerateError → Option Category
  | unknownDependency _ _ => some .semantic
  | missingType _ _ => some .structural
  | invalidIdentifier _ => some .naming
  | unwritable _ _ => none

end GenerateError

/-- The outcome of a step of the generation. -/
abbrev Generated (α : Type) := Except GenerateError α

/-- The types of the schema that Go has a type for. -/
def builtinTypes : TypeMap :=
  Dictionary.ofList
    [("int", ⟨"int64", ""⟩), ("float", ⟨"float64", ""⟩), ("bool", ⟨"bool", ""⟩),
     ("string", ⟨"string", ""⟩), ("datetime", ⟨"Time", "time"⟩),
     ("objectid", ⟨"ObjectID", "primitive"⟩)]

/-- The import paths of the support packages of those types. -/
def builtinImports : Dictionary String :=
  Dictionary.ofList
    [("time", "time"), ("primitive", "go.mongodb.org/mongo-driver/bson/primitive")]

/-- What is generated, and where. -/
structure Generator where
  /-- the output directory -/
  out : String
  /-- the name of the directory in which relative paths start, if it has one -/
  workingName : Option String
  /-- the name of the Go package, if it is not that of the output directory -/
  package : Option String
  typeMap : TypeMap
  /-- import paths by support package -/
  imports : Dictionary String

namespace Generator

/-- A generator for the types that Go has. -/
def into (out : String) (workingName : Option String) : Generator :=
  ⟨out, workingName, none, builtinTypes, builtinImports⟩

/-- The generator with more types, which replace those of the same names. -/
def withTypes (g : Generator) (types : TypeMap) : Generator :=
  { g with typeMap := g.typeMap.extend types }

/-- The generator with a name for the Go package. -/
def withPackage (g : Generator) (name : String) : Generator :=
  { g with package := some name }

/-- The generator with more import paths, of which the last one counts for each package. -/
def withImports (g : Generator) (imports : List (String × String)) : Generator :=
  { g with imports := g.imports.insertAll imports }

/-- A name that has to be an identifier. -/
def checked (name : String) : Generated String :=
  if isIdentifier name then .ok name else .error (.invalidIdentifier name)

/-- The name of the output directory. -/
def folderName (g : Generator) : Generated String :=
  match Path.fileName? g.out with
  | some name => .ok name
  | none =>
    if g.out = "" then .error (.unwritable g.out .emptyPath)
    else
      match g.workingName with
      | some name =>
        if Path.isAbsolute g.out || !(Path.names g.out).isEmpty then
          .error (.invalidIdentifier g.out)
        else
          .ok name
      | none => .error (.invalidIdentifier g.out)

/-- The name of the Go package of the generated files. -/
def packageClause (g : Generator) : Generated String :=
  match g.package with
  | some name => checked name
  | none => do checked (Name.packageName (← g.folderName))

/-! ### Types -/

/-- A name behind the name of its support package. -/
def qualified (name package : String) : String :=
  if package = "" then name else package ++ "." ++ name

/-- The type expression of a linked type. Optional fields are pointers; so are the items of arrays,
unless they have one of the value types. -/
def typeRef (valueTypes : List String) (t : FieldType) : TypeRef :=
  let base := qualified t.name t.package
  let isPointer :=
    match t.kind with
    | .optional => true
    | .array => !valueTypes.contains base
    | .normal | .primaryKey => false
  ⟨t.kind == .array, isPointer, base⟩

/-- The names of the types that are held by value. -/
def valueTypes (g : Generator) : List String :=
  g.typeMap.entries.map fun e => qualified e.2.name e.2.package

/-! ### Declarations -/

/-- The constant of a value. -/
def constDecl (v : EnumValue) : Generated ConstDecl := do
  return ⟨← checked v.identifier, v.comment⟩

/-- The declaration of an enumeration. -/
def enumDecl (e : Enumeration) : Generated EnumDecl := do
  let name ← checked (Name.protoPascal e.name)
  let constants ← e.values.mapM constDecl
  return ⟨name, e.comment, constants⟩

/-- The keys of a field in BSON and in JSON. -/
def tagKeys (kind : FieldKind) (key : String) : String × String :=
  match kind with
  | .primaryKey => ("_id", key)
  | .optional => (key ++ ",omitempty", key ++ ",omitempty")
  | .normal | .array => (key, key)

/-- The declaration of a field. -/
def fieldDecl (valueTypes : List String) (structure_ : String) (f : Field) :
    Generated FieldDecl := do
  let name ← checked (Name.pascal f.name)
  if f.type.name = "" then
    throw (.missingType structure_ f.name)
  let _ ← checked f.type.name
  let (bson, json) := tagKeys f.type.kind (Name.snake f.name)
  return ⟨name, f.comment, typeRef valueTypes f.type, bson, json⟩

/-- The declaration of a structure. -/
def structDecl (valueTypes : List String) (s : Structure) : Generated StructDecl := do
  let name ← checked (Name.protoPascal s.name)
  let fields ← s.fields.mapM (fieldDecl valueTypes s.name)
  return ⟨name, s.comment, fields⟩

/-! ### Files -/

/-- The import path of a support package that a package depends on. -/
def importPath (g : Generator) (package dependency : String) : Generated String :=
  match g.imports.get? dependency with
  | some path => .ok path
  | none => .error (.unknownDependency package dependency)

/-- The source file of a linked package. -/
def sourceFile (g : Generator) (clause : String) (p : Package) : Generated SourceFile := do
  let imports ← p.dependencies.mapM (g.importPath p.name)
  let enums ← p.enums.mapM enumDecl
  let structs ← p.structures.mapM (structDecl g.valueTypes)
  return ⟨clause, imports.mergeSort fun a b => decide (a ≤ b), enums, structs⟩

/-- A file to be written. -/
structure OutputFile where
  path : String
  source : SourceFile
deriving DecidableEq, Repr

/-- The text of a file. -/
def OutputFile.contents (f : OutputFile) : String :=
  f.source.text

/-- The file of a linked package. -/
def outputFile (g : Generator) (clause : String) (p : Package) : Generated OutputFile := do
  let name ← checked (Name.packageName p.name)
  let source ← g.sourceFile clause p
  return ⟨Path.join g.out (name ++ ".go"), source⟩

/-- The linker for the types of the generator. -/
def linker (g : Generator) : Linker :=
  ⟨g.typeMap, Name.protoPascal⟩

/-- The files of some packages. -/
def generate (g : Generator) (packages : List Package) : Generated (List OutputFile) := do
  let clause ← g.packageClause
  (g.linker.link packages).mapM (g.outputFile clause)

/-! ### Writing -/

/-- Writes files one after the other until one cannot be written. The tree after it is answered in
any case. -/
def writeFiles (t : FileTree) : List OutputFile → FileTree × Generated Unit
  | [] => (t, .ok ())
  | f :: rest =>
    match t.write f.path f.contents with
    | .ok t => writeFiles t rest
    | .error e => (t, .error (.unwritable f.path e))

/-- Writes files into the output directory, which is made first. -/
def write (g : Generator) (files : List OutputFile) (t : FileTree) : FileTree × Generated Unit :=
  match t.makeDirectories g.out with
  | (t, some e) => (t, .error (.unwritable g.out e))
  | (t, none) => writeFiles t files

/-- Generates and writes the files of some packages, and answers their paths. -/
def run (g : Generator) (packages : List Package) (t : FileTree) :
    FileTree × Generated (List String) :=
  match g.generate packages with
  | .error e => (t, .error e)
  | .ok files =>
    match g.write files t with
    | (t, .ok ()) => (t, .ok (files.map OutputFile.path))
    | (t, .error e) => (t, .error e)

end Generator

end RecordSchema.Go
