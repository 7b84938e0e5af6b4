/-!
# Go source files

The declarations of a generated file, and the lines that write them down. Comments take lines of
their own.
-/

namespace RecordSchema.Go

/-- A type expression: a slice or not, a pointer or not, of a named type. -/
structure TypeRef where
  isSlice : Bool
  isPointer : Bool
  base : String
deriving DecidableEq, Repr

/-- The text of a type expression. -/
def TypeRef.text (t : TypeRef) : String :=
  (if t.isSlice then "[]" else "") ++ (if t.isPointer then "*" else "") ++ t.base

/-- A field of a struct with its keys in BSON and JSON. -/
structure FieldDecl where
  name : String
  comment : String
  type : TypeRef
  bson : String
  json : String
deriving DecidableEq, Repr

/-- A struct. -/
structure StructDecl where
  name : String
  comment : String
  fields : List FieldDecl
deriving DecidableEq, Repr

/-- A constant of an enumeration. -/
structure ConstDecl where
  name : String
  comment : String
deriving DecidableEq, Repr

/-- An integer type with its constants. -/
structure EnumDecl where
  name : String
  comment : String
  constants : List ConstDecl
deriving DecidableEq, Repr

/-- A source file. -/
structure SourceFile where
  /-- the name of the Go package -/
  package : String
  /-- the paths of the imported packages -/
  imports : List String
  enums : List EnumDecl
  structs : List StructDecl
deriving DecidableEq, Repr

/-- The line of a comment, if there is one. -/
def commentLines (indent name comment : String) : List String :=
  if comment = "" then [] else [indent ++ "// " ++ name ++ " " ++ comment]

/-- The tag of a field. -/
def FieldDecl.tag (f : FieldDecl) : String :=
  "\x60bson:\"" ++ f.bson ++ "\" json:\"" ++ f.json ++ "\"\x60"

/-- The lines of a field. -/
def FieldDecl.lines (f : FieldDecl) : List String :=
  commentLines "\t" f.name f.comment ++ ["\t" ++ f.name ++ " " ++ f.type.text ++ " " ++ f.tag]

/-- The lines of a struct. -/
def StructDecl.lines (s : StructDecl) : List String :=
  commentLines "" s.name s.comment ++ ["type " ++ s.name ++ " struct \x7b"] ++
    s.fields.flatMap FieldDecl.lines ++ ["\x7d"]

/-- The line of a constant. The first one has the type and the value, which the others repeat. -/
def ConstDecl.line (enum : String) (first : Bool) (c : ConstDecl) : String :=
  if first then "\t" ++ c.name ++ " " ++ enum ++ " = iota" else "\t" ++ c.name

/-- The lines of constants. -/
def constantLines (enum : String) (first : Bool) : List ConstDecl → List String
  | [] => []
  | c :: rest =>
    commentLines "\t" c.name c.comment ++ [c.line enum first] ++ constantLines enum false rest

/-- The lines of an enumeration. -/
def EnumDecl.lines (e : EnumDecl) : List String :=
  commentLines "" e.name e.comment ++ ["type " ++ e.name ++ " int32"] ++
    if e.constants.isEmpty then []
    else ["", "const ("] ++ constantLines e.name true e.constants ++ [")"]

/-- The first line of every generated file. -/
def header : String :=
  "// Code generated by schemac. DO NOT EDIT."

/-- The lines of the imports. -/
def importLines (imports : List String) : List String :=
  if imports.isEmpty then []
  else ["", "import ("] ++ imports.map (fun path => "\t\"" ++ path ++ "\"") ++ [")"]

/-- The lines of a file. -/
def SourceFile.lines (f : SourceFile) : List String :=
  [header, "", "package " ++ f.package] ++ importLines f.imports ++
    f.enums.flatMap (fun e => "" :: e.lines) ++ f.structs.flatMap (fun s => "" :: s.lines)

/-- The text of a file. -/
def SourceFile.text (f : SourceFile) : String :=
  String.join (f.lines.map (· ++ "\n"))

end RecordSchema.Go
