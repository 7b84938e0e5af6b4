import RecordSchema.Json.Basic
import RecordSchema.Model.Package
import RecordSchema.TypeMap

/-!
# Packages and type maps as JSON

Writing and reading the package model and type maps. An absent constant is left out.
-/

namespace RecordSchema

open Json

/-! ### Types -/

/-- A kind is its name. -/
def FieldKind.toJson (k : FieldKind) : Json :=
  .string k.name

/-- The kind of a name. -/
def FieldKind.ofName? : String → Option FieldKind
  | "Normal" => some .normal
  | "Array" => some .array
  | "Optional" => some .optional
  | "PrimaryKey" => some .primaryKey
  | _ => none

/-- Reads a kind. -/
def FieldKind.ofJson? (j : Json) : Option FieldKind :=
  match j.variant? with
  | some (name, content) => if holdsNothing content then ofName? name else none
  | none => none

/-- A string, or null. -/
def Json.ofOption : Option String → Json
  | some s => .string s
  | none => .null

/-- A resolution is a variant that holds the target. -/
def Resolution.toJson : Resolution → Json
  | unresolved => .string "Unresolved"
  | resolved name package =>
    .object [("Resolved", .object [("name", .string name), ("package", .ofOption package)])]

/-- Reads a resolution. The target is an object and not an array. -/
def Resolution.ofJson? (j : Json) : Option Resolution :=
  match j.variant? with
  | some ("Unresolved", content) => if holdsNothing content then some unresolved else none
  | some ("Resolved", some (.object fields)) => do
    let name ← (← (object fields).required 2 0 "name").string?
    let package ← (object fields).optional 2 1 "package" string?
    return resolved name package
  | _ => none

/-- A type with its resolution. -/
def FieldType.toJson (t : FieldType) : Json :=
  .object [("raw", .string t.raw), ("kind", t.kind.toJson), ("resolution", t.resolution.toJson)]

/-- Reads a type; without a resolution it is not linked. -/
def FieldType.ofJson? (j : Json) : Option FieldType := do
  let raw ← (← j.required 3 0 "raw").string?
  let kind ← FieldKind.ofJson? (← j.required 3 1 "kind")
  let resolution ← j.defaulted 3 2 "resolution" .unresolved Resolution.ofJson?
  return ⟨raw, kind, resolution⟩

/-! ### Declarations -/

/-- A field with its type. -/
def Field.toJson (f : Field) : Json :=
  .object [("name", .string f.name), ("comment", .string f.comment), ("type", f.type.toJson)]

/-- Reads a field. -/
def Field.ofJson? (j : Json) : Option Field := do
  let name ← (← j.required 3 0 "name").string?
  let comment ← (← j.required 3 1 "comment").string?
  let type ← FieldType.ofJson? (← j.required 3 2 "type")
  return ⟨name, comment, type⟩

/-- A structure with its fields. -/
def Structure.toJson (s : Structure) : Json :=
  .object [("name", .string s.name), ("comment", .string s.comment),
    ("fields", .array (s.fields.map Field.toJson))]

/-- Reads a structure. -/
def Structure.ofJson? (j : Json) : Option Structure := do
  let name ← (← j.required 3 0 "name").string?
  let comment ← (← j.required 3 1 "comment").string?
  let fields ← (← j.required 3 2 "fields").list? Field.ofJson?
  return ⟨name, comment, fields⟩

/-- A value of an enumeration. -/
def EnumValue.toJson (v : EnumValue) : Json :=
  .object ([("name", .string v.name), ("comment", .string v.comment)] ++
    match v.constant with
    | some constant => [("constant", .string constant)]
    | none => [])

/-- Reads a value of an enumeration. -/
def EnumValue.ofJson? (j : Json) : Option EnumValue := do
  let name ← (← j.required 3 0 "name").string?
  let comment ← (← j.required 3 1 "comment").string?
  let constant ← j.defaulted 3 2 "constant" none (nullable string?)
  return ⟨name, comment, constant⟩

/-- An enumeration with its values. -/
def Enumeration.toJson (e : Enumeration) : Json :=
  .object [("name", .string e.name), ("comment", .string e.comment),
    ("fields", .array (e.values.map EnumValue.toJson))]

/-- Reads an enumeration. -/
def Enumeration.ofJson? (j : Json) : Option Enumeration := do
  let name ← (← j.required 3 0 "name").string?
  let comment ← (← j.required 3 1 "comment").string?
  let values ← (← j.required 3 2 "fields").list? EnumValue.ofJson?
  return ⟨name, comment, values⟩

/-- A package with its declarations. -/
def Package.toJson (p : Package) : Json :=
  .object [("name", .string p.name), ("enums", .array (p.enums.map Enumeration.toJson)),
    ("structures", .array (p.structures.map Structure.toJson)),
    ("dependencies", .array (p.dependencies.map .string))]

/-- Reads a package. -/
def Package.ofJson? (j : Json) : Option Package := do
  let name ← (← j.required 4 0 "name").string?
  let enums ← (← j.required 4 1 "enums").list? Enumeration.ofJson?
  let structures ← (← j.required 4 2 "structures").list? Structure.ofJson?
  let dependencies ← (← j.required 4 3 "dependencies").list? string?
  return ⟨name, enums, structures, dependencies⟩

/-! ### Type maps -/

/-- The target of a primitive type. -/
def TypeTarget.toJson (t : TypeTarget) : Json :=
  .object [("name", .string t.name), ("package", .string t.package)]

/-- Reads a target; without a support package it needs no import. -/
def TypeTarget.ofJson? (j : Json) : Option TypeTarget := do
  let name ← (← j.required 2 0 "name").string?
  let package ← j.defaulted 2 1 "package" "" string?
  return ⟨name, package⟩

/-- An object of targets in the order of the names. -/
def TypeMap.toJson (m : TypeMap) : Json :=
  .object (m.entries.map fun e => (e.1, e.2.toJson))

/-- Reads a type map; of repeated names the last one counts. -/
def TypeMap.ofJson? : Json → Option TypeMap
  | .object fields => do
    let entries ← fields.mapM fun f => (TypeTarget.ofJson? f.2).map (f.1, ·)
    return Dictionary.ofList entries
  | _ => none

end RecordSchema
