import RecordSchema.Form.Reading
import RecordSchema.Text.Blank
import RecordSchema.TypeMap

/-!
# Settings

Settings are a form. They say where generated sources go, how their package is named, and which
targets and imports are known besides the builtin ones. A type map can stand on its own, too.
-/

namespace RecordSchema

/-! ### Type maps -/

/-- Reads a target; without a support package it needs no import. -/
def TypeTarget.ofForm (f : Form) (v : Form.Value) : Except FormError TypeTarget := do
  let fields ← f.record v ["name", "package"]
  let some name := fields.lookup "name" | throw .missingField
  return ⟨← f.text name, ← Form.fieldOr fields "package" "" f.text⟩

/-- Reads a type map; of repeated names the last one counts. -/
def TypeMap.ofForm (f : Form) (v : Form.Value) : Except FormError TypeMap := do
  let entries ← f.entries v
  return Dictionary.ofList (← entries.mapM fun (raw, v) => (TypeTarget.ofForm f v).map (raw, ·))

/-- Reads the text of a type map. -/
def TypeMap.ofText (text : String) : Except FormError TypeMap := do
  let f ← Form.ofText text
  TypeMap.ofForm f f.root

/-! ### Settings -/

/-- What can be set for all runs. -/
structure Settings where
  /-- the output directory -/
  out : Option String
  /-- the name of the generated package -/
  package : Option String
  typeMap : TypeMap
  /-- import paths by support package -/
  imports : Dictionary String

namespace Settings

/-- Nothing is set. -/
def unset : Settings :=
  ⟨none, none, .empty, .empty⟩

/-- The names of the fields. -/
def fieldNames : List String :=
  ["out", "package", "typemap", "imports"]

/-- Reads import paths; of repeated packages the last one counts. -/
def importsOfForm (f : Form) (v : Form.Value) : Except FormError (Dictionary String) := do
  let entries ← f.entries v
  return Dictionary.ofList (← entries.mapM fun (package, v) => (f.text v).map (package, ·))

/-- Reads settings. Every field may be missing, but no other field may be there. -/
def ofForm (f : Form) : Except FormError Settings := do
  let fields ← f.record f.root fieldNames
  if fields.any (!fieldNames.contains ·.1) then throw .unknownField
  let out ← Form.fieldOr fields "out" none f.text?
  let package ← Form.fieldOr fields "package" none f.text?
  let typeMap ← Form.fieldOr fields "typemap" .empty (TypeMap.ofForm f)
  let imports ← Form.fieldOr fields "imports" .empty (importsOfForm f)
  return ⟨out, package, typeMap, imports⟩

/-- Reads the text of settings. A blank text sets nothing. -/
def ofText (text : String) : Except FormError Settings :=
  if (Text.trim text.toList).isEmpty then .ok unset else (Form.ofText text).bind ofForm

end Settings

end RecordSchema
