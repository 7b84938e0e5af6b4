import RecordSchema.Envelope
import RecordSchema.Files.Path
import RecordSchema.Form.Reading

/-!
# Manifests

A manifest is a form that lists the model files of a schema directory in the order in which they
are loaded.
-/

namespace RecordSchema

/-- The manifest of a schema directory. -/
structure Manifest where
  version : String
  kind : String
  /-- paths relative to the directory -/
  resources : List String
deriving DecidableEq, Repr

/-- Why a text is no manifest. -/
inductive ManifestError where
  | malformed (cause : FormError)
  | unknownVersion (version : String)
  | unknownKind (kind : String)
deriving DecidableEq, Repr

namespace Manifest

/-- The name of the manifest in its directory. -/
def fileName : String :=
  "schemac.yaml"

/-- The kind of a manifest. -/
def manifestKind : String :=
  "Manifest"

/-- Reads the fields of a manifest. -/
def ofForm (f : Form) : Except FormError Manifest := do
  let fields ← f.record f.root ["version", "kind", "resources"]
  let version ← Form.fieldOr fields "version" "" f.text
  let kind ← Form.fieldOr fields "kind" "" f.text
  let resources ← Form.fieldOr fields "resources" [] f.texts
  return ⟨version, kind, resources⟩

/-- Reads a manifest and checks its version and kind. -/
def ofText (text : String) : Except ManifestError Manifest :=
  match (Form.ofText text).bind ofForm with
  | .error cause => .error (.malformed cause)
  | .ok m =>
    if m.version ≠ Envelope.version then .error (.unknownVersion m.version)
    else if m.kind ≠ manifestKind then .error (.unknownKind m.kind)
    else .ok m

/-- The paths of the resources of a manifest in a directory. -/
def paths (m : Manifest) (directory : String) : List String :=
  m.resources.map (Path.join directory)

end Manifest

end RecordSchema
