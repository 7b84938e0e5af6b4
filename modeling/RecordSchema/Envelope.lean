import RecordSchema.Cursor
import RecordSchema.Document

/-!
# Envelopes

A schema document is bare, or it stands in an envelope that gives its version, its kind, and the
name of its primary table.
-/

namespace RecordSchema

/-- How a node becomes a document. -/
inductive Format where
  /-- the node is a mapping with the entries `version`, `kind`, `metadata` and `spec` -/
  | envelope
  /-- the node is the body -/
  | bare
deriving DecidableEq, Repr, Inhabited

/-- Why a node is no envelope of a model. -/
inductive EnvelopeError where
  | notMapping (found : Shape)
  | navigation (cause : NavigationError)
  | unknownVersion (version : String)
  | unknownKind (kind : String)
deriving DecidableEq, Repr

namespace Envelope

/-- The version of envelopes and manifests. -/
def version : String :=
  "v1"

/-- The kind of a model. -/
def modelKind : String :=
  "Model"

/-- A step of decoding. -/
abbrev Decoded (α : Type) := Except EnvelopeError α

/-- A navigation as a step of decoding. -/
def navigated {α : Type} (r : Except NavigationError α) : Decoded α :=
  r.mapError .navigation

/-- The scalar value of a key, `none` if it is missing or null. -/
def scalar? (c : Cursor) (key : String) : Decoded (Option String) := do
  match ← navigated (c.child? key) with
  | none => return none
  | some child => if child.node.isNull then return none else some <$> navigated child.scalar

/-- The name of the primary table, if the metadata give one. -/
def table? (c : Cursor) : Decoded (Option String) := do
  match ← navigated (c.child? "metadata") with
  | none => return none
  | some child =>
    if child.node.isNull then return none
    else return (← scalar? child "name").filter (· != "")

/-- Takes a document out of its envelope. -/
def decode (root : Node) (origin : Origin) : Decoded Document := do
  if root.shape ≠ .mapping then
    throw (.notMapping root.shape)
  let c := Cursor.ofNode root
  let version? ← scalar? c "version"
  if version? ≠ some version then
    throw (.unknownVersion (version?.getD ""))
  let kind? ← scalar? c "kind"
  if kind? ≠ some modelKind then
    throw (.unknownKind (kind?.getD ""))
  let table ← table? c
  let body := (root.get? "spec").filter (!·.isNull)
  return ⟨body, ⟨table, version?, kind?, some origin⟩⟩

end Envelope

/-- The document of a node; a null node is a blank document in either format. -/
def Format.decode (f : Format) (root : Node) (origin : Origin) :
    Except EnvelopeError Document :=
  let bare (body : Option Node) : Document :=
    ⟨body, { Metadata.unknown with source := some origin }⟩
  if root.isNull then .ok (bare none)
  else
    match f with
    | .bare => .ok (bare (some root))
    | .envelope => Envelope.decode root origin

end RecordSchema
