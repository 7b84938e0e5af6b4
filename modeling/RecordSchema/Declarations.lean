import RecordSchema.Comment
import RecordSchema.Conflict
import RecordSchema.Diagnostic
import RecordSchema.Document
import RecordSchema.Model.Package

/-!
# The declarations of a document

Every nested mapping of a document is a structure and every nested sequence an enumeration. Both
are registered by name in the package of the document, and the field that declares them refers to
them. The structure with the name of the primary table names the package.
-/

namespace RecordSchema

/-- What one document declares. A blank document and one without a mapping have no package. -/
structure Declarations where
  package : Option Package
  /-- the fields of the mapping at the root -/
  fields : List Field
  diagnostics : List Diagnostic
deriving DecidableEq, Repr

/-- What has been registered so far. -/
structure Registry where
  /-- the primary table has been found -/
  hasTable : Bool
  enums : List Enumeration
  structures : List Structure
  diagnostics : List Diagnostic
deriving DecidableEq, Repr

namespace Registry

/-- Nothing is registered. -/
def empty : Registry :=
  ⟨false, [], [], []⟩

/-- Adds diagnostics. -/
def report (r : Registry) (ds : List Diagnostic) : Registry :=
  { r with diagnostics := r.diagnostics ++ ds }

/-- Registers an enumeration. -/
def addEnum (r : Registry) (e : Enumeration) : Registry :=
  { r with enums := r.enums ++ [e] }

/-- Registers a structure. Only one may have the name of the primary table. -/
def addStructure (r : Registry) (table : Option String) (s : Structure) : Registry :=
  let r :=
    if table = some s.name then
      if r.hasTable then r.report [.multiplePrimaryTables s.name] else { r with hasTable := true }
    else
      r
  { r with structures := r.structures ++ [s] }

end Registry

/-- The text of a key; a key that is no scalar has none. -/
def keyText (key : Node) : String :=
  key.text?.getD ""

/-- The comment of an entry: the first that holds words among those above the key, behind the key
and behind the value. -/
def entryComment (key value : Node) : String :=
  Comment.first [key.info.head, key.info.line, value.info.line]

/-- The value of an enumeration that an item declares. -/
def enumValue? (item : Node) : Option EnumValue :=
  item.text?.map fun text => ⟨text, Comment.first [item.info.head, item.info.line], none⟩

/-- The problems of the items of an enumeration. -/
def enumDiagnostics (name : String) (items : List Node) : List Diagnostic :=
  (items.filter (·.text?.isNone)).map (fun _ => .nonScalarEnumValue name) ++
    (repeatedNames EnumValue.name (items.filterMap enumValue?)).map .duplicateEnumValue

/-- The problems of the fields of a mapping. -/
def fieldDiagnostics (fields : List Field) : List Diagnostic :=
  (repeatedNames Field.name fields).map .duplicateField

mutual

/-- Registers what the value of an entry declares, and answers the name of its type. -/
def registerValue (table : Option String) (name comment : String) (r : Registry) :
    Node → String × Registry
  | .null _ => ("", r)
  | .scalar _ text => (text, r)
  | .sequence _ items =>
    (name, (r.report (enumDiagnostics name items)).addEnum
      ⟨name, comment, items.filterMap enumValue?⟩)
  | .mapping _ entries =>
    let (fields, r) := registerEntries table r entries
    (name, (r.report (fieldDiagnostics fields)).addStructure table ⟨name, comment, fields⟩)

/-- Registers what entries declare, and answers their fields. -/
def registerEntries (table : Option String) (r : Registry) :
    List (Node × Node) → List Field × Registry
  | [] => ([], r)
  | (key, value) :: rest =>
    let (name, kind) := FieldKind.splitKey (keyText key)
    let comment := entryComment key value
    let (raw, r) := registerValue table name comment r value
    let (fields, r) := registerEntries table r rest
    (⟨name, comment, .unlinked raw kind⟩ :: fields, r)

end

/-- The name of the package of a document: that of the primary table if it has been found. -/
def packageNameOf (table : Option String) (r : Registry) : String :=
  match table with
  | some name => if r.hasTable then name else Package.commonName
  | none => Package.commonName

/-- What a document declares. -/
def Document.declarations (d : Document) : Declarations :=
  match d.root with
  | none | some (.null _) => ⟨none, [], []⟩
  | some (.mapping _ entries) =>
    let (fields, r) := registerEntries d.table? .empty entries
    let r := r.report (fieldDiagnostics fields)
    ⟨some ⟨packageNameOf d.table? r, r.enums, r.structures, []⟩, fields, r.diagnostics⟩
  | some root => ⟨none, [], [.invalidRoot root.shape]⟩

end RecordSchema
