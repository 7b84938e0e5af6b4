import Mathlib
import RecordSchema.Declarations

/-!
# Documents without comments

Erasing all comments of a document erases the comments of what it declares and changes nothing else.
Main statement: `declarations_withoutComments`.
-/

namespace RecordSchema

/-! ### What has comments

Each of these is what it was with empty comments throughout. -/

/-- What a node carries, without the comments. -/
def Info.withoutComments (i : Info) : Info :=
  { i with head := "", line := "" }

namespace Node

mutual

/-- The tree without comments. -/
def withoutComments : Node → Node
  | null i => null i.withoutComments
  | scalar i text => scalar i.withoutComments text
  | sequence i items => sequence i.withoutComments (itemsWithoutComments items)
  | mapping i entries => mapping i.withoutComments (entriesWithoutComments entries)

/-- The items of a sequence without comments. -/
def itemsWithoutComments : List Node → List Node
  | [] => []
  | n :: rest => n.withoutComments :: itemsWithoutComments rest

/-- The entries of a mapping without comments, the keys included. -/
def entriesWithoutComments : List (Node × Node) → List (Node × Node)
  | [] => []
  | (key, value) :: rest =>
    (key.withoutComments, value.withoutComments) :: entriesWithoutComments rest

end

end Node

/-- The document without the comments in its body. -/
def Document.withoutComments (d : Document) : Document :=
  { d with root := d.root.map Node.withoutComments }

/-- The field without its comment. -/
def Field.withoutComments (f : Field) : Field :=
  { f with comment := "" }

/-- The structure without its comment and those of its fields. -/
def Structure.withoutComments (s : Structure) : Structure :=
  { s with comment := "", fields := s.fields.map Field.withoutComments }

/-- The value without its comment. -/
def EnumValue.withoutComments (v : EnumValue) : EnumValue :=
  { v with comment := "" }

/-- The enumeration without its comment and those of its values. -/
def Enumeration.withoutComments (e : Enumeration) : Enumeration :=
  { e with comment := "", values := e.values.map EnumValue.withoutComments }

/-- The package without the comments of its declarations. -/
def Package.withoutComments (p : Package) : Package :=
  { p with
    enums := p.enums.map Enumeration.withoutComments
    structures := p.structures.map Structure.withoutComments }

/-- What has been registered, without comments. -/
def Registry.withoutComments (r : Registry) : Registry :=
  { r with
    enums := r.enums.map Enumeration.withoutComments
    structures := r.structures.map Structure.withoutComments }

/-- What a document declares, without comments. -/
def Declarations.withoutComments (d : Declarations) : Declarations :=
  { d with
    package := d.package.map Package.withoutComments
    fields := d.fields.map Field.withoutComments }

/-! ### Names are no comments -/

/-- A field keeps its name. -/
@[simp]
lemma Field.name_withoutComments (f : Field) : f.withoutComments.name = f.name := rfl

/-- A structure keeps its name. -/
@[simp]
lemma Structure.name_withoutComments (s : Structure) : s.withoutComments.name = s.name := rfl

/-- A value keeps its name. -/
@[simp]
lemma EnumValue.name_withoutComments (v : EnumValue) : v.withoutComments.name = v.name := rfl

/-- An enumeration keeps its name. -/
@[simp]
lemma Enumeration.name_withoutComments (e : Enumeration) : e.withoutComments.name = e.name := rfl

/-- A package keeps its name. -/
@[simp]
lemma Package.name_withoutComments (p : Package) : p.withoutComments.name = p.name := rfl

/-- Which names repeat depends on nothing but the names. -/
lemma repeatedNames_map {α : Type} (name : α → String) {change : α → α}
    (same : ∀ a, name (change a) = name a) (items : List α) :
    repeatedNames name (items.map change) = repeatedNames name items := by
  simp [repeatedNames, Function.comp_def, same]

namespace Node

/-- The text of a scalar is no comment. -/
@[simp]
lemma text?_withoutComments (n : Node) : n.withoutComments.text? = n.text? := by
  cases n <;> simp [withoutComments, text?]

/-- A node keeps its place and nothing else of what it carries. -/
@[simp]
lemma info_withoutComments (n : Node) : n.withoutComments.info = n.info.withoutComments := by
  cases n <;> simp [withoutComments, info]

/-- The comments of items are erased one by one. -/
@[simp]
lemma itemsWithoutComments_eq (items : List Node) :
    itemsWithoutComments items = items.map withoutComments := by
  induction items with
  | nil => simp [itemsWithoutComments]
  | cons n rest ih => simp [itemsWithoutComments, ih]

end Node

/-! ### Registering without comments -/

/-- Without comments an entry has none. -/
lemma entryComment_withoutComments (key value : Node) :
    entryComment key.withoutComments value.withoutComments = "" := by
  have none : Comment.first ["", "", ""] = "" := by decide
  simp [entryComment, Info.withoutComments, none]

/-- An item without comments is the same value without a comment. -/
lemma enumValue?_withoutComments (item : Node) :
    enumValue? item.withoutComments = (enumValue? item).map EnumValue.withoutComments := by
  have none : Comment.first ["", ""] = "" := by decide
  simp [enumValue?, Info.withoutComments, none, EnumValue.withoutComments, Function.comp_def]

/-- The items of a sequence without comments are its values without comments. -/
lemma enumValues_withoutComments (items : List Node) :
    (items.map Node.withoutComments).filterMap enumValue? =
      (items.filterMap enumValue?).map EnumValue.withoutComments := by
  simp [List.filterMap_map, List.map_filterMap, enumValue?_withoutComments]

/-- What is wrong with the items of a sequence does not depend on comments. -/
lemma enumDiagnostics_withoutComments (name : String) (items : List Node) :
    enumDiagnostics name (items.map Node.withoutComments) = enumDiagnostics name items := by
  rw [enumDiagnostics, enumValues_withoutComments,
    repeatedNames_map _ EnumValue.name_withoutComments]
  simp [enumDiagnostics, List.filter_map, Function.comp_def]

/-- What is wrong with fields does not depend on comments. -/
lemma fieldDiagnostics_withoutComments (fields : List Field) :
    fieldDiagnostics (fields.map Field.withoutComments) = fieldDiagnostics fields := by
  rw [fieldDiagnostics, repeatedNames_map _ Field.name_withoutComments, fieldDiagnostics]

namespace Registry

/-- There are no comments where nothing is registered. -/
@[simp]
lemma withoutComments_empty : empty.withoutComments = empty := rfl

/-- Reporting commutes with erasing comments. -/
lemma withoutComments_report (r : Registry) (ds : List Diagnostic) :
    (r.report ds).withoutComments = r.withoutComments.report ds := rfl

/-- Registering an enumeration commutes with erasing comments. -/
lemma withoutComments_addEnum (r : Registry) (e : Enumeration) :
    (r.addEnum e).withoutComments = r.withoutComments.addEnum e.withoutComments := by
  simp [withoutComments, addEnum]

/-- Registering a structure commutes with erasing comments, since a table is known by its name. -/
lemma withoutComments_addStructure (r : Registry) (table : Option String) (s : Structure) :
    (r.addStructure table s).withoutComments =
      r.withoutComments.addStructure table s.withoutComments := by
  have hasTable : r.withoutComments.hasTable = r.hasTable := rfl
  simp only [addStructure, Structure.name_withoutComments, hasTable]
  split
  · split <;> simp [withoutComments, report]
  · simp [withoutComments]

end Registry

mutual

/-- Without comments a value registers the same declarations without comments. -/
lemma registerValue_withoutComments (table : Option String) (name comment : String) (r : Registry)
    (value : Node) :
    registerValue table name "" r.withoutComments value.withoutComments =
      ((registerValue table name comment r value).1,
        (registerValue table name comment r value).2.withoutComments) := by
  match value with
  | .null _ => simp [Node.withoutComments, registerValue]
  | .scalar _ _ => simp [Node.withoutComments, registerValue]
  | .sequence _ items =>
    simp only [Node.withoutComments, registerValue, Node.itemsWithoutComments_eq,
      enumDiagnostics_withoutComments, enumValues_withoutComments,
      Registry.withoutComments_addEnum, Registry.withoutComments_report]
    rfl
  | .mapping _ entries =>
    simp only [Node.withoutComments, registerValue,
      registerEntries_withoutComments table r entries, fieldDiagnostics_withoutComments,
      Registry.withoutComments_addStructure, Registry.withoutComments_report]
    rfl

/-- Entries without comments register what the entries do, without comments. -/
lemma registerEntries_withoutComments (table : Option String) (r : Registry)
    (entries : List (Node × Node)) :
    registerEntries table r.withoutComments (Node.entriesWithoutComments entries) =
      ((registerEntries table r entries).1.map Field.withoutComments,
        (registerEntries table r entries).2.withoutComments) := by
  match entries with
  | [] => simp [Node.entriesWithoutComments, registerEntries]
  | (key, value) :: rest =>
    -- the comment of the entry goes to what its value declares, and to the field
    have value' := registerValue_withoutComments table (FieldKind.splitKey (keyText key)).1
      (entryComment key value) r value
    simp only [Node.entriesWithoutComments, registerEntries, keyText,
      Node.text?_withoutComments, entryComment_withoutComments] at value' ⊢
    simp only [value', registerEntries_withoutComments table _ rest, List.map_cons]
    rfl

end

/-- The name of a package does not depend on comments. -/
lemma packageNameOf_withoutComments (table : Option String) (r : Registry) :
    packageNameOf table r.withoutComments = packageNameOf table r := rfl

namespace Document

/-- Without comments a document declares the same without comments, and has the same problems. -/
lemma declarations_withoutComments (d : Document) :
    d.withoutComments.declarations = d.declarations.withoutComments := by
  obtain ⟨root, m⟩ := d
  match root with
  | none => rfl
  | some (.null _) => simp [withoutComments, declarations, Node.withoutComments,
      Declarations.withoutComments]
  | some (.scalar _ _) => simp [withoutComments, declarations, Node.withoutComments,
      Declarations.withoutComments, Node.shape]
  | some (.sequence _ _) => simp [withoutComments, declarations, Node.withoutComments,
      Declarations.withoutComments, Node.shape]
  | some (.mapping info entries) =>
    have registered := registerEntries_withoutComments m.table .empty entries
    rw [Registry.withoutComments_empty] at registered
    simp only [withoutComments, Option.map_some, declarations, Node.withoutComments, table?,
      registered, fieldDiagnostics_withoutComments, ← Registry.withoutComments_report,
      packageNameOf_withoutComments]
    rfl

end Document

end RecordSchema
