import Mathlib
import RecordSchema.Declarations
import RecordSchema.Proofs.Document.Walk
import RecordSchema.Proofs.Repetition

/-!
# Documents read without a registry

What a document declares, read off its walk: every entry says by itself which field, structure or
enumeration it stands for and what is wrong with it. Only a second primary table looks at the
entries before it. Main statements: `registerEntries_eq_foldl`, registering the entries of a mapping
is registering those of its walk one by one, and `declarations_eq_reading`, a document declares what
is read off its walk.
-/

namespace RecordSchema

namespace Entry

/-- The name in the key, without the marker. A key that is no scalar has the empty name. -/
def name (e : Entry) : String :=
  (FieldKind.splitKey (e.1.text?.getD "")).1

/-- The kind that the marker in the key stands for. -/
def kind (e : Entry) : FieldKind :=
  (FieldKind.splitKey (e.1.text?.getD "")).2

/-- The first comment with words among those above the key, behind the key and behind the value. -/
def comment (e : Entry) : String :=
  (([e.1.info.head, e.1.info.line, e.2.info.line].map Comment.normalize).find? (· != "")).getD ""

/-- The name of the type in the schema: the text of a scalar, and the name of the entry for what is
declared on the spot. -/
def raw (e : Entry) : String :=
  match e.2 with
  | .null _ => ""
  | .scalar _ text => text
  | .sequence _ _ | .mapping _ _ => e.name

/-- The field that the entry is. -/
def field (e : Entry) : Field :=
  ⟨e.name, e.comment, .unlinked e.raw e.kind⟩

/-- The structure that the entry declares, if its value is a mapping. -/
def structure? (e : Entry) : Option Structure :=
  e.2.entries?.map fun entries => ⟨e.name, e.comment, entries.map field⟩

/-- The value of an enumeration that an item is, if it is a scalar: its text, with the first comment with
words among that above it and that behind it. -/
def itemValue? (item : Node) : Option EnumValue :=
  item.text?.map fun text =>
    ⟨text, (([item.info.head, item.info.line].map Comment.normalize).find? (· != "")).getD "", none⟩

/-- The enumeration that the entry declares, if its value is a sequence. -/
def enumeration? (e : Entry) : Option Enumeration :=
  e.2.items?.map fun items => ⟨e.name, e.comment, items.filterMap itemValue?⟩

/-- What is wrong with the value by itself: items that are no scalars, repeated values, repeated
fields. -/
def faults (e : Entry) : List Diagnostic :=
  match e.2 with
  | .sequence _ items =>
    (items.filter (·.text?.isNone)).map (fun _ => .nonScalarEnumValue e.name) ++
      (repeats (items.filterMap Node.text?)).map .duplicateEnumValue
  | .mapping _ entries => (repeats (entries.map name)).map .duplicateField
  | _ => []

/-- The entry declares a structure with the name of the primary table. -/
def isTable (table : Option String) (e : Entry) : Bool :=
  match e.2 with
  | .mapping _ _ => table == some e.name
  | _ => false

/-- An entry declares the primary table when that is the name of its structure. -/
lemma isTable_iff {table : Option String} {e : Entry} :
    e.isTable table ↔ e.2.entries?.isSome ∧ table = some e.name := by
  obtain ⟨key, value⟩ := e
  cases value <;> simp [isTable, Node.entries?]

/-- Without a declared primary table no entry has its name. -/
@[simp]
lemma isTable_none (e : Entry) : e.isTable none = false := by
  rw [Bool.eq_false_iff, Ne, isTable_iff]
  simp

/-- What is wrong with the entry, given that a primary table has been found before it or not. -/
def faultsAfter (table : Option String) (found : Bool) (e : Entry) : List Diagnostic :=
  e.faults ++ if e.isTable table && found then [.multiplePrimaryTables e.name] else []

end Entry

namespace Document

/-- The entries of the mapping at the root. -/
def entries (d : Document) : List Entry :=
  (d.root.bind Node.entries?).getD []

/-- The walk of the document. -/
def walk (d : Document) : List Entry :=
  Node.walkEntries d.entries

/-- The name of the package: that of the primary table if the walk holds one. -/
def packageName (d : Document) : String :=
  if d.walk.any (·.isTable d.table?) then d.table?.getD "" else Package.commonName

/-- The package that the walk holds. -/
def reading (d : Document) : Package :=
  ⟨d.packageName, d.walk.filterMap Entry.enumeration?, d.walk.filterMap Entry.structure?, []⟩

/-- A root that is neither null nor a mapping is refused. -/
def rootFaults (d : Document) : List Diagnostic :=
  match d.root with
  | none | some (.null _) | some (.mapping _ _) => []
  | some root => [.invalidRoot root.shape]

/-- Everything that is wrong with the document, in the order of the walk. -/
def faults (d : Document) : List Diagnostic :=
  d.rootFaults ++
    (withEarlier d.walk).flatMap (fun (earlier, e) =>
      e.faultsAfter d.table? (earlier.any (·.isTable d.table?))) ++
    (repeats (d.entries.map Entry.name)).map .duplicateField

end Document

/-! ### Registering an entry -/

/-- Splitting the text of a key gives the name and the kind of its entry. -/
lemma splitKey_keyText (e : Entry) : FieldKind.splitKey (keyText e.1) = (e.name, e.kind) :=
  rfl

/-- Items are registered as the values that they are. -/
lemma enumValue?_eq : enumValue? = Entry.itemValue? :=
  rfl

/-- The names of the values of an enumeration are the texts of its scalars. -/
lemma map_name_enumValue (items : List Node) :
    (items.filterMap Entry.itemValue?).map EnumValue.name = items.filterMap Node.text? := by
  rw [List.map_filterMap]
  congr 1
  funext item
  cases item <;> rfl

/-- The fields of a mapping conflict when the names of its entries do. -/
lemma fieldDiagnostics_map_field (entries : List Entry) :
    fieldDiagnostics (entries.map Entry.field) =
      (repeats (entries.map Entry.name)).map .duplicateField := by
  rw [fieldDiagnostics, repeatedNames_eq_repeats, List.map_map]
  rfl

namespace Registry

/-- Registers what one entry declares, but nothing that lies within its value. -/
def visit (table : Option String) (r : Registry) (e : Entry) : Registry :=
  match e.2 with
  | .sequence _ items =>
    (r.report (enumDiagnostics e.name items)).addEnum
      ⟨e.name, e.comment, items.filterMap enumValue?⟩
  | .mapping _ entries =>
    (r.report (fieldDiagnostics (entries.map Entry.field))).addStructure table
      ⟨e.name, e.comment, entries.map Entry.field⟩
  | _ => r

/-- A structure is always registered, but of those with the name of the primary table all except the
first are reported. -/
lemma addStructure_eq (r : Registry) (table : Option String) (s : Structure) :
    r.addStructure table s =
      ⟨r.hasTable || table == some s.name, r.enums, r.structures ++ [s],
        r.diagnostics ++
          if table == some s.name && r.hasTable then [.multiplePrimaryTables s.name] else []⟩ := by
  by_cases named : table = some s.name
  · cases found : r.hasTable <;> simp [addStructure, report, named, found]
  · simp [addStructure, named]

/-- A visit changes the registry by what the entry says. -/
lemma visit_eq (table : Option String) (r : Registry) (e : Entry) :
    r.visit table e =
      ⟨r.hasTable || e.isTable table,
        r.enums ++ e.enumeration?.toList,
        r.structures ++ e.structure?.toList,
        r.diagnostics ++ e.faultsAfter table r.hasTable⟩ := by
  obtain ⟨key, value⟩ := e
  cases value with
  | sequence info items =>
    simp [visit, report, addEnum, enumDiagnostics, repeatedNames_eq_repeats, enumValue?_eq,
      map_name_enumValue, Entry.isTable, Entry.enumeration?, Entry.structure?, Entry.faultsAfter,
      Entry.faults, Node.items?, Node.entries?]
  | mapping info entries =>
    simp [visit, report, addStructure_eq, fieldDiagnostics_map_field, Entry.isTable,
      Entry.enumeration?, Entry.structure?, Entry.faultsAfter, Entry.faults, Node.items?,
      Node.entries?]
  | _ =>
    -- nothing but its field is declared by an entry with a null or a scalar
    simp [visit, Entry.isTable, Entry.enumeration?, Entry.structure?, Entry.faultsAfter,
      Entry.faults, Node.items?, Node.entries?]

/-- Visits one after the other change the registry by what each of the entries says. -/
lemma foldl_visit (table : Option String) (r : Registry) (walk : List Entry) :
    walk.foldl (visit table) r =
      ⟨r.hasTable || walk.any (·.isTable table),
        r.enums ++ walk.filterMap Entry.enumeration?,
        r.structures ++ walk.filterMap Entry.structure?,
        r.diagnostics ++ (withEarlier walk).flatMap fun (earlier, e) =>
          e.faultsAfter table (r.hasTable || earlier.any (·.isTable table))⟩ := by
  induction walk generalizing r with
  | nil => simp [withEarlier]
  | cons e rest ih =>
    -- for the rest the first entry is one more of those before, which is what `hasTable` records
    rw [List.foldl_cons, ih, visit_eq]
    cases hs : e.structure? <;> cases he : e.enumeration? <;>
    simp [withEarlier, List.flatMap_map, Bool.or_assoc, hs, he]

end Registry

/-! ### Registering a document -/

mutual

/-- Registering the value of an entry registers its walk and then the entry itself. -/
lemma registerValue_eq_foldl (table : Option String) (r : Registry) (key value : Node) :
    registerValue table (Entry.name (key, value)) (entryComment key value) r value =
      (Entry.raw (key, value),
        (value.walk.foldl (Registry.visit table) r).visit table (key, value)) := by
  match value with
  | .null _ => rfl
  | .scalar _ _ => rfl
  | .sequence _ _ => rfl
  | .mapping _ entries =>
    simp only [registerValue, registerEntries_eq_foldl table r entries]
    rfl

/-- Registering the entries of a mapping registers those of its walk one by one. -/
lemma registerEntries_eq_foldl (table : Option String) (r : Registry) (entries : List Entry) :
    registerEntries table r entries =
      (entries.map Entry.field, (Node.walkEntries entries).foldl (Registry.visit table) r) := by
  match entries with
  | [] => rfl
  | (key, value) :: rest =>
    have first := registerValue_eq_foldl table r key value
    have split : FieldKind.splitKey (keyText key) = (Entry.name (key, value), Entry.kind (key, value)) :=
      splitKey_keyText (key, value)
    simp only [registerEntries, split, first, registerEntries_eq_foldl table _ rest, Node.walkEntries,
      List.foldl_append, List.foldl_cons]
    rfl

end

/-- The package has the name of the primary table if one has been found. -/
lemma packageNameOf_eq (table : Option String) (walk : List Entry) {r : Registry}
    (found : r.hasTable = walk.any (·.isTable table)) :
    packageNameOf table r =
      if walk.any (·.isTable table) then table.getD "" else Package.commonName := by
  cases table with
  | some name => simp only [packageNameOf, found, Option.getD_some]
  | none => simp [packageNameOf]

/-- A document with a mapping declares what is read off its walk. -/
lemma declarations_of_mapping (info : Info) (entries : List Entry) (m : Metadata) :
    let d : Document := ⟨some (.mapping info entries), m⟩
    d.declarations = ⟨some d.reading, entries.map Entry.field, d.faults⟩ := by
  intro d
  have registered := registerEntries_eq_foldl d.table? .empty entries
  rw [Registry.foldl_visit] at registered
  have found : (registerEntries d.table? .empty entries).2.hasTable =
      d.walk.any (·.isTable d.table?) := by
    rw [registered]
    rfl
  have name : packageNameOf d.table? ((registerEntries d.table? .empty entries).2.report
      (fieldDiagnostics (registerEntries d.table? .empty entries).1)) = d.packageName :=
    packageNameOf_eq d.table? d.walk found
  simp only [Document.declarations, d, name]
  simp only [registered, Registry.report, fieldDiagnostics_map_field, d]
  rfl

/-- The diagnostics of a document are its faults. -/
lemma declarations_diagnostics (d : Document) : d.declarations.diagnostics = d.faults := by
  obtain ⟨root, m⟩ := d
  match root with
  | none => rfl
  | some (.null _) => rfl
  | some (.scalar _ _) => rfl
  | some (.sequence _ _) => rfl
  | some (.mapping info entries) => rw [declarations_of_mapping]

/-- A document has a package exactly when its root is a mapping. -/
lemma declarations_package (d : Document) :
    d.declarations.package = (d.root.bind Node.entries?).map fun _ => d.reading := by
  obtain ⟨root, m⟩ := d
  match root with
  | none => rfl
  | some (.null _) => rfl
  | some (.scalar _ _) => rfl
  | some (.sequence _ _) => rfl
  | some (.mapping info entries) => rw [declarations_of_mapping]; rfl

/-! ### What lies in keys and sequences -/

namespace Node

/-- The node with nothing in it: a collection becomes null and keeps its comments. -/
def hollow : Node → Node
  | scalar i text => scalar i text
  | n => null n.info

mutual

/-- The value without what lies in keys and in items of sequences. -/
def outline : Node → Node
  | sequence i items => sequence i (items.map hollow)
  | mapping i entries => mapping i (outlineEntries entries)
  | n => n

/-- Entries without what lies in keys and in items of sequences. -/
def outlineEntries : List Entry → List Entry
  | [] => []
  | (key, value) :: rest => (hollow key, outline value) :: outlineEntries rest

end

/-- A scalar keeps its text. -/
@[simp]
lemma text?_hollow (n : Node) : n.hollow.text? = n.text? := by
  cases n <;> rfl

/-- A hollow node keeps its comments and its place. -/
@[simp]
lemma info_hollow (n : Node) : n.hollow.info = n.info := by
  cases n <;> rfl

/-- An outline keeps its comments and its place. -/
@[simp]
lemma info_outline (n : Node) : n.outline.info = n.info := by
  cases n <;> simp [outline, info]

end Node

/-- A value of an enumeration is read off the text and the comments of an item. -/
lemma enumValue?_hollow (item : Node) : enumValue? item.hollow = enumValue? item := by
  simp [enumValue?]

/-- Nothing within the items of a sequence makes a difference to what is wrong with them. -/
lemma enumDiagnostics_hollow (name : String) (items : List Node) :
    enumDiagnostics name (items.map Node.hollow) = enumDiagnostics name items := by
  simp [enumDiagnostics, List.filter_map, List.filterMap_map, Function.comp_def,
    enumValue?_hollow]

mutual

/-- Nothing within keys and sequences of a value is registered. -/
lemma registerValue_outline (table : Option String) (name comment : String) (r : Registry)
    (value : Node) :
    registerValue table name comment r value.outline =
      registerValue table name comment r value := by
  match value with
  | .null _ => rfl
  | .scalar _ _ => rfl
  | .sequence _ items =>
    simp [Node.outline, registerValue, enumDiagnostics_hollow, List.filterMap_map,
      enumValue?_hollow]
  | .mapping _ entries =>
    simp only [Node.outline, registerValue, registerEntries_outline table r entries]

/-- Nothing within keys and sequences of a mapping is registered. -/
lemma registerEntries_outline (table : Option String) (r : Registry) (entries : List Entry) :
    registerEntries table r (Node.outlineEntries entries) = registerEntries table r entries := by
  match entries with
  | [] => rfl
  | (key, value) :: rest =>
    simp only [Node.outlineEntries, registerEntries, keyText, entryComment, Node.text?_hollow,
      Node.info_hollow, Node.info_outline, registerValue_outline table _ _ r value,
      registerEntries_outline table _ rest]

end

/-- A document with a mapping declares what its walk says, entry by entry: the walk goes through all
places of the mapping in post-order, and what lies in a key or in a sequence has no part in it. -/
theorem declarations_eq_reading (info : Info) (entries : List Entry) (m : Metadata) :
    let d : Document := ⟨some (.mapping info entries), m⟩
    d.declarations =
        ⟨some ⟨d.packageName, d.walk.filterMap Entry.enumeration?,
            d.walk.filterMap Entry.structure?, []⟩,
          entries.map Entry.field, d.faults⟩ ∧
      (∃ places : List Place,
        places.Pairwise Place.Before ∧ places.Nodup ∧
        (∀ p, p ∈ places ↔ (entryAt? p entries).isSome) ∧
        d.walk.map some = places.map (entryAt? · entries)) ∧
      (Document.mk (some (.mapping info (Node.outlineEntries entries))) m).declarations =
        d.declarations := by
  intro d
  refine ⟨declarations_of_mapping info entries m, ?_, ?_⟩
  · refine ⟨Node.placesEntries entries, Node.placesEntries_pairwise entries, ?_, ?_, ?_⟩
    · exact Node.placesEntries_nodup entries
    · exact fun _ => Node.mem_places
    · exact (Node.walkEntries_at_places entries).symm
  · simp only [Document.declarations, d, registerEntries_outline]
    rfl

/-- An order with a state of two values, an address, and a key that is a mapping. -/
def orderEntries : List Entry :=
  [(.scalar ⟨"# An order", "# not read", .unknown⟩ "order", .mapping .bare
    [(.scalar .bare "id!", .scalar ⟨"", "#  its number #", .unknown⟩ "string"),
      (.scalar .bare "state[]", .sequence .bare
        [.scalar ⟨"# not yet\n# paid", "", .unknown⟩ "new",
          .sequence .bare [.mapping .bare [(.scalar .bare "no", .mapping .bare [])]],
          .scalar ⟨"#", "# paid", .unknown⟩ "old"]),
      (.scalar .bare "address?", .mapping .bare [(.scalar .bare "city[]?", .null .bare)]),
      (.mapping .bare [(.scalar .bare "no", .mapping .bare [])], .scalar .bare "int32")])]

/-- The structure of the address comes before that of the order, which has a field for each of its entries,
and the mappings in the key and in the sequence declare nothing. -/
theorem declarations_eq_reading_order :
    let d : Document := ⟨some (.mapping .bare orderEntries), ⟨some "order", none, none, none⟩⟩
    d.declarations =
        ⟨some ⟨"order",
          [⟨"state", "", [⟨"new", "not yet paid", none⟩, ⟨"old", "paid", none⟩]⟩],
          [⟨"address", "", [⟨"city[]", "", .unlinked "" .optional⟩]⟩,
            ⟨"order", "An order",
              [⟨"id", "its number", .unlinked "string" .primaryKey⟩,
                ⟨"state", "", .unlinked "state" .array⟩,
                ⟨"address", "", .unlinked "address" .optional⟩,
                ⟨"", "", .unlinked "int32" .normal⟩]⟩], []⟩,
          [⟨"order", "An order", .unlinked "order" .normal⟩],
          [.nonScalarEnumValue "state"]⟩ ∧
      (Document.mk (some (.mapping .bare (Node.outlineEntries orderEntries)))
        ⟨some "order", none, none, none⟩).declarations = d.declarations ∧
      Node.outlineEntries orderEntries =
        [(.scalar ⟨"# An order", "# not read", .unknown⟩ "order", .mapping .bare
          [(.scalar .bare "id!", .scalar ⟨"", "#  its number #", .unknown⟩ "string"),
            (.scalar .bare "state[]", .sequence .bare
              [.scalar ⟨"# not yet\n# paid", "", .unknown⟩ "new", .null .bare,
                .scalar ⟨"#", "# paid", .unknown⟩ "old"]),
            (.scalar .bare "address?", .mapping .bare [(.scalar .bare "city[]?", .null .bare)]),
            (.null .bare, .scalar .bare "int32")])] := by
  intro d
  obtain ⟨declares, -, outlined⟩ :=
    declarations_eq_reading .bare orderEntries ⟨some "order", none, none, none⟩
  refine ⟨?_, outlined, rfl⟩
  rw [declares]
  decide +kernel

end RecordSchema
