import Mathlib
import RecordSchema.Proofs.Batch.Sublists

/-!
# Primary tables

The package of a document has the name of the primary table when a structure of that name lies
anywhere in the document, and every further one is a fault that no batch survives. Main statements:
`mem_structurePlaces`, where the structures of a name lie, and `declarations_primaryTables`, what
their number decides.
-/

namespace RecordSchema

/-- An entry declares a structure of a name when the structure that it declares has the name. -/
lemma Entry.declaresStructure_eq (e : Entry) (name : String) :
    e.declaresStructure name = e.structure?.any (·.name == name) := by
  obtain ⟨key, value⟩ := e
  cases value <;> rfl

namespace Document

/-- The places of the structures of a name, at any depth. -/
def structurePlaces (d : Document) (name : String) : List Place :=
  (Node.placesEntries d.entries).filter fun place =>
    (entryAt? place d.entries).any (·.declaresStructure name)

variable {d : Document} {name : String}

/-- A structure of a name lies where an entry of that name has a mapping. -/
lemma mem_structurePlaces {place : Place} :
    place ∈ d.structurePlaces name ↔
      ∃ e, entryAt? place d.entries = some e ∧ e.2.entries?.isSome ∧ e.name = name := by
  rw [structurePlaces, List.mem_filter, Node.mem_places]
  cases found : entryAt? place d.entries <;> simp [Entry.declaresStructure]

/-- No place is listed twice. -/
lemma structurePlaces_nodup (d : Document) (name : String) : (d.structurePlaces name).Nodup :=
  (Node.placesEntries_nodup d.entries).filter _

/-- The walk meets the structures of a name at their places, in order. -/
lemma map_structurePlaces (d : Document) (name : String) :
    (d.structurePlaces name).map (entryAt? · d.entries) =
      (d.walk.filter (·.declaresStructure name)).map some := by
  have visited := Node.walkEntries_at_places d.entries
  calc
    (d.structurePlaces name).map (entryAt? · d.entries) =
        ((Node.placesEntries d.entries).map (entryAt? · d.entries)).filter
          fun found => found.any (·.declaresStructure name) := by
      rw [List.filter_map]
      rfl
    _ = (d.walk.map some).filter fun found => found.any (·.declaresStructure name) := by
      rw [visited]
      rfl
    _ = (d.walk.filter (·.declaresStructure name)).map some := by
      rw [List.filter_map]
      rfl

/-- There are as many structures of a name as the walk meets. -/
lemma length_structurePlaces :
    (d.structurePlaces name).length = d.walk.countP (·.declaresStructure name) := by
  have lengths := congrArg List.length (map_structurePlaces d name)
  rwa [List.length_map, List.length_map, ← List.countP_eq_length_filter] at lengths

/-- What a walk declares with a name is what its entries declare that have the name. -/
lemma map_some_structures (walk : List Entry) (name : String) :
    ((walk.filterMap Entry.structure?).filter (·.name == name)).map some =
      (walk.filter (·.declaresStructure name)).map Entry.structure? := by
  induction walk with
  | nil => rfl
  | cons e rest ih =>
    have declares := e.declaresStructure_eq name
    cases declared : e.structure? with
    | none =>
      rw [declared] at declares
      rw [List.filterMap_cons_none declared, ih, List.filter_cons_of_neg (by simp [declares])]
    | some s =>
      rw [declared, Option.any_some] at declares
      rw [List.filterMap_cons_some declared, List.filter_cons, List.filter_cons, declares]
      split
      · rw [List.map_cons, List.map_cons, ih, declared]
      · exact ih

/-- The structures of a name in the package are those at their places, each once. -/
lemma structures_at_places (d : Document) (name : String) :
    (d.reading.structures.filter (·.name == name)).map some =
      (d.structurePlaces name).map fun place =>
        (entryAt? place d.entries).bind Entry.structure? :=
  calc
    (d.reading.structures.filter (·.name == name)).map some =
        (d.walk.filter (·.declaresStructure name)).map Entry.structure? :=
      map_some_structures d.walk name
    _ = ((d.structurePlaces name).map (entryAt? · d.entries)).map (·.bind Entry.structure?) := by
      rw [map_structurePlaces, List.map_map]
      rfl
    _ = _ := by
      rw [List.map_map]
      rfl

/-- The package has the name of the primary table if there is one. -/
lemma packageName_of_table {table : String} (declared : d.table? = some table) :
    d.packageName =
      if 1 ≤ (d.structurePlaces table).length then table else Package.commonName := by
  have found : d.walk.any (·.declaresStructure table) ↔ 1 ≤ (d.structurePlaces table).length := by
    rw [length_structurePlaces, List.any_eq_true, Nat.one_le_iff_ne_zero, ← Nat.pos_iff_ne_zero,
      List.countP_pos_iff]
  rw [packageName, declared, Entry.isTable_some, Option.getD_some]
  exact if_congr found rfl rfl

/-- A document without a declared table is shared. -/
lemma packageName_of_no_table (none : d.table? = none) : d.packageName = Package.commonName := by
  simp [packageName, none]

/-- All primary tables but the first are reported. -/
lemma count_multiplePrimaryTables (d : Document) (name : String) :
    d.faults.count (.multiplePrimaryTables name) =
      if d.table? = some name then (d.structurePlaces name).length - 1 else 0 := by
  rw [count_faults, length_structurePlaces]
  rfl

/-- A document that stands alone repeats a structure as often as there are further places of it. -/
lemma count_duplicateStructure (d : Document) (name : String) :
    (faultsOf [d]).count (.duplicateStructure name) = (d.structurePlaces name).length - 1 := by
  rw [count_faultsOf, length_structurePlaces]
  cases named : d.isNamed <;>
    simp [RecordSchema.faultCount, faultCount, packageFaultCount, repeatedDeclarations, named]

end Document

/-- A batch fails if one of its documents has more than one structure of a name, and it reports all
of them but one, and all that is wrong with the document. -/
lemma packagesOf_of_structurePlaces {d : Document} {documents : List Document} {name : String}
    (mem : d ∈ documents) (several : 2 ≤ (d.structurePlaces name).length) :
    ∃ faults, packagesOf documents = .error faults ∧
      (d.structurePlaces name).length - 1 ≤ faults.count (.duplicateStructure name) ∧
      d.faults.Subperm faults := by
  have alone : (faultsOf [d]).Subperm (faultsOf documents) :=
    faultsOf_sublist (List.singleton_sublist.2 mem)
  have repeated : (d.structurePlaces name).length - 1 ≤
      (faultsOf documents).count (.duplicateStructure name) := by
    rw [← d.count_duplicateStructure name]
    exact alone.count_le _
  refine ⟨faultsOf documents, packagesOf_eq_error_iff.2 ⟨rfl, ?_⟩, repeated, ?_⟩
  · intro none
    rw [none, List.count_nil] at repeated
    omega
  · apply List.Subperm.trans _ alone
    simp only [faultsOf, List.flatMap_singleton, List.append_assoc]
    exact (List.sublist_append_left d.faults _).subperm

/-- In a document with a mapping the structures at any depth that have the name of the declared primary
table decide: one of them gives its name to the package, which has them all, and all but one are reported,
and if there are several then no batch with the document has packages. Without a declared table the package
is shared, and nothing is reported. -/
theorem declarations_primaryTables (info : Info) (entries : List Entry) (m : Metadata) :
    let d : Document := ⟨some (.mapping info entries), m⟩
    ∃ p, d.declarations.package = some p ∧
      (∀ name, d.declarations.diagnostics.count (.multiplePrimaryTables name) =
        if m.table = some name then (d.structurePlaces name).length - 1 else 0) ∧
      (m.table = none → p.name = Package.commonName) ∧
      ∀ table, m.table = some table →
        let places := d.structurePlaces table
        (places.Nodup ∧ ∀ place, place ∈ places ↔
          ∃ e, entryAt? place entries = some e ∧ e.2.entries?.isSome ∧ e.name = table) ∧
          p.name = (if 1 ≤ places.length then table else Package.commonName) ∧
          (p.structures.filter (·.name == table)).map some =
            places.map (fun place => (entryAt? place entries).bind Entry.structure?) ∧
          (2 ≤ places.length → ∀ documents, d ∈ documents →
            ∃ faults, packagesOf documents = .error faults ∧
              places.length - 1 ≤ faults.count (.duplicateStructure table) ∧
              places.length - 1 ≤ faults.count (.multiplePrimaryTables table)) := by
  intro d
  have declares : d.declarations = ⟨some d.reading, entries.map Entry.field, d.faults⟩ :=
    declarations_of_mapping info entries m
  rw [declares]
  refine ⟨d.reading, rfl, d.count_multiplePrimaryTables, d.packageName_of_no_table,
    fun table declared => ?_⟩
  refine ⟨⟨d.structurePlaces_nodup table, fun _ => Document.mem_structurePlaces⟩,
    d.packageName_of_table declared, d.structures_at_places table, fun several documents mem => ?_⟩
  obtain ⟨faults, failed, repeated, own⟩ := packagesOf_of_structurePlaces mem several
  have reported := own.count_le (.multiplePrimaryTables table)
  have declared : d.table? = some table := declared
  rw [d.count_multiplePrimaryTables, if_pos declared] at reported
  exact ⟨faults, failed, repeated, reported⟩

/-- A user within a user, one of them optional. -/
def nestedUsers : List Entry :=
  [(.scalar .bare "user?", .mapping .bare [(.scalar .bare "user", .mapping .bare [])])]

/-- With the user as the primary table the package is that of the user, but no batch with the document
has packages; without a primary table the document is shared. -/
theorem declarations_primaryTables_nestedUsers :
    let d : Document := ⟨some (.mapping .bare nestedUsers), ⟨some "user", none, none, none⟩⟩
    d.structurePlaces "user" = [[0, 0], [0]] ∧
      (∃ p, d.declarations.package = some p ∧ p.name = "user" ∧
        (p.structures.filter (·.name == "user")).length = 2 ∧
        d.declarations.diagnostics.count (.multiplePrimaryTables "user") = 1) ∧
      (∃ faults, packagesOf (d :: userBatch) = .error faults ∧
        1 ≤ faults.count (.duplicateStructure "user")) ∧
      ∃ p, (Document.declarations ⟨d.root, .unknown⟩).package = some p ∧
        p.name = Package.commonName := by
  intro d
  have places : d.structurePlaces "user" = [[0, 0], [0]] := by decide +kernel
  obtain ⟨p, package, reported, -, decided⟩ :=
    declarations_primaryTables .bare nestedUsers ⟨some "user", none, none, none⟩
  obtain ⟨-, name, structures, failing⟩ := decided "user" rfl
  obtain ⟨shared, package', -, common, -⟩ := declarations_primaryTables .bare nestedUsers .unknown
  have registered := congrArg List.length structures
  rw [List.length_map, List.length_map, places] at registered
  have several : 2 ≤ (d.structurePlaces "user").length := by
    rw [places]
    rfl
  obtain ⟨faults, failed, repeated, -⟩ := failing several (d :: userBatch) List.mem_cons_self
  rw [places] at name repeated
  refine ⟨places, ⟨p, package, name, registered, ?_⟩, ⟨faults, failed, repeated⟩, shared, package',
    common rfl⟩
  rw [reported, if_pos rfl, places]
  rfl

end RecordSchema
