import Mathlib
import RecordSchema.Proofs.Batch.Canonical

/-!
# Documents split in two

The declarations of a document without a primary table are shared with those of all other such
documents, so the document may be split between two of its entries: the declarations come in the same
order, and they are counted together either way. Only the names of the entries themselves are looked at
document by document, and a name on both sides of the split is no longer repeated. Main statement:
`packagesOf_split_iff`.
-/

namespace RecordSchema

namespace Node

/-- The walk of entries goes through one part of them after the other. -/
lemma walkEntries_append (entries entries' : List Entry) :
    walkEntries (entries ++ entries') = walkEntries entries ++ walkEntries entries' := by
  induction entries with
  | nil => rfl
  | cons e rest ih =>
    obtain ⟨key, value⟩ := e
    rw [List.cons_append, walkEntries, walkEntries, ih, List.append_assoc, List.cons_append]

end Node

/-! ### Documents without a primary table -/

namespace Document

/-- A document with entries that declares no primary table. -/
structure IsShared (d : Document) (entries : List Entry) : Prop where
  root : d.root.bind Node.entries? = some entries
  no_table : d.table? = none

namespace IsShared

variable {d : Document} {entries : List Entry}

/-- The entries of a shared document are those that it is made of. -/
lemma entries_eq (shared : d.IsShared entries) : d.entries = entries := by
  rw [Document.entries, shared.root, Option.getD_some]

/-- The walk of a shared document is that of its entries. -/
lemma walk_eq (shared : d.IsShared entries) : d.walk = Node.walkEntries entries := by
  rw [walk, shared.entries_eq]

/-- A shared document has no package of its own. -/
lemma isNamed_eq (shared : d.IsShared entries) : d.isNamed = false := by
  simp [isNamed, packageName, shared.no_table]

/-- Without a primary table, what is wrong with an entry does not depend on those before it. -/
lemma faults_eq (shared : d.IsShared entries) :
    d.faults = (Node.walkEntries entries).flatMap Entry.faults ++
      (repeats (entries.map Entry.name)).map .duplicateField := by
  have root : d.rootFaults = [] := by
    have isMapping := shared.root
    obtain ⟨root, m⟩ := d
    cases root with
    | none => rfl
    | some n =>
      cases n with
      | null | mapping => rfl
      | scalar | sequence => cases isMapping
  have alone (walk : List Entry) :
      (withEarlier walk).flatMap (fun before => before.2.faultsAfter none
        (before.1.any (·.isTable none))) = walk.flatMap Entry.faults := by
    conv_rhs => rw [← map_snd_withEarlier walk, List.flatMap_map]
    simp [Entry.faultsAfter]
  rw [faults, root, List.nil_append, shared.no_table, alone, shared.walk_eq, shared.entries_eq]

/-- Nothing is wrong with a shared document when nothing is with its entries and their names are
distinct. -/
lemma faults_eq_nil_iff (shared : d.IsShared entries) :
    d.faults = [] ↔
      (∀ e ∈ Node.walkEntries entries, e.faults = []) ∧ (entries.map Entry.name).Nodup := by
  rw [shared.faults_eq, List.append_eq_nil_iff, List.flatMap_eq_nil_iff, List.map_eq_nil_iff,
    repeats_eq_nil_iff]

/-- The package of the document goes into the shared one. -/
lemma reading_mem_candidates (shared : d.IsShared entries) {documents : List Document}
    (mem : d ∈ documents) :
    d.reading ∈ (Batch.ofDocuments documents).candidates.filter Package.isCommon := by
  rw [List.mem_filter, d.isCommon_reading, shared.isNamed_eq]
  refine ⟨List.mem_filterMap.2 ⟨d, mem, ?_⟩, rfl⟩
  rw [declarations_package, shared.root, Option.map_some]

end IsShared

end Document

/-! ### One document for two -/

/-- Batches with the same packages of their own and the same declarations in all other documents are
merged to the same packages, as long as both or neither have a shared one. -/
lemma Batch.merged_congr {documents documents' : List Document}
    (named : documents.filter (·.isNamed) = documents'.filter (·.isNamed))
    (walk : (documents.filter (!·.isNamed)).flatMap Document.walk =
      (documents'.filter (!·.isNamed)).flatMap Document.walk)
    (shared : ((ofDocuments documents).candidates.filter Package.isCommon).isEmpty =
      ((ofDocuments documents').candidates.filter Package.isCommon).isEmpty) :
    (ofDocuments documents).merged = (ofDocuments documents').merged := by
  have same : Package.merge ((ofDocuments documents).candidates.filter Package.isCommon) =
      Package.merge ((ofDocuments documents').candidates.filter Package.isCommon) := by
    simp only [Package.merge, shared_enums, shared_structures, walk]
  rw [merged, merged, named_candidates, named_candidates, named, same, shared]

section Split

variable {whole first second : Document} {entries entries' : List Entry}

/-- A document is clean when its two parts are, and no name is on both sides. -/
lemma Document.faults_eq_nil_of_split (isWhole : whole.IsShared (entries ++ entries'))
    (isFirst : first.IsShared entries) (isSecond : second.IsShared entries') :
    whole.faults = [] ↔
      (first.faults = [] ∧ second.faults = []) ∧ ∀ e ∈ entries, ∀ e' ∈ entries', e.name ≠ e'.name := by
  rw [isWhole.faults_eq_nil_iff, isFirst.faults_eq_nil_iff, isSecond.faults_eq_nil_iff,
    Node.walkEntries_append, List.forall_mem_append, List.map_append, List.nodup_append]
  simp only [List.forall_mem_map]
  tauto

variable {before after : List Document}

/-- Splitting a document leaves the documents with packages of their own alone. -/
lemma filter_isNamed_split (isWhole : whole.IsShared (entries ++ entries'))
    (isFirst : first.IsShared entries) (isSecond : second.IsShared entries') :
    (before ++ whole :: after).filter (·.isNamed) =
      (before ++ first :: second :: after).filter (·.isNamed) := by
  simp [isWhole.isNamed_eq, isFirst.isNamed_eq, isSecond.isNamed_eq]

/-- The walks of the other documents are the same ones, put together. -/
lemma flatMap_walk_split (isWhole : whole.IsShared (entries ++ entries'))
    (isFirst : first.IsShared entries) (isSecond : second.IsShared entries') :
    ((before ++ whole :: after).filter (!·.isNamed)).flatMap Document.walk =
      ((before ++ first :: second :: after).filter (!·.isNamed)).flatMap Document.walk := by
  simp [isWhole.isNamed_eq, isFirst.isNamed_eq, isSecond.isNamed_eq, isWhole.walk_eq, isFirst.walk_eq,
    isSecond.walk_eq, Node.walkEntries_append]

/-- A batch has the same packages when a shared document is split. -/
lemma merged_split (isWhole : whole.IsShared (entries ++ entries'))
    (isFirst : first.IsShared entries) (isSecond : second.IsShared entries') :
    (Batch.ofDocuments (before ++ whole :: after)).merged =
      (Batch.ofDocuments (before ++ first :: second :: after)).merged := by
  apply Batch.merged_congr (filter_isNamed_split isWhole isFirst isSecond)
    (flatMap_walk_split isWhole isFirst isSecond)
  -- there is a shared package before and after, even if a part has no entries
  have inWhole : whole ∈ before ++ whole :: after := List.mem_append_cons_self
  have inParts : first ∈ before ++ first :: second :: after := List.mem_append_cons_self
  rw [List.isEmpty_eq_false_iff.2 (List.ne_nil_of_mem (isWhole.reading_mem_candidates inWhole)),
    List.isEmpty_eq_false_iff.2 (List.ne_nil_of_mem (isFirst.reading_mem_candidates inParts))]

/-- The faults of a batch are those of its documents and those between them, and the split makes a
difference to the former only. -/
lemma faultsOf_split_eq_nil_iff (isWhole : whole.IsShared (entries ++ entries'))
    (isFirst : first.IsShared entries) (isSecond : second.IsShared entries') :
    faultsOf (before ++ whole :: after) = [] ↔
      faultsOf (before ++ first :: second :: after) = [] ∧
        ∀ e ∈ entries, ∀ e' ∈ entries', e.name ≠ e'.name := by
  have single := Document.faults_eq_nil_of_split isWhole isFirst isSecond
  simp only [faultsOf, conflictsOf, filter_isNamed_split isWhole isFirst isSecond,
    flatMap_walk_split isWhole isFirst isSecond, List.append_eq_nil_iff, List.flatMap_append,
    List.flatMap_cons, single]
  tauto

end Split

/-- A document without a primary table may be split between two of its entries, where it stands in its
batch: the batch has the same packages. If no name is on both sides, two such documents may be put
together again; and if one is, the batch with the document as a whole has none. -/
theorem packagesOf_split_iff {m m₁ m₂ : Metadata} (no_table : m.table = none)
    (no_table₁ : m₁.table = none) (no_table₂ : m₂.table = none) (info info₁ info₂ : Info)
    (entries₁ entries₂ : List Entry) (before after : List Document) (packages : List Package) :
    packagesOf (before ++ ⟨some (.mapping info (entries₁ ++ entries₂)), m⟩ :: after) = .ok packages ↔
      packagesOf (before ++ ⟨some (.mapping info₁ entries₁), m₁⟩ ::
          ⟨some (.mapping info₂ entries₂), m₂⟩ :: after) = .ok packages ∧
        ∀ e ∈ entries₁, ∀ e' ∈ entries₂, e.name ≠ e'.name := by
  have whole : Document.IsShared ⟨some (.mapping info (entries₁ ++ entries₂)), m⟩
      (entries₁ ++ entries₂) := ⟨rfl, no_table⟩
  have first : Document.IsShared ⟨some (.mapping info₁ entries₁), m₁⟩ entries₁ := ⟨rfl, no_table₁⟩
  have second : Document.IsShared ⟨some (.mapping info₂ entries₂), m₂⟩ entries₂ := ⟨rfl, no_table₂⟩
  rw [packagesOf_eq_ok_iff, packagesOf_eq_ok_iff, faultsOf_split_eq_nil_iff whole first second,
    merged_split whole first second]
  tauto

/-- In `userBatch` the structures of the document without a primary table may stand in two documents. -/
theorem packagesOf_split_userBatch :
    Metadata.unknown.table = none ∧ packagesOf userBatch = .ok userPackages ∧
      packagesOf (userBatch.take 1 ++
        [⟨some (.mapping .bare [(.scalar .bare "conf", .mapping .bare [])]), .unknown⟩,
          ⟨some (.mapping .bare [(.scalar .bare "author", .mapping .bare [])]), .unknown⟩]) =
        .ok userPackages :=
  ⟨rfl, packagesOf_userBatch,
    ((packagesOf_split_iff rfl rfl rfl .bare .bare .bare [(.scalar .bare "conf", .mapping .bare [])]
      [(.scalar .bare "author", .mapping .bare [])] (userBatch.take 1) [] userPackages).1
      packagesOf_userBatch).1⟩

end RecordSchema
