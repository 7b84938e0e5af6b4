import Mathlib
import RecordSchema.Proofs.Batch.Faults

/-!
# The canonical form of packages

A batch without faults gives packages that depend on nothing but what is declared: names ascend
strictly and members are distinct at every level, a package of its own holds its primary table, and
nothing is linked. Main statements: `sortByName_ascend`, distinct names ascend strictly when they
are sorted, and `packagesOf_canonical`, the packages of a batch are canonical.
-/

namespace RecordSchema

/-! ### Order by name -/

section Order

variable {α : Type} {name : α → String}

/-- Sorting moves members about but keeps them. -/
lemma sortByName_perm (items : List α) : (sortByName name items).Perm items :=
  List.mergeSort_perm items _

/-- Sorted members stand in the order of their names. -/
lemma sortByName_pairwise (items : List α) :
    (sortByName name items).Pairwise fun a b => name a ≤ name b := by
  have sorted := @List.pairwise_mergeSort α (fun a b => decide (name a ≤ name b))
    (fun a b c hab hbc => by simpa using le_trans (by simpa using hab) (by simpa using hbc))
    (fun a b => by simpa using le_total (name a) (name b)) items
  simpa only [sortByName, decide_eq_true_eq] using sorted

/-- Distinct names ascend strictly when they are sorted. -/
lemma sortByName_ascend {items : List α} (distinct : (items.map name).Nodup) :
    ((sortByName name items).map name).Pairwise (· < ·) := by
  have nodup : ((sortByName name items).map name).Nodup :=
    ((sortByName_perm items).map name).nodup_iff.2 distinct
  rw [List.Nodup, List.pairwise_map] at nodup
  rw [List.pairwise_map]
  exact (sortByName_pairwise items).imp₂ (fun _ _ le ne => lt_of_le_of_ne le ne) nodup

/-- The order in which distinct names were before does not matter once they are sorted. -/
lemma sortByName_congr {items items' : List α} (perm : items.Perm items')
    (distinct : (items.map name).Nodup) : sortByName name items = sortByName name items' := by
  have same : (sortByName name items).Perm (sortByName name items') :=
    ((sortByName_perm items).trans perm).trans (sortByName_perm items').symm
  -- sorted, they could only differ in members that have the same name
  refine same.eq_of_pairwise ?_ (sortByName_pairwise items) (sortByName_pairwise items')
  intro a b ha hb ab ba
  apply List.inj_on_of_nodup_map distinct
  · exact (sortByName_perm items).mem_iff.1 ha
  · exact perm.mem_iff.2 ((sortByName_perm items').mem_iff.1 hb)
  · exact le_antisymm ab ba

end Order

namespace Package

/-- A package does not conflict with itself when its declarations have distinct names. -/
lemma conflicts_eq_nil_iff {p : Package} :
    p.conflicts = [] ↔
      (p.enums.map Enumeration.name).Nodup ∧ (p.structures.map Structure.name).Nodup := by
  rw [conflicts, List.append_eq_nil_iff, List.map_eq_nil_iff, List.map_eq_nil_iff,
    repeatedNames_eq_repeats, repeatedNames_eq_repeats, repeats_eq_nil_iff, repeats_eq_nil_iff]

end Package

/-- What can be said of every package of a batch without faults. -/
structure Package.IsCanonical (p : Package) : Prop where
  enums_ascend : (p.enums.map Enumeration.name).Pairwise (· < ·)
  structures_ascend : (p.structures.map Structure.name).Pairwise (· < ·)
  fields_distinct : ∀ s ∈ p.structures, (s.fields.map Field.name).Nodup
  values_distinct : ∀ e ∈ p.enums, (e.values.map EnumValue.name).Nodup
  /-- a package that is not shared holds its primary table, once -/
  one_table : p.name ≠ Package.commonName → p.structures.countP (·.name == p.name) = 1
  fields_unlinked : ∀ s ∈ p.structures, ∀ f ∈ s.fields, f.type.resolution = .unresolved
  values_unlinked : ∀ e ∈ p.enums, ∀ v ∈ e.values, v.constant = none
  no_dependencies : p.dependencies = []

/-- A package holds what a walk declares, in some order. -/
structure Package.Declares (p : Package) (walk : List Entry) : Prop where
  enums : p.enums.Perm (walk.filterMap Entry.enumeration?)
  structures : p.structures.Perm (walk.filterMap Entry.structure?)
  no_dependencies : p.dependencies = []

namespace Package.Declares

variable {p : Package} {walk : List Entry}

/-- Ordering a package keeps what it holds. -/
lemma ordered (h : p.Declares walk) : p.ordered.Declares walk :=
  ⟨(sortByName_perm _).trans h.enums, (sortByName_perm _).trans h.structures, h.no_dependencies⟩

/-- A structure of the package is declared by an entry. -/
lemma exists_structure (h : p.Declares walk) {s : Structure} (mem : s ∈ p.structures) :
    ∃ e ∈ walk, e.structure? = some s :=
  List.mem_filterMap.1 (h.structures.mem_iff.1 mem)

/-- An enumeration of the package is declared by an entry. -/
lemma exists_enum (h : p.Declares walk) {e : Enumeration} (mem : e ∈ p.enums) :
    ∃ entry ∈ walk, entry.enumeration? = some e :=
  List.mem_filterMap.1 (h.enums.mem_iff.1 mem)

end Package.Declares

namespace Entry

/-- A structure without faults has distinct fields. -/
lemma fields_nodup {e : Entry} {s : Structure} (declared : e.structure? = some s)
    (clean : e.faults = []) : (s.fields.map Field.name).Nodup := by
  obtain ⟨key, value⟩ := e
  cases value with
  | mapping info entries =>
    cases declared
    rw [faults, List.map_eq_nil_iff, repeats_eq_nil_iff] at clean
    rwa [List.map_map]
  | _ => cases declared

/-- An enumeration without faults has distinct values. -/
lemma values_nodup {e : Entry} {enum : Enumeration} (declared : e.enumeration? = some enum)
    (clean : e.faults = []) : (enum.values.map EnumValue.name).Nodup := by
  obtain ⟨key, value⟩ := e
  cases value with
  | sequence info items =>
    cases declared
    rw [faults, List.append_eq_nil_iff] at clean
    show ((items.filterMap itemValue?).map EnumValue.name).Nodup
    rw [map_name_enumValue, ← repeats_eq_nil_iff]
    exact List.map_eq_nil_iff.1 clean.2
  | _ => cases declared

/-- The fields of a declared structure are not linked. -/
lemma fields_unlinked {e : Entry} {s : Structure} (declared : e.structure? = some s) :
    ∀ f ∈ s.fields, f.type.resolution = .unresolved := by
  intro f mem
  obtain ⟨entries, _, rfl⟩ := Option.map_eq_some_iff.1 declared
  obtain ⟨child, _, rfl⟩ := List.mem_map.1 mem
  rfl

/-- The values of a declared enumeration have no constants. -/
lemma values_unlinked {e : Entry} {enum : Enumeration} (declared : e.enumeration? = some enum) :
    ∀ v ∈ enum.values, v.constant = none := by
  intro v mem
  obtain ⟨items, _, rfl⟩ := Option.map_eq_some_iff.1 declared
  obtain ⟨item, _, value⟩ := List.mem_filterMap.1 mem
  obtain ⟨text, _, rfl⟩ := Option.map_eq_some_iff.1 value
  rfl

end Entry

namespace Document

/-- In a document without faults every entry of the walk is without faults. -/
lemma clean_walk {d : Document} (clean : d.faults = []) : ∀ e ∈ d.walk, e.faults = [] := by
  intro e inWalk
  rw [← map_snd_withEarlier d.walk] at inWalk
  obtain ⟨⟨earlier, e⟩, mem, rfl⟩ := List.mem_map.1 inWalk
  rw [faults, List.append_eq_nil_iff, List.append_eq_nil_iff, List.flatMap_eq_nil_iff] at clean
  exact (List.append_eq_nil_iff.1 (clean.1.2 _ mem)).1

/-- A package of its own holds a structure with its name. -/
lemma packageName_mem {d : Document} (named : d.isNamed) :
    d.packageName ∈ d.reading.structures.map Structure.name := by
  have found : d.walk.any (·.isTable d.table?) := by
    by_contra none
    simp [isNamed, packageName, none] at named
  have name : d.packageName = d.table?.getD "" := if_pos found
  obtain ⟨e, mem, table⟩ := List.any_eq_true.1 found
  obtain ⟨isMapping, eq⟩ := Entry.isTable_iff.1 table
  obtain ⟨entries, value⟩ := Option.isSome_iff_exists.1 isMapping
  have declared : e.structure? = some ⟨e.name, e.comment, entries.map Entry.field⟩ := by
    rw [Entry.structure?, value]
    rfl
  rw [name, eq]
  exact List.mem_map.2 ⟨_, List.mem_filterMap.2 ⟨e, mem, declared⟩, rfl⟩

end Document

namespace Batch

/-- The packages of a batch before they are ordered. -/
lemma mem_merged {documents : List Document} {p : Package}
    (mem : p ∈ (ofDocuments documents).merged) :
    (∃ d ∈ documents, d.isNamed ∧ p = d.reading) ∨
      p.name = Package.commonName ∧
        p.Declares ((documents.filter (!·.isNamed)).flatMap Document.walk) := by
  rw [merged, List.mem_append] at mem
  rcases mem with mem | mem
  · left
    rw [named_candidates] at mem
    obtain ⟨d, kept, rfl⟩ := List.mem_map.1 mem
    obtain ⟨inBatch, named⟩ := List.mem_filter.1 kept
    exact ⟨d, inBatch, named, rfl⟩
  · right
    split at mem
    · cases mem
    · rw [List.mem_singleton] at mem
      subst mem
      refine ⟨rfl, ?_, ?_, rfl⟩
      · exact .of_eq (shared_enums documents)
      · exact .of_eq (shared_structures documents)

/-- A package of a batch holds what a walk through some of the documents declares, and its primary
table unless it is shared. -/
lemma exists_walk {documents : List Document} {p : Package}
    (mem : p ∈ (ofDocuments documents).merged) :
    (∃ walk, p.Declares walk ∧ ∀ e ∈ walk, ∃ d ∈ documents, e ∈ d.walk) ∧
      (p.name ≠ Package.commonName → p.name ∈ p.structures.map Structure.name) := by
  rcases mem_merged mem with ⟨d, inBatch, named, rfl⟩ | ⟨name, declares⟩
  · refine ⟨⟨d.walk, ⟨.refl _, .refl _, rfl⟩, fun e inWalk => ⟨d, inBatch, inWalk⟩⟩, ?_⟩
    intro _
    exact Document.packageName_mem named
  · refine ⟨⟨_, declares, ?_⟩, fun ne => absurd name ne⟩
    intro e inWalk
    obtain ⟨d, kept, inWalk⟩ := List.mem_flatMap.1 inWalk
    exact ⟨d, (List.mem_filter.1 kept).1, inWalk⟩

end Batch

/-- A package without conflicts that holds what a clean walk declares is canonical once it is
ordered. -/
lemma Package.Declares.isCanonical {p : Package} {walk : List Entry} (h : p.Declares walk)
    (clean : ∀ e ∈ walk, e.faults = []) (conflicts : p.conflicts = [])
    (table : p.name ≠ commonName → p.name ∈ p.structures.map Structure.name) :
    p.ordered.IsCanonical := by
  rw [Package.conflicts_eq_nil_iff] at conflicts
  constructor
  case enums_ascend => exact sortByName_ascend conflicts.1
  case structures_ascend => exact sortByName_ascend conflicts.2
  case fields_distinct =>
    intro s mem
    obtain ⟨e, inWalk, declared⟩ := h.ordered.exists_structure mem
    exact Entry.fields_nodup declared (clean e inWalk)
  case values_distinct =>
    intro enum mem
    obtain ⟨e, inWalk, declared⟩ := h.ordered.exists_enum mem
    exact Entry.values_nodup declared (clean e inWalk)
  case one_table =>
    intro ne
    -- the structure is there, and no two structures have the same name
    have same : p.ordered.structures.Perm p.structures := sortByName_perm _
    have once := List.count_eq_one_of_mem conflicts.2 (table ne)
    rw [List.count_eq_countP, List.countP_map] at once
    rw [same.countP_eq]
    exact once
  case fields_unlinked =>
    intro s mem
    obtain ⟨e, _, declared⟩ := h.ordered.exists_structure mem
    exact Entry.fields_unlinked declared
  case values_unlinked =>
    intro enum mem
    obtain ⟨e, _, declared⟩ := h.ordered.exists_enum mem
    exact Entry.values_unlinked declared
  case no_dependencies => exact h.no_dependencies

/-- When nothing is wrong with a batch, nothing is wrong with its documents, none of its packages
conflicts with itself, and no two of them have the same name. -/
lemma Batch.clean_of_faultsOf {documents : List Document} (clean : faultsOf documents = []) :
    (∀ d ∈ documents, d.faults = []) ∧
      (∀ p ∈ (ofDocuments documents).merged, p.conflicts = []) ∧
      ((ofDocuments documents).merged.map Package.name).Nodup := by
  have single : ∀ d ∈ documents, d.faults = [] := by
    simp only [faultsOf, List.append_eq_nil_iff, List.flatMap_eq_nil_iff] at clean
    exact clean.1.1.1
  rw [← problems_eq_faultsOf, problems, List.append_eq_nil_iff, List.append_eq_nil_iff,
    List.flatMap_eq_nil_iff, List.map_eq_nil_iff, repeatedNames_eq_repeats,
    repeats_eq_nil_iff] at clean
  exact ⟨single, clean.1.2, clean.2⟩

/-- The packages of a batch ascend by name, and each of them is canonical. -/
theorem packagesOf_canonical {documents : List Document} {packages : List Package}
    (ok : packagesOf documents = .ok packages) :
    (packages.map Package.name).Pairwise (· < ·) ∧ ∀ p ∈ packages, p.IsCanonical := by
  obtain ⟨none, rfl⟩ := packagesOf_eq_ok_iff.1 ok
  obtain ⟨clean, conflicts, names⟩ := Batch.clean_of_faultsOf none
  constructor
  · apply sortByName_ascend
    rw [List.map_map]
    exact names
  · intro p mem
    rw [(sortByName_perm _).mem_iff] at mem
    obtain ⟨q, inMerged, rfl⟩ := List.mem_map.1 mem
    obtain ⟨⟨walk, declares, fromDocuments⟩, table⟩ := Batch.exists_walk inMerged
    apply declares.isCanonical _ (conflicts q inMerged) table
    intro e inWalk
    obtain ⟨d, inBatch, inWalk⟩ := fromDocuments e inWalk
    exact Document.clean_walk (clean d inBatch) e inWalk

/-- A user with a tag of two values, and a document without a primary table whose structures are out
of order. -/
def userBatch : List Document :=
  [⟨some (.mapping .bare
      [(.scalar .bare "user", .mapping .bare
        [(.scalar .bare "id!", .scalar .bare "string"),
          (.scalar .bare "tag[]", .sequence .bare [.scalar .bare "new", .scalar .bare "old"])])]),
      ⟨some "user", none, none, none⟩⟩,
    ⟨some (.mapping .bare
      [(.scalar .bare "conf", .mapping .bare []), (.scalar .bare "author", .mapping .bare [])]),
      .unknown⟩]

/-- The package of the user. -/
def userPackage : Package :=
  ⟨"user", [⟨"tag", "", [⟨"new", "", none⟩, ⟨"old", "", none⟩]⟩],
    [⟨"user", "",
      [⟨"id", "", .unlinked "string" .primaryKey⟩, ⟨"tag", "", .unlinked "tag" .array⟩]⟩], []⟩

/-- The packages of `userBatch`. -/
def userPackages : List Package :=
  [⟨"common", [], [⟨"author", "", []⟩, ⟨"conf", "", []⟩], []⟩, userPackage]

/-- What is declared without a primary table is shared, and the shared package comes first. -/
lemma packagesOf_userBatch : packagesOf userBatch = .ok userPackages := by
  have merged : (Batch.ofDocuments userBatch).merged =
      [userPackage, ⟨"common", [], [⟨"conf", "", []⟩, ⟨"author", "", []⟩], []⟩] := by
    decide +kernel
  rw [packagesOf_eq_ok_iff, merged]
  refine ⟨by decide, ?_⟩
  simp [sortByName, Package.ordered, List.mergeSort, userPackage, userPackages]

/-- The packages of `userBatch` are canonical. -/
theorem packagesOf_canonical_userBatch :
    packagesOf userBatch = .ok userPackages ∧
      (userPackages.map Package.name).Pairwise (· < ·) ∧ ∀ p ∈ userPackages, p.IsCanonical :=
  ⟨packagesOf_userBatch, packagesOf_canonical packagesOf_userBatch⟩

end RecordSchema
