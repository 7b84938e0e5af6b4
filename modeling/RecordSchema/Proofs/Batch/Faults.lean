import Mathlib
import RecordSchema.Batch
import RecordSchema.Proofs.Document.FaultCount

/-!
# Everything that is wrong with a batch

Which problems a batch of documents has, read off the walks of its documents: `faultsOf` lists them
in the order in which they are reported, and `faultCount` says of each problem how often it is to be
reported. Main statements: `problems_eq_faultsOf`, the batch reports exactly this list, and
`count_faultsOf`, the list holds each problem that many times.
-/

namespace RecordSchema

/-- What a result reports: nothing if it is a success. -/
def reported {α : Type} : Except (List Diagnostic) α → List Diagnostic
  | .ok _ => []
  | .error ds => ds

namespace Document

/-- The document has a package of its own. -/
def isNamed (d : Document) : Bool :=
  d.packageName != Package.commonName

end Document

/-- How often some documents repeat a declaration, when each package of its own stands alone and all
others are put together. -/
def repeatedDeclarations (declares : Entry → Bool) (documents : List Document) : Nat :=
  ((documents.filter (·.isNamed)).map fun d => d.walk.countP declares - 1).sum +
    (((documents.filter (!·.isNamed)).map fun d => d.walk.countP declares).sum - 1)

/-- How often the packages of some documents have a problem with each other or with what they
declare. -/
def packageFaultCount (documents : List Document) : Diagnostic → Nat
  | .duplicateEnum name => repeatedDeclarations (Entry.declaresEnum name) documents
  | .duplicateStructure name => repeatedDeclarations (Entry.declaresStructure name) documents
  | .duplicatePackage name =>
    (documents.filter (·.isNamed)).countP (·.packageName == name) - 1
  | _ => 0

/-- How often a batch has a problem. -/
def faultCount (documents : List Document) (problem : Diagnostic) : Nat :=
  (documents.map (·.faultCount problem)).sum + packageFaultCount documents problem

/-- The declarations that some documents together make more than once. -/
def conflictsOf (documents : List Document) : List Diagnostic :=
  let walk := documents.flatMap Document.walk
  (repeats ((walk.filter (·.2.items?.isSome)).map Entry.name)).map .duplicateEnum ++
    (repeats ((walk.filter (·.2.entries?.isSome)).map Entry.name)).map .duplicateStructure

/-- Everything that is wrong with a batch in the order in which it is reported: first document by
document, then package by package with the shared one last, and then the names of the packages. -/
def faultsOf (documents : List Document) : List Diagnostic :=
  let named := documents.filter (·.isNamed)
  documents.flatMap Document.faults ++
    named.flatMap (fun d => conflictsOf [d]) ++
    conflictsOf (documents.filter (!·.isNamed)) ++
    (repeats (named.map Document.packageName)).map .duplicatePackage

/-! ### The packages of a batch -/

/-- What entries declare with their own names has the names of those that declare something. -/
lemma map_name_filterMap {α β : Type} {part : Entry → Option α} {declared : Entry → Option β}
    {name : β → String} (named : ∀ e, (declared e).map name = (part e).map fun _ => e.name)
    (walk : List Entry) :
    (walk.filterMap declared).map name = (walk.filter (part · |>.isSome)).map Entry.name := by
  simp only [List.map_filterMap, named]
  induction walk with
  | nil => rfl
  | cons e rest ih => cases h : part e <;> simp [h, ih]

/-- The names of the enumerations of a walk are those of its entries with a sequence. -/
lemma map_name_enumeration (walk : List Entry) :
    (walk.filterMap Entry.enumeration?).map Enumeration.name =
      (walk.filter (·.2.items?.isSome)).map Entry.name := by
  apply map_name_filterMap
  intro e
  exact Option.map_map _ _ e.2.items?

/-- The names of the structures of a walk are those of its entries with a mapping. -/
lemma map_name_structure (walk : List Entry) :
    (walk.filterMap Entry.structure?).map Structure.name =
      (walk.filter (·.2.entries?.isSome)).map Entry.name := by
  apply map_name_filterMap
  intro e
  exact Option.map_map _ _ e.2.entries?

namespace Document

/-- A document without a mapping has an empty walk. -/
lemma walk_eq_nil {d : Document} (no : d.root.bind Node.entries? = none) : d.walk = [] := by
  simp [walk, entries, no, Node.walkEntries]

/-- A document without a mapping has no package of its own. -/
lemma isNamed_eq_false {d : Document} (no : d.root.bind Node.entries? = none) :
    d.isNamed = false := by
  simp [isNamed, packageName, walk_eq_nil no]

/-- The package of a document is shared unless the document has one of its own. -/
lemma isCommon_reading (d : Document) : d.reading.isCommon = !d.isNamed := by
  simp [Package.isCommon, reading, isNamed, bne]

/-- A package of its own conflicts with itself where the declarations of its document do. -/
lemma conflicts_reading (d : Document) : d.reading.conflicts = conflictsOf [d] := by
  simp [Package.conflicts, conflictsOf, reading, repeatedNames_eq_repeats, map_name_enumeration,
    map_name_structure]

end Document

namespace Batch

/-- The candidates that are not shared are the packages of the documents that have one of their
own. -/
lemma named_candidates (documents : List Document) :
    (ofDocuments documents).candidates.filter (!·.isCommon) =
      (documents.filter (·.isNamed)).map Document.reading := by
  induction documents with
  | nil => rfl
  | cons d rest ih =>
    simp only [ofDocuments] at ih ⊢
    have package := declarations_package d
    cases root : d.root.bind Node.entries? with
    | none =>
      rw [root, Option.map_none] at package
      simp [package, ih, d.isNamed_eq_false root]
    | some entries =>
      rw [root, Option.map_some] at package
      cases named : d.isNamed <;> simp [package, ih, named, d.isCommon_reading]

/-- What the shared candidates hold together is what the walks of the other documents declare. -/
lemma shared_candidates {β : Type} {part : Package → List β} {declared : Entry → Option β}
    (holds : ∀ d : Document, part d.reading = d.walk.filterMap declared)
    (documents : List Document) :
    ((ofDocuments documents).candidates.filter Package.isCommon).flatMap part =
      ((documents.filter (!·.isNamed)).flatMap Document.walk).filterMap declared := by
  induction documents with
  | nil => rfl
  | cons d rest ih =>
    simp only [ofDocuments] at ih ⊢
    have package := declarations_package d
    cases root : d.root.bind Node.entries? with
    | none =>
      -- such a document gives no candidate, but nothing is declared in it either
      rw [root, Option.map_none] at package
      simp [package, ih, d.isNamed_eq_false root, d.walk_eq_nil root]
    | some entries =>
      rw [root, Option.map_some] at package
      cases named : d.isNamed <;> simp [package, ih, named, d.isCommon_reading, holds]

/-- The enumerations of the shared package. -/
lemma shared_enums (documents : List Document) :
    ((ofDocuments documents).candidates.filter Package.isCommon).flatMap Package.enums =
      ((documents.filter (!·.isNamed)).flatMap Document.walk).filterMap Entry.enumeration? :=
  shared_candidates (fun _ => rfl) documents

/-- The structures of the shared package. -/
lemma shared_structures (documents : List Document) :
    ((ofDocuments documents).candidates.filter Package.isCommon).flatMap Package.structures =
      ((documents.filter (!·.isNamed)).flatMap Document.walk).filterMap Entry.structure? :=
  shared_candidates (fun _ => rfl) documents

/-- The shared package conflicts with itself where the declarations of its documents do. -/
lemma conflicts_shared (documents : List Document) :
    (Package.merge ((ofDocuments documents).candidates.filter Package.isCommon)).conflicts =
      conflictsOf (documents.filter (!·.isNamed)) := by
  simp only [Package.conflicts, Package.merge, shared_enums, shared_structures, conflictsOf,
    repeatedNames_eq_repeats, map_name_enumeration, map_name_structure]

/-- The conflicts within the packages of a batch. -/
lemma conflicts_merged (documents : List Document) :
    (ofDocuments documents).merged.flatMap Package.conflicts =
      (documents.filter (·.isNamed)).flatMap (fun d => conflictsOf [d]) ++
        conflictsOf (documents.filter (!·.isNamed)) := by
  have shared : (if ((ofDocuments documents).candidates.filter Package.isCommon).isEmpty then []
      else [Package.merge ((ofDocuments documents).candidates.filter Package.isCommon)]).flatMap
        Package.conflicts = conflictsOf (documents.filter (!·.isNamed)) := by
    rw [← conflicts_shared]
    split
    · rename_i empty
      rw [List.isEmpty_iff.1 empty]
      rfl
    · simp
  simp only [merged, List.flatMap_append, named_candidates, shared, List.flatMap_map,
    Document.conflicts_reading]

/-- Only packages that are not shared can have the same name. -/
lemma repeats_merged (documents : List Document) :
    repeats ((ofDocuments documents).merged.map Package.name) =
      repeats ((documents.filter (·.isNamed)).map Document.packageName) := by
  have names : ((documents.filter (·.isNamed)).map Document.reading).map Package.name =
      (documents.filter (·.isNamed)).map Document.packageName := by
    rw [List.map_map]
    rfl
  -- the shared package comes last, and no package before it has its name
  have new : Package.commonName ∉
      (documents.filter (·.isNamed)).map Document.packageName := by
    simp +contextual [Document.isNamed]
  simp only [merged, List.map_append, named_candidates, names]
  split
  · simp
  · exact repeats_concat_of_notMem new

/-- The batch reports its faults, in order. -/
lemma problems_eq_faultsOf (documents : List Document) :
    (ofDocuments documents).problems = faultsOf documents := by
  simp only [problems, faultsOf, conflicts_merged, repeatedNames_eq_repeats, repeats_merged,
    List.append_assoc]
  simp only [ofDocuments, declarations_diagnostics]

end Batch

/-! ### Counting the faults of a batch -/

/-- The names of the entries of some documents that declare something. -/
lemma count_declared (documents : List Document) (declares : Entry → Bool) (name : String) :
    (((documents.flatMap Document.walk).filter declares).map Entry.name).count name =
      (documents.map fun d => d.walk.countP fun e => declares e && e.name == name).sum := by
  rw [count_map_name, List.countP_filter, List.countP_flatMap]
  simp only [Function.comp_def, Bool.and_comm]

/-- The conflicts of some documents that are put together. -/
lemma count_conflictsOf (documents : List Document) (problem : Diagnostic) :
    (conflictsOf documents).count problem =
      match problem with
      | .duplicateEnum name =>
        (documents.map fun d => d.walk.countP (Entry.declaresEnum name)).sum - 1
      | .duplicateStructure name =>
        (documents.map fun d => d.walk.countP (Entry.declaresStructure name)).sum - 1
      | _ => 0 := by
  rw [conflictsOf, List.count_append]
  cases problem with
  | duplicateEnum name =>
    rw [count_map_repeats (fun _ _ => Diagnostic.duplicateEnum.inj), count_map_eq_zero,
      count_declared]
    · rfl
    · simp
  | duplicateStructure name =>
    rw [count_map_repeats (fun _ _ => Diagnostic.duplicateStructure.inj), count_map_eq_zero,
      count_declared, Nat.zero_add]
    · rfl
    · simp
  | _ =>
    exact Nat.add_eq_zero_iff.2 ⟨count_map_eq_zero (by simp) _, count_map_eq_zero (by simp) _⟩

/-- The faults of a batch are as many as they should be. -/
lemma count_faultsOf (documents : List Document) (problem : Diagnostic) :
    (faultsOf documents).count problem = faultCount documents problem := by
  simp only [faultsOf, List.count_append, List.count_flatMap, Function.comp_def,
    Document.count_faults, count_conflictsOf, faultCount]
  cases problem with
  | duplicateEnum name =>
    rw [count_map_eq_zero]
    · simp [packageFaultCount, repeatedDeclarations, Nat.add_assoc]
    · simp
  | duplicateStructure name =>
    rw [count_map_eq_zero]
    · simp [packageFaultCount, repeatedDeclarations, Nat.add_assoc]
    · simp
  | duplicatePackage name =>
    rw [count_map_repeats (fun _ _ => Diagnostic.duplicatePackage.inj), List.count_eq_countP,
      List.countP_map]
    simp [packageFaultCount, Function.comp_def]
  | _ =>
    rw [count_map_eq_zero]
    · simp [packageFaultCount]
    · simp

/-- What a batch reports is everything that is wrong with it. -/
lemma reported_eq_faultsOf (documents : List Document) :
    reported (packagesOf documents) = faultsOf documents := by
  rw [packagesOf, Batch.link, Batch.problems_eq_faultsOf]
  split
  · rename_i none
    exact (List.isEmpty_iff.1 none).symm
  · rfl

/-- A batch has packages exactly when nothing is wrong with it, and then they are its merged
candidates, ordered. -/
lemma packagesOf_eq_ok_iff {documents : List Document} {packages : List Package} :
    packagesOf documents = .ok packages ↔
      faultsOf documents = [] ∧
        sortByName Package.name ((Batch.ofDocuments documents).merged.map Package.ordered) =
          packages := by
  rw [packagesOf, Batch.link, Batch.problems_eq_faultsOf]
  cases h : faultsOf documents <;> simp

/-- What a batch fails with is what is wrong with it, and that is something. -/
lemma packagesOf_eq_error_iff {documents : List Document} {faults : List Diagnostic} :
    packagesOf documents = .error faults ↔ faultsOf documents = faults ∧ faults ≠ [] := by
  rw [packagesOf, Batch.link, Batch.problems_eq_faultsOf]
  cases h : faultsOf documents with
  | nil => simp +contextual [eq_comm]
  | cons fault rest =>
    simp only [List.isEmpty_cons, Bool.false_eq_true, ↓reduceIte, Except.error.injEq]
    constructor
    · rintro rfl
      exact ⟨rfl, List.cons_ne_nil fault rest⟩
    · exact And.left

/-- A batch reports each problem as often as its documents have it, in the order of the documents,
and it has packages exactly when they have none. -/
theorem packagesOf_reports_faults (documents : List Document) :
    (∀ problem, (reported (packagesOf documents)).count problem = faultCount documents problem) ∧
      reported (packagesOf documents) = faultsOf documents ∧
      ((∃ packages, packagesOf documents = .ok packages) ↔
        ∀ problem, faultCount documents problem = 0) := by
  refine ⟨?_, reported_eq_faultsOf documents, ?_⟩
  · intro problem
    rw [reported_eq_faultsOf, count_faultsOf]
  · have none : faultsOf documents = [] ↔ ∀ problem, faultCount documents problem = 0 := by
      simp only [← count_faultsOf, List.count_eq_zero, List.eq_nil_iff_forall_not_mem]
    simp only [packagesOf_eq_ok_iff, none, exists_and_left, exists_eq', and_true]

/-- A text in the place of a mapping, a user within a user whose keys repeat a name, two keys without a
text, two roles and a role without a text, and one more user. -/
def faultyBatch : List Document :=
  [⟨some (.scalar .bare "user"), .unknown⟩,
    ⟨some (.mapping .bare
      [(.scalar .bare "user", .mapping .bare
        [(.scalar .bare "id!", .scalar .bare "string"), (.scalar .bare "id?", .scalar .bare "string"),
          (.sequence .bare [], .null .bare), (.null .bare, .null .bare),
          (.scalar .bare "user?", .mapping .bare []),
          (.scalar .bare "role[]", .sequence .bare
            [.scalar .bare "new", .null .bare, .scalar .bare "new"]),
          (.scalar .bare "role", .sequence .bare [.scalar .bare "new"])])]),
      ⟨some "user", none, none, none⟩⟩,
    ⟨none, .unknown⟩,
    ⟨some (.mapping .bare [(.scalar .bare "user", .mapping .bare [])]),
      ⟨some "user", none, none, none⟩⟩]

/-- The problems of `faultyBatch`, one of each kind and three for the repeated names of one mapping. -/
def faultyDiagnostics : List Diagnostic :=
  [.invalidRoot .scalar, .nonScalarEnumValue "role", .duplicateEnumValue "new", .duplicateField "id",
    .duplicateField "", .duplicateField "role", .multiplePrimaryTables "user", .duplicateEnum "role",
    .duplicateStructure "user", .duplicatePackage "user"]

/-- Keys are compared without their markers, and those without a text by the empty name. -/
theorem packagesOf_reports_faults_faultyBatch :
    packagesOf faultyBatch = .error faultyDiagnostics ∧
      (∀ problem, faultyDiagnostics.count problem = faultCount faultyBatch problem) ∧
      ¬ ∃ packages, packagesOf faultyBatch = .ok packages := by
  have faults : faultsOf faultyBatch = faultyDiagnostics := by decide +kernel
  obtain ⟨counted, listed, accepted⟩ := packagesOf_reports_faults faultyBatch
  rw [listed, faults] at counted
  refine ⟨packagesOf_eq_error_iff.2 ⟨faults, List.cons_ne_nil _ _⟩, counted, ?_⟩
  rw [accepted]
  intro none
  have once : faultCount faultyBatch (.duplicateField "") = 1 := by decide +kernel
  rw [none] at once
  cases once

end RecordSchema
