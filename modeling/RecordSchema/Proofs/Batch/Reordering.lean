import Mathlib
import RecordSchema.Proofs.Batch.Canonical

/-!
# The order of the documents of a batch

Nothing that a batch gives depends on the order of its documents: what is shared is put together in
that order, but sorted by distinct names afterwards, and how often a problem is reported is a sum
over the documents. Main statement: `packagesOf_perm`.
-/

namespace RecordSchema

/-- How often declarations are repeated does not depend on the order of the documents. -/
lemma repeatedDeclarations_perm {documents documents' : List Document}
    (perm : documents.Perm documents') (declares : Entry → Bool) :
    repeatedDeclarations declares documents = repeatedDeclarations declares documents' := by
  have named := ((perm.filter (·.isNamed)).map fun d => d.walk.countP declares - 1).sum_eq
  have shared := ((perm.filter (!·.isNamed)).map fun d => d.walk.countP declares).sum_eq
  rw [repeatedDeclarations, repeatedDeclarations, named, shared]

/-- How often a batch has a problem does not depend on the order of its documents. -/
lemma faultCount_perm {documents documents' : List Document} (perm : documents.Perm documents')
    (problem : Diagnostic) : faultCount documents problem = faultCount documents' problem := by
  have single := (perm.map (·.faultCount problem)).sum_eq
  rw [faultCount, faultCount, single]
  congr 1
  cases problem with
  | duplicateEnum name => exact repeatedDeclarations_perm perm _
  | duplicateStructure name => exact repeatedDeclarations_perm perm _
  | duplicatePackage name =>
    exact congrArg (· - 1) ((perm.filter (·.isNamed)).countP_eq _)
  | _ => rfl

/-- The faults of a batch are the same in every order of its documents, up to their own order. -/
lemma faultsOf_perm {documents documents' : List Document} (perm : documents.Perm documents') :
    (faultsOf documents).Perm (faultsOf documents') := by
  rw [List.perm_iff_count]
  intro problem
  rw [count_faultsOf, count_faultsOf, faultCount_perm perm]

/-- Packages that hold the same in another order are the same once they are ordered. -/
lemma Package.ordered_congr {p q : Package} (name : p.name = q.name)
    (enums : p.enums.Perm q.enums) (structures : p.structures.Perm q.structures)
    (dependencies : p.dependencies = q.dependencies) (conflicts : p.conflicts = []) :
    p.ordered = q.ordered := by
  rw [conflicts_eq_nil_iff] at conflicts
  rw [ordered, ordered, sortByName_congr enums conflicts.1,
    sortByName_congr structures conflicts.2, name, dependencies]

namespace Batch

variable {documents documents' : List Document}

/-- The candidates are the same in every order of the documents, up to their own order. -/
lemma candidates_perm (perm : documents.Perm documents') :
    (ofDocuments documents).candidates.Perm (ofDocuments documents').candidates :=
  List.Perm.filterMap (fun d : Document => d.declarations.package) perm

/-- The shared package of a batch, once it is ordered, does not depend on the order of the
documents. -/
lemma ordered_shared_perm (perm : documents.Perm documents') (clean : faultsOf documents = []) :
    (Package.merge ((ofDocuments documents).candidates.filter Package.isCommon)).ordered =
      (Package.merge ((ofDocuments documents').candidates.filter Package.isCommon)).ordered := by
  have shared := (candidates_perm perm).filter Package.isCommon
  refine Package.ordered_congr ?name ?enums ?structures ?dependencies ?conflicts
  case name => rfl
  case enums => exact shared.flatMap_right _
  case structures => exact shared.flatMap_right _
  case dependencies => rfl
  case conflicts =>
    rw [faultsOf, List.append_eq_nil_iff, List.append_eq_nil_iff] at clean
    rw [conflicts_shared]
    exact clean.1.2

/-- The packages of a batch, each of them ordered, are the same in every order of its documents, up
to their own order. -/
lemma ordered_merged_perm (perm : documents.Perm documents') (clean : faultsOf documents = []) :
    ((ofDocuments documents).merged.map Package.ordered).Perm
      ((ofDocuments documents').merged.map Package.ordered) := by
  have named := ((candidates_perm perm).filter (!·.isCommon)).map Package.ordered
  have shared := (candidates_perm perm).filter Package.isCommon
  rw [merged, merged, List.map_append, List.map_append, shared.isEmpty_eq]
  apply named.append
  split
  · exact .refl _
  · rw [List.map_singleton, List.map_singleton, ordered_shared_perm perm clean]

end Batch

/-- A batch that gives packages gives the same ones in every order of its documents. -/
lemma packagesOf_eq_ok_of_perm {documents documents' : List Document} {packages : List Package}
    (perm : documents.Perm documents') (ok : packagesOf documents = .ok packages) :
    packagesOf documents' = .ok packages := by
  obtain ⟨clean, rfl⟩ := packagesOf_eq_ok_iff.1 ok
  have clean' : faultsOf documents' = [] := by
    have same := faultsOf_perm perm
    rw [clean] at same
    exact same.nil_eq.symm
  obtain ⟨_, _, names⟩ := Batch.clean_of_faultsOf clean'
  refine packagesOf_eq_ok_iff.2 ⟨clean', ?_⟩
  apply sortByName_congr (Batch.ordered_merged_perm perm.symm clean')
  rw [List.map_map]
  exact names

/-- A batch gives the same packages in every order of its documents, and it reports the same
problems, each as often. -/
theorem packagesOf_perm {documents documents' : List Document}
    (perm : documents.Perm documents') :
    (∀ packages, packagesOf documents = .ok packages ↔ packagesOf documents' = .ok packages) ∧
      (reported (packagesOf documents)).Perm (reported (packagesOf documents')) := by
  constructor
  · intro packages
    exact ⟨packagesOf_eq_ok_of_perm perm, packagesOf_eq_ok_of_perm perm.symm⟩
  · rw [reported_eq_faultsOf, reported_eq_faultsOf]
    exact faultsOf_perm perm

/-- The packages of `userBatch` do not depend on the order of its documents. -/
theorem packagesOf_perm_userBatch :
    userBatch.Perm userBatch.reverse ∧ packagesOf userBatch.reverse = .ok userPackages :=
  have perm := (List.reverse_perm userBatch).symm
  ⟨perm, ((packagesOf_perm perm).1 userPackages).1 packagesOf_userBatch⟩

end RecordSchema
