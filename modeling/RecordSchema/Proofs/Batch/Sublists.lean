import Mathlib
import RecordSchema.Proofs.Batch.Canonical

/-!
# Batches with documents left out

Leaving documents out of a batch brings no problem to light: each count of repetitions is taken over
fewer documents, whether their packages stand alone or are put together. A blank document has no part
in a batch at all. Main statement: `packagesOf_sublist`.
-/

namespace RecordSchema

variable {documents documents' : List Document}

/-- A sum over fewer members is no greater. -/
lemma sum_map_le_of_sublist {α : Type} {l l' : List α} (sub : l'.Sublist l) (weight : α → Nat) :
    (l'.map weight).sum ≤ (l.map weight).sum := by
  apply (sub.map weight).sum_le_sum
  intro n _
  exact Nat.zero_le n

/-- Fewer documents repeat no more declarations. -/
lemma repeatedDeclarations_sublist (sub : documents'.Sublist documents) (declares : Entry → Bool) :
    repeatedDeclarations declares documents' ≤ repeatedDeclarations declares documents := by
  have named := sum_map_le_of_sublist (sub.filter (·.isNamed)) fun d => d.walk.countP declares - 1
  have shared := sum_map_le_of_sublist (sub.filter (!·.isNamed)) fun d => d.walk.countP declares
  -- the shared declarations are counted together, and all but the first of them are repetitions
  exact Nat.add_le_add named (Nat.sub_le_sub_right shared 1)

/-- The packages of fewer documents have no more problems. -/
lemma packageFaultCount_sublist (sub : documents'.Sublist documents) (problem : Diagnostic) :
    packageFaultCount documents' problem ≤ packageFaultCount documents problem := by
  cases problem with
  | duplicateEnum name => exact repeatedDeclarations_sublist sub _
  | duplicateStructure name => exact repeatedDeclarations_sublist sub _
  | duplicatePackage name =>
    have same := (sub.filter (·.isNamed)).countP_le (p := (·.packageName == name))
    exact Nat.sub_le_sub_right same 1
  | _ => exact le_rfl

/-- Fewer documents have each problem at most as often. -/
lemma faultCount_sublist (sub : documents'.Sublist documents) (problem : Diagnostic) :
    faultCount documents' problem ≤ faultCount documents problem := by
  apply Nat.add_le_add
  · exact sum_map_le_of_sublist sub _
  · exact packageFaultCount_sublist sub problem

/-- All that is wrong with some documents is wrong with more of them. -/
lemma faultsOf_sublist (sub : documents'.Sublist documents) :
    (faultsOf documents').Subperm (faultsOf documents) := by
  rw [List.subperm_ext_iff]
  intro problem _
  rw [count_faultsOf, count_faultsOf]
  exact faultCount_sublist sub problem

/-! ### Blank documents -/

/-- A blank document declares nothing. -/
lemma declarations_of_isBlank {d : Document} (blank : d.isBlank) : d.declarations = ⟨none, [], []⟩ := by
  obtain ⟨root, metadata⟩ := d
  cases root with
  | none => rfl
  | some n =>
    cases n with
    | null => rfl
    | _ => cases blank

namespace Batch

/-- A batch consists of the documents that are not blank. -/
lemma ofDocuments_filter_isBlank (documents : List Document) :
    ofDocuments (documents.filter (!·.isBlank)) = ofDocuments documents := by
  induction documents with
  | nil => rfl
  | cons d rest ih =>
    simp only [ofDocuments, Batch.mk.injEq] at ih ⊢
    cases blank : d.isBlank with
    | true =>
      have nothing := declarations_of_isBlank blank
      simpa [blank, nothing] using ih
    | false => simp [blank, List.filterMap_cons, ih.1, ih.2]

end Batch

/-- A batch reports at least what it reports with documents left out, each problem at least as often,
so it fails if it fails without them; and blank documents make no difference to its result. -/
theorem packagesOf_sublist (documents documents' : List Document) :
    (documents'.Sublist documents →
        (reported (packagesOf documents')).Subperm (reported (packagesOf documents)) ∧
          ∀ faults', packagesOf documents' = .error faults' →
            ∃ faults, packagesOf documents = .error faults ∧ faults'.Subperm faults) ∧
      (documents'.filter (!·.isBlank) = documents.filter (!·.isBlank) →
        packagesOf documents' = packagesOf documents) := by
  refine ⟨fun sub => ⟨?_, ?_⟩, fun same => ?_⟩
  · rw [reported_eq_faultsOf, reported_eq_faultsOf]
    exact faultsOf_sublist sub
  · intro faults' failed
    obtain ⟨rfl, some⟩ := packagesOf_eq_error_iff.1 failed
    have more := faultsOf_sublist sub
    refine ⟨faultsOf documents, packagesOf_eq_error_iff.2 ⟨rfl, ?_⟩, more⟩
    intro none
    rw [none] at more
    exact some (List.subperm_nil.1 more)
  · rw [packagesOf, packagesOf, ← Batch.ofDocuments_filter_isBlank documents', same,
      Batch.ofDocuments_filter_isBlank]

/-- `userBatch` three times over, with a blank document in front, reports what is reported of it twice
over. -/
theorem packagesOf_sublist_userBatch :
    reported (packagesOf (userBatch ++ userBatch)) =
        [.duplicateStructure "conf", .duplicateStructure "author", .duplicatePackage "user"] ∧
      (reported (packagesOf (userBatch ++ userBatch))).Subperm
        (reported (packagesOf (⟨none, .unknown⟩ :: (userBatch ++ userBatch ++ userBatch)))) ∧
      packagesOf (⟨none, .unknown⟩ :: (userBatch ++ userBatch ++ userBatch)) =
        packagesOf (userBatch ++ userBatch ++ userBatch) := by
  have sub := (List.sublist_append_left (userBatch ++ userBatch) userBatch).cons ⟨none, .unknown⟩
  refine ⟨?_, ((packagesOf_sublist _ _).1 sub).1, (packagesOf_sublist _ _).2 rfl⟩
  rw [reported_eq_faultsOf]
  decide +kernel

end RecordSchema
