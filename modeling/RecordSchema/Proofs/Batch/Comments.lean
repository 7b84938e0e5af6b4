import Mathlib
import RecordSchema.Proofs.Batch.Canonical
import RecordSchema.Proofs.Document.Comments
import RecordSchema.Proofs.Go.GeneratedLines

/-!
# Batches without comments

Comments have no part in how a batch is put together, and they reach its packages as single lines.
Main statements: `packagesOf_withoutComments` and `commentsOneLine_packagesOf`.
-/

namespace RecordSchema

/-! ### Erasing comments -/

/-- Sorting by name commutes with a change that keeps names. -/
lemma sortByName_map {α : Type} (name : α → String) {change : α → α}
    (same : ∀ a, name (change a) = name a) (items : List α) :
    sortByName name (items.map change) = (sortByName name items).map change := by
  rw [sortByName, sortByName, List.map_mergeSort]
  simp [same]

namespace Package

/-- A shared package without comments is shared. -/
lemma isCommon_withoutComments (p : Package) : p.withoutComments.isCommon = p.isCommon := rfl

/-- Merging packages commutes with erasing comments. -/
lemma merge_withoutComments (packages : List Package) :
    merge (packages.map withoutComments) = (merge packages).withoutComments := by
  simp [merge, withoutComments, List.flatMap_map, List.map_flatMap]

/-- Ordering a package commutes with erasing comments, for it goes by names. -/
lemma ordered_withoutComments (p : Package) :
    p.withoutComments.ordered = p.ordered.withoutComments := by
  simp [ordered, withoutComments, sortByName_map _ Enumeration.name_withoutComments,
    sortByName_map _ Structure.name_withoutComments]

/-- Whether declarations conflict does not depend on comments. -/
lemma conflicts_withoutComments (p : Package) : p.withoutComments.conflicts = p.conflicts := by
  simp [conflicts, withoutComments, repeatedNames_map _ Enumeration.name_withoutComments,
    repeatedNames_map _ Structure.name_withoutComments]

end Package

namespace Batch

/-- The batch without comments. -/
def withoutComments (b : Batch) : Batch :=
  { b with candidates := b.candidates.map Package.withoutComments }

/-- Documents without comments give the batch without comments. -/
lemma ofDocuments_withoutComments (documents : List Document) :
    ofDocuments (documents.map Document.withoutComments) = (ofDocuments documents).withoutComments := by
  simp [ofDocuments, withoutComments, List.filterMap_map, List.map_filterMap, List.flatMap_map,
    Document.declarations_withoutComments, Declarations.withoutComments]

/-- The candidates without comments are merged to the packages without comments. -/
lemma merged_withoutComments (b : Batch) :
    b.withoutComments.merged = b.merged.map Package.withoutComments := by
  simp only [merged, withoutComments, List.filter_map, Function.comp_def,
    Package.isCommon_withoutComments, List.isEmpty_map, Package.merge_withoutComments,
    List.map_append]
  split <;> rfl

/-- The problems of a batch do not depend on comments. -/
lemma problems_withoutComments (b : Batch) : b.withoutComments.problems = b.problems := by
  simp only [problems, merged_withoutComments, List.flatMap_map, Package.conflicts_withoutComments,
    repeatedNames_map _ Package.name_withoutComments]
  rfl

/-- Without comments a batch has the same packages without comments. -/
lemma link_withoutComments (b : Batch) :
    b.withoutComments.link = b.link.map (List.map Package.withoutComments) := by
  have ordered : (b.merged.map Package.withoutComments).map Package.ordered =
      (b.merged.map Package.ordered).map Package.withoutComments := by
    simp [Function.comp_def, Package.ordered_withoutComments]
  rw [link, problems_withoutComments, merged_withoutComments, ordered,
    sortByName_map _ Package.name_withoutComments, link]
  split <;> rfl

end Batch

/-- Documents without comments have the same problems, or the same packages without comments. -/
lemma packagesOf_withoutComments (documents : List Document) :
    packagesOf (documents.map Document.withoutComments) =
      (packagesOf documents).map (List.map Package.withoutComments) := by
  rw [packagesOf, Batch.ofDocuments_withoutComments, Batch.link_withoutComments, packagesOf]

/-! ### Comments of packages -/

namespace Entry

/-- The comment of an entry is one line. -/
lemma isOneLine_comment (e : Entry) : Text.IsOneLine e.comment :=
  Comment.isOneLine_first _

/-- The comments of a declared structure are one line each. -/
lemma commentsOneLine_structure {e : Entry} {s : Structure} (declared : e.structure? = some s) :
    Text.IsOneLine s.comment ∧ ∀ f ∈ s.fields, Text.IsOneLine f.comment := by
  obtain ⟨entries, _, rfl⟩ := Option.map_eq_some_iff.1 declared
  dsimp only
  refine ⟨e.isOneLine_comment, fun f mem => ?_⟩
  obtain ⟨child, _, rfl⟩ := List.mem_map.1 mem
  dsimp only [field]
  exact child.isOneLine_comment

/-- The comments of a declared enumeration are one line each. -/
lemma commentsOneLine_enumeration {e : Entry} {enum : Enumeration}
    (declared : e.enumeration? = some enum) :
    Text.IsOneLine enum.comment ∧ ∀ v ∈ enum.values, Text.IsOneLine v.comment := by
  obtain ⟨items, _, rfl⟩ := Option.map_eq_some_iff.1 declared
  dsimp only
  refine ⟨e.isOneLine_comment, fun v mem => ?_⟩
  obtain ⟨item, _, value⟩ := List.mem_filterMap.1 mem
  obtain ⟨text, _, rfl⟩ := Option.map_eq_some_iff.1 value
  dsimp only
  exact Comment.isOneLine_first _

end Entry

/-- The comments in the packages of a batch are one line each. -/
lemma commentsOneLine_packagesOf {documents : List Document} {packages : List Package}
    (ok : packagesOf documents = .ok packages) : ∀ p ∈ packages, p.CommentsOneLine := by
  obtain ⟨_, rfl⟩ := packagesOf_eq_ok_iff.1 ok
  intro p mem
  rw [(sortByName_perm _).mem_iff] at mem
  obtain ⟨q, inMerged, rfl⟩ := List.mem_map.1 mem
  obtain ⟨⟨walk, declares, _⟩, _⟩ := Batch.exists_walk inMerged
  constructor
  case enums =>
    intro e mem
    obtain ⟨entry, _, declared⟩ := declares.ordered.exists_enum mem
    exact entry.commentsOneLine_enumeration declared
  case structures =>
    intro s mem
    obtain ⟨entry, _, declared⟩ := declares.ordered.exists_structure mem
    exact entry.commentsOneLine_structure declared

end RecordSchema
