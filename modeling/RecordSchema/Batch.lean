import RecordSchema.Declarations

/-!
# Batches

The packages of a batch of documents. What belongs to no primary table is merged into one shared
package, declarations are ordered by name, and any diagnostic fails the whole batch.
-/

namespace RecordSchema

/-- Items ordered by name; items of one name keep their order. -/
def sortByName {α : Type} (name : α → String) (items : List α) : List α :=
  items.mergeSort fun a b => decide (name a ≤ name b)

namespace Package

/-- The shared package that some packages are merged into. -/
def merge (packages : List Package) : Package :=
  ⟨commonName, packages.flatMap enums, packages.flatMap structures, []⟩

/-- The package with its declarations ordered by name. -/
def ordered (p : Package) : Package :=
  { p with
    enums := sortByName Enumeration.name p.enums
    structures := sortByName Structure.name p.structures }

/-- The names that the package declares more than once. -/
def conflicts (p : Package) : List Diagnostic :=
  (repeatedNames Enumeration.name p.enums).map .duplicateEnum ++
    (repeatedNames Structure.name p.structures).map .duplicateStructure

end Package

/-- A batch of candidate packages, and the diagnostics raised for them. -/
structure Batch where
  candidates : List Package
  diagnostics : List Diagnostic
deriving DecidableEq, Repr

namespace Batch

/-- The batch of some documents. -/
def ofDocuments (documents : List Document) : Batch :=
  ⟨documents.filterMap fun d => d.declarations.package,
    documents.flatMap fun d => d.declarations.diagnostics⟩

/-- The packages of the batch with the shared ones merged; the merged one is last. -/
def merged (b : Batch) : List Package :=
  let shared := b.candidates.filter Package.isCommon
  b.candidates.filter (!·.isCommon) ++ if shared.isEmpty then [] else [Package.merge shared]

/-- Everything that is wrong with the batch. -/
def problems (b : Batch) : List Diagnostic :=
  b.diagnostics ++ b.merged.flatMap Package.conflicts ++
    (repeatedNames Package.name b.merged).map .duplicatePackage

/-- The packages of the batch in order, or everything that is wrong with it. -/
def link (b : Batch) : Except (List Diagnostic) (List Package) :=
  if b.problems.isEmpty then
    .ok (sortByName Package.name (b.merged.map Package.ordered))
  else
    .error b.problems

end Batch

/-- The packages of some documents. -/
def packagesOf (documents : List Document) : Except (List Diagnostic) (List Package) :=
  (Batch.ofDocuments documents).link

end RecordSchema
