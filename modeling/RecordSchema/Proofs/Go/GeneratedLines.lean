import Mathlib
import RecordSchema.Proofs.Go.Lines

/-!
# The lines of generated files

What goes into a generated file is one line each: names because they are identifiers, keys because
names become identifiers, comments and the texts of the configuration if they are. Main statement:
`isTidy_of_generate`.
-/

namespace RecordSchema

open Text

/-- The comments of a package are one line each. -/
structure Package.CommentsOneLine (p : Package) : Prop where
  enums : ∀ e ∈ p.enums, IsOneLine e.comment ∧ ∀ v ∈ e.values, IsOneLine v.comment
  structures : ∀ s ∈ p.structures, IsOneLine s.comment ∧ ∀ f ∈ s.fields, IsOneLine f.comment

/-- Linking keeps comments. -/
lemma Linker.commentsOneLine_linkPackage (l : Linker) {p : Package} (one : p.CommentsOneLine) :
    (l.linkPackage p).CommentsOneLine := by
  constructor
  case enums =>
    intro _ linked
    obtain ⟨e, mem, rfl⟩ := List.mem_map.1 linked
    refine ⟨(one.enums e mem).1, fun _ linked => ?_⟩
    obtain ⟨v, inEnum, rfl⟩ := List.mem_map.1 linked
    exact (one.enums e mem).2 v inEnum
  case structures =>
    intro _ linked
    obtain ⟨s, mem, rfl⟩ := List.mem_map.1 linked
    refine ⟨(one.structures s mem).1, fun _ linked => ?_⟩
    obtain ⟨f, inStructure, rfl⟩ := List.mem_map.1 linked
    exact (one.structures s mem).2 f inStructure

namespace Go.Generator

/-- The support packages of the types and the import paths are one line each. -/
structure OneLined (g : Generator) : Prop where
  support : ∀ raw target, g.typeMap.get? raw = some target → IsOneLine target.package
  imports : ∀ package path, g.imports.get? package = some path → IsOneLine path

variable {g : Generator}

/-- The keys of a tag are one line each if the key that they come from is. -/
lemma isOneLine_tagKeys (kind : FieldKind) {key : String} (one : IsOneLine key) :
    IsOneLine (tagKeys kind key).1 ∧ IsOneLine (tagKeys kind key).2 := by
  have id : IsOneLine "_id" := by decide
  have suffixed : IsOneLine (key ++ ",omitempty") := by
    rw [isOneLine_append]
    exact ⟨one, by decide⟩
  cases kind with
  | normal => exact ⟨one, one⟩
  | array => exact ⟨one, one⟩
  | optional => exact ⟨suffixed, suffixed⟩
  | primaryKey => exact ⟨id, one⟩

/-- A qualified name is one line. -/
lemma isOneLine_qualified {name package : String} (named : isIdentifier name)
    (one : IsOneLine package) : IsOneLine (qualified name package) := by
  unfold qualified
  split
  · exact isOneLine_of_isIdentifier named
  · simp only [isOneLine_append]
    exact ⟨⟨one, by decide⟩, isOneLine_of_isIdentifier named⟩

/-- The support package of a linked field is one line. -/
lemma OneLined.package (one : g.OneLined) {packages : List Package} {p : Package} {s : Structure}
    {f : Field} (inPackages : p ∈ g.linker.link packages) (inPackage : s ∈ p.structures)
    (inStructure : f ∈ s.fields) : IsOneLine f.type.package := by
  by_cases none : f.type.package = ""
  · rw [none]
    exact isOneLine_empty
  · obtain ⟨raw, target, found, eq⟩ :=
      g.linker.exists_target_of_package inPackages inPackage inStructure none
    rw [← eq]
    exact one.support raw target found

/-- A field is declared in texts of one line each. -/
lemma isTidy_fieldDeclOf {f : Field} (valueTypes : List String) (named : FieldNamed f)
    (comment : IsOneLine f.comment) (package : IsOneLine f.type.package) :
    (fieldDeclOf valueTypes f).IsTidy := by
  have keys := isOneLine_tagKeys f.type.kind (Name.isOneLine_snake named.name)
  exact ⟨named.name, comment, isOneLine_qualified named.type package, keys.1, keys.2⟩

/-- An enumeration is declared in texts of one line each. -/
lemma isTidy_enumDeclOf {e : Enumeration} (named : EnumerationNamed e)
    (one : IsOneLine e.comment ∧ ∀ v ∈ e.values, IsOneLine v.comment) : (enumDeclOf e).IsTidy := by
  refine ⟨named.name, one.1, fun _ declared => ?_⟩
  obtain ⟨v, mem, rfl⟩ := List.mem_map.1 declared
  exact ⟨named.constants v mem, one.2 v mem⟩

/-- What goes into the file of a linked package is one line each. -/
lemma isTidy_fileOf {packages : List Package} {p : Package} {clause : String} (one : g.OneLined)
    (named : isIdentifier clause) (inPackages : p ∈ g.linker.link packages) (gen : g.Generates p)
    (comments : p.CommentsOneLine) : (g.fileOf clause p).source.IsTidy := by
  constructor
  case package => exact named
  case imports =>
    intro path mem
    obtain ⟨d, _, found⟩ := List.mem_filterMap.1 (List.mem_mergeSort.1 mem)
    exact one.imports d path found
  case enums =>
    intro _ declared
    obtain ⟨e, mem, rfl⟩ := List.mem_map.1 declared
    exact isTidy_enumDeclOf (gen.enums e mem) (comments.enums e mem)
  case structs =>
    intro _ declared
    obtain ⟨s, mem, rfl⟩ := List.mem_map.1 declared
    have namedStructure := gen.structures s mem
    have commented := comments.structures s mem
    refine ⟨namedStructure.name, commented.1, fun _ declared => ?_⟩
    obtain ⟨f, inStructure, rfl⟩ := List.mem_map.1 declared
    exact isTidy_fieldDeclOf _ (namedStructure.fields f inStructure) (commented.2 f inStructure)
      (one.package inPackages mem inStructure)

/-- What goes into a generated file is one line each. -/
lemma isTidy_of_generate {packages : List Package} {files : List OutputFile} (one : g.OneLined)
    (comments : ∀ p ∈ packages, p.CommentsOneLine) (ok : g.generate packages = .ok files) :
    ∀ f ∈ files, f.source.IsTidy := by
  obtain ⟨clause, clauseOk, gen, rfl⟩ := g.generate_eq_ok_iff.1 ok
  intro _ generated
  obtain ⟨_, inLinked, rfl⟩ := List.mem_map.1 generated
  obtain ⟨p, mem, rfl⟩ := List.mem_map.1 inLinked
  apply isTidy_fileOf one (g.isIdentifier_packageClause clauseOk) inLinked (gen _ inLinked)
  exact g.linker.commentsOneLine_linkPackage (comments p mem)

end Go.Generator

end RecordSchema
