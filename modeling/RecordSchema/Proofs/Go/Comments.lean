import Mathlib
import RecordSchema.Proofs.Batch.Comments
import RecordSchema.Proofs.Go.Imports

/-!
# Comments in generated files

A comment ends up in lines of its own, and nothing else that is generated depends on comments. Main
statements: `generate_withoutComments`, packages without comments have the same files without comments,
and `comments_write_doc_lines`, which says so of documents and of the text of their files.
-/

namespace RecordSchema

/-! ### Linking and generating commute with erasing comments -/

namespace Linker

/-- Linking a structure commutes with erasing comments. -/
lemma linkStructure_withoutComments (l : Linker) (s : Structure) :
    l.linkStructure s.withoutComments = (l.linkStructure s).withoutComments := by
  simp [linkStructure, Structure.withoutComments, linkField, Field.withoutComments]

/-- Assigning constants commutes with erasing comments. -/
lemma assignConstants_withoutComments (e : Enumeration) :
    assignConstants e.withoutComments = (assignConstants e).withoutComments := by
  simp [assignConstants, Enumeration.withoutComments, assignConstant, EnumValue.withoutComments]

/-- The support packages of a structure do not depend on comments. -/
lemma supportPackages_withoutComments (l : Linker) (s : Structure) :
    l.supportPackages s.withoutComments = l.supportPackages s := by
  simp [supportPackages, Structure.withoutComments, List.filterMap_map, Function.comp_def,
    Field.withoutComments]

/-- Linking a package commutes with erasing comments. -/
lemma linkPackage_withoutComments (l : Linker) (p : Package) :
    l.linkPackage p.withoutComments = (l.linkPackage p).withoutComments := by
  simp [linkPackage, Package.withoutComments, dependencies, List.flatMap_map, Function.comp_def,
    linkStructure_withoutComments, assignConstants_withoutComments, supportPackages_withoutComments]

/-- Linking packages commutes with erasing comments. -/
lemma link_withoutComments (l : Linker) (packages : List Package) :
    l.link (packages.map Package.withoutComments) =
      (l.link packages).map Package.withoutComments := by
  simp [link, linkPackage_withoutComments]

end Linker

namespace Go.Generator

/-- The file without comments, at the same place. -/
def OutputFile.withoutComments (f : OutputFile) : OutputFile :=
  { f with source := f.source.withoutComments }

/-- A value without a comment gives the same constant without documentation, or the same error. -/
lemma constDecl_withoutComments (v : EnumValue) :
    constDecl v.withoutComments = (constDecl v).map ConstDecl.withoutComments := by
  have identifier : v.withoutComments.identifier = v.identifier := rfl
  rw [constDecl, constDecl, identifier]
  cases checked v.identifier <;> rfl

/-- An enumeration without comments gives the same type without documentation, or the same error. -/
lemma enumDecl_withoutComments (e : Enumeration) :
    enumDecl e.withoutComments = (enumDecl e).map EnumDecl.withoutComments := by
  have constants := mapM_map constDecl_withoutComments e.values
  simp only [enumDecl, Enumeration.withoutComments, constants]
  cases checked (Name.protoPascal e.name) with
  | error _ => rfl
  | ok _ => cases e.values.mapM constDecl <;> rfl

/-- A field without a comment gives the same member without documentation, or the same error. -/
lemma fieldDecl_withoutComments (valueTypes : List String) (structure_ : String) (f : Field) :
    fieldDecl valueTypes structure_ f.withoutComments =
      (fieldDecl valueTypes structure_ f).map FieldDecl.withoutComments := by
  have name : f.withoutComments.name = f.name := rfl
  have type : f.withoutComments.type = f.type := rfl
  simp only [fieldDecl, name, type]
  cases checked (Name.pascal f.name) with
  | error _ => rfl
  | ok _ =>
    -- a missing type is found before the name of the type is checked
    by_cases typed : f.type.name = ""
    · simp only [if_pos typed]
      rfl
    · simp only [if_neg typed]
      cases checked f.type.name <;> rfl

/-- A structure without comments gives the same type without documentation, or the same error. -/
lemma structDecl_withoutComments (valueTypes : List String) (s : Structure) :
    structDecl valueTypes s.withoutComments =
      (structDecl valueTypes s).map StructDecl.withoutComments := by
  have fields := mapM_map (fieldDecl_withoutComments valueTypes s.name) s.fields
  simp only [structDecl, Structure.withoutComments, fields]
  cases checked (Name.protoPascal s.name) with
  | error _ => rfl
  | ok _ => cases s.fields.mapM (fieldDecl valueTypes s.name) <;> rfl

variable (g : Generator)

/-- A package without comments gives the same file without documentation, or the same error. -/
lemma outputFile_withoutComments (clause : String) (p : Package) :
    g.outputFile clause p.withoutComments =
      (g.outputFile clause p).map OutputFile.withoutComments := by
  have enums := mapM_map enumDecl_withoutComments p.enums
  have structs := mapM_map (structDecl_withoutComments g.valueTypes) p.structures
  simp only [outputFile, sourceFile, Package.withoutComments, enums, structs]
  cases checked (Name.packageName p.name) with
  | error _ => rfl
  | ok _ =>
    cases p.dependencies.mapM (g.importPath p.name) with
    | error _ => rfl
    | ok _ =>
      cases p.enums.mapM enumDecl with
      | error _ => rfl
      | ok _ => cases p.structures.mapM (structDecl g.valueTypes) <;> rfl

/-- Packages without comments have the same files without comments, or the same error. -/
lemma generate_withoutComments (packages : List Package) :
    g.generate (packages.map Package.withoutComments) =
      (g.generate packages).map (List.map OutputFile.withoutComments) := by
  rw [generate, generate]
  cases g.packageClause with
  | error _ => rfl
  | ok clause =>
    have files := mapM_map (g.outputFile_withoutComments clause) (g.linker.link packages)
    rw [g.linker.link_withoutComments]
    exact files

/-- When comments are one line each, the text of a file without comments is its text without the
lines that are comments. -/
lemma contents_generate_withoutComments {packages : List Package} (one : g.OneLined)
    (comments : ∀ p ∈ packages, p.CommentsOneLine) :
    (g.generate (packages.map Package.withoutComments)).map
        (List.map fun f => (f.path, f.contents)) =
      (g.generate packages).map (List.map fun f => (f.path, withoutDocLines f.contents)) := by
  rw [generate_withoutComments]
  cases generated : g.generate packages with
  | error _ => simp only [Except.map]
  | ok files =>
    simp only [Except.map, List.map_map, Except.ok.injEq]
    apply List.map_congr_left
    intro f mem
    have tidy := isTidy_of_generate one comments generated f mem
    have text : withoutDocLines f.contents = f.withoutComments.contents :=
      SourceFile.withoutDocLines_text tidy
    rw [Function.comp_apply, text]
    rfl

end Go.Generator

/-- Comments write comment lines and nothing else. Documents without comments have the same problems,
or the same packages without comments; and what is generated for these fails with the same error, or
it is the same files without the lines that start like a comment, the first line apart. -/
theorem comments_write_doc_lines (documents : List Document) :
    packagesOf (documents.map Document.withoutComments) =
        (packagesOf documents).map (List.map Package.withoutComments) ∧
      ∀ packages packages', packagesOf documents = .ok packages →
        packagesOf (documents.map Document.withoutComments) = .ok packages' →
        ∀ g : Go.Generator, g.OneLined →
          (g.generate packages').map (List.map fun f => (f.path, f.contents)) =
            (g.generate packages).map
              (List.map fun f => (f.path, Go.withoutDocLines f.contents)) := by
  refine ⟨packagesOf_withoutComments documents, fun packages packages' ok ok' g one => ?_⟩
  rw [packagesOf_withoutComments, ok] at ok'
  cases ok'
  exact g.contents_generate_withoutComments one (commentsOneLine_packagesOf ok)

/-- A user with a comment of two lines and one that looks like code. -/
def commentedUser : Document :=
  ⟨some (.mapping .bare
    [(.scalar ⟨"# the user\n# of an account", "", .unknown⟩ "user", .mapping .bare
      [(.scalar .bare "id!", .scalar ⟨"", "# type User struct", .unknown⟩ "string")])]),
    ⟨some "user", none, none, none⟩⟩

/-- The package of `commentedUser`. -/
def commentedUserPackage : Package :=
  ⟨"user", [], [⟨"user", "the user of an account",
    [⟨"id", "type User struct", .unlinked "string" .primaryKey⟩]⟩], []⟩

/-- The comments of the user and of its fields become words of the package. -/
lemma packagesOf_commentedUser : packagesOf [commentedUser] = .ok [commentedUserPackage] := by
  have merged : (Batch.ofDocuments [commentedUser]).merged = [commentedUserPackage] := by
    decide +kernel
  rw [packagesOf_eq_ok_iff, merged]
  refine ⟨by decide, ?_⟩
  simp [sortByName, Package.ordered, commentedUserPackage]

/-- The file of `commentedUser` is that of the user without comments but for its comment lines. -/
theorem comments_write_doc_lines_user :
    packagesOf [commentedUser.withoutComments] = .ok [commentedUserPackage.withoutComments] ∧
      ((Go.Generator.into "models" none).generate [commentedUserPackage.withoutComments]).map
          (List.map fun f => (f.path, f.contents)) =
        ((Go.Generator.into "models" none).generate [commentedUserPackage]).map
          (List.map fun f => (f.path, Go.withoutDocLines f.contents)) := by
  have same := comments_write_doc_lines [commentedUser]
  have ok : packagesOf [commentedUser.withoutComments] =
      .ok [commentedUserPackage.withoutComments] := by
    have erased := same.1
    rw [packagesOf_commentedUser] at erased
    exact erased
  exact ⟨ok, same.2 _ _ packagesOf_commentedUser ok _ (Go.Generator.oneLined_into _ _)⟩

end RecordSchema
