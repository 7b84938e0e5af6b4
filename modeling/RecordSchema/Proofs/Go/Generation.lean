import Mathlib
import RecordSchema.Go.Generator
import RecordSchema.Proofs.Outcome

/-!
# What is generated

Generating fails or writes down what is declared, name by name. Main statement: `generate_eq_ok_iff`,
there are files exactly when all names are identifiers and all dependencies can be imported, and then
each package has the file `Generator.fileOf`.
-/

namespace RecordSchema.Go

/-- An identifier has a first character. -/
lemma ne_empty_of_isIdentifier {name : String} (h : isIdentifier name) : name ≠ "" := by
  rintro rfl
  simp [isIdentifier, isIdentifierChars] at h

/-- Each character of an identifier may go on one. -/
lemma isIdentifierRest_of_mem {name : String} (h : isIdentifier name) {c : Char}
    (mem : c ∈ name.toList) : isIdentifierRest c := by
  rw [isIdentifier] at h
  cases chars : name.toList with
  | nil => simp [chars] at mem
  | cons first rest =>
    rw [chars, isIdentifierChars, Bool.and_eq_true, List.all_eq_true] at h
    rw [chars, List.mem_cons] at mem
    rcases mem with rfl | mem
    · have start := h.1
      rw [isIdentifierStart, Bool.or_eq_true] at start
      rw [isIdentifierRest, Char.isAlphanum, Bool.or_eq_true, Bool.or_eq_true]
      exact start.imp_left .inl
    · exact h.2 c mem

namespace Generator

/-! ### The declarations of what is declared -/

/-- The declaration of a field, whether its names are identifiers or not; so for the others. -/
def fieldDeclOf (valueTypes : List String) (f : Field) : FieldDecl :=
  let keys := tagKeys f.type.kind (Name.snake f.name)
  ⟨Name.pascal f.name, f.comment, typeRef valueTypes f.type, keys.1, keys.2⟩

/-- The declaration of a structure. -/
def structDeclOf (valueTypes : List String) (s : Structure) : StructDecl :=
  ⟨Name.protoPascal s.name, s.comment, s.fields.map (fieldDeclOf valueTypes)⟩

/-- The declaration of a constant. -/
def constDeclOf (v : EnumValue) : ConstDecl :=
  ⟨v.identifier, v.comment⟩

/-- The declaration of an enumeration. -/
def enumDeclOf (e : Enumeration) : EnumDecl :=
  ⟨Name.protoPascal e.name, e.comment, e.values.map constDeclOf⟩

/-- The file of a linked package. -/
def fileOf (g : Generator) (clause : String) (p : Package) : OutputFile :=
  ⟨Path.join g.out (Name.packageName p.name ++ ".go"),
    ⟨clause, (p.dependencies.filterMap g.imports.get?).mergeSort fun a b => decide (a ≤ b),
      p.enums.map enumDeclOf, p.structures.map (structDeclOf g.valueTypes)⟩⟩

/-- The names that the declaration of a field holds are identifiers. -/
structure FieldNamed (f : Field) : Prop where
  name : isIdentifier (Name.pascal f.name)
  type : isIdentifier f.type.name

/-- The names of a field can be checked. -/
instance (f : Field) : Decidable (FieldNamed f) :=
  decidable_of_iff (isIdentifier (Name.pascal f.name) ∧ isIdentifier f.type.name)
    ⟨fun h => ⟨h.1, h.2⟩, fun h => ⟨h.name, h.type⟩⟩

/-- The names that the declaration of a structure holds are identifiers. -/
structure StructureNamed (s : Structure) : Prop where
  name : isIdentifier (Name.protoPascal s.name)
  fields : ∀ f ∈ s.fields, FieldNamed f

/-- The names of a structure can be checked. -/
instance (s : Structure) : Decidable (StructureNamed s) :=
  decidable_of_iff (isIdentifier (Name.protoPascal s.name) ∧ ∀ f ∈ s.fields, FieldNamed f)
    ⟨fun h => ⟨h.1, h.2⟩, fun h => ⟨h.name, h.fields⟩⟩

/-- The names that the declaration of an enumeration holds are identifiers. -/
structure EnumerationNamed (e : Enumeration) : Prop where
  name : isIdentifier (Name.protoPascal e.name)
  constants : ∀ v ∈ e.values, isIdentifier v.identifier

/-- The names of an enumeration can be checked. -/
instance (e : Enumeration) : Decidable (EnumerationNamed e) :=
  decidable_of_iff (isIdentifier (Name.protoPascal e.name) ∧ ∀ v ∈ e.values, isIdentifier v.identifier)
    ⟨fun h => ⟨h.1, h.2⟩, fun h => ⟨h.name, h.constants⟩⟩

/-- There is a file for a linked package: its names are identifiers, and its dependencies can be
imported. -/
structure Generates (g : Generator) (p : Package) : Prop where
  name : isIdentifier (Name.packageName p.name)
  imports : ∀ d ∈ p.dependencies, (g.imports.get? d).isSome
  enums : ∀ e ∈ p.enums, EnumerationNamed e
  structures : ∀ s ∈ p.structures, StructureNamed s

/-- Whether there is a file for a package can be checked. -/
instance (g : Generator) (p : Package) : Decidable (Generates g p) :=
  decidable_of_iff (isIdentifier (Name.packageName p.name) ∧
      (∀ d ∈ p.dependencies, (g.imports.get? d).isSome) ∧
      (∀ e ∈ p.enums, EnumerationNamed e) ∧ ∀ s ∈ p.structures, StructureNamed s)
    ⟨fun h => ⟨h.1, h.2.1, h.2.2.1, h.2.2.2⟩,
      fun h => ⟨h.name, h.imports, h.enums, h.structures⟩⟩

/-! ### When there are declarations -/

/-- An identifier is let through as it is. -/
lemma checked_eq_ok_iff {name result : String} :
    checked name = .ok result ↔ isIdentifier name ∧ result = name := by
  unfold checked
  split <;> rename_i named <;> simp [named, eq_comm (a := name)]

/-- A value is declared exactly when its constant is an identifier. -/
lemma constDecl_eq_ok_iff (v : EnumValue) (d : ConstDecl) :
    constDecl v = .ok d ↔ isIdentifier v.identifier ∧ d = constDeclOf v := by
  simp only [constDecl, bind_eq_ok_iff, checked_eq_ok_iff, pure, Except.pure, Except.ok.injEq]
  constructor
  · rintro ⟨_, ⟨named, rfl⟩, rfl⟩
    exact ⟨named, rfl⟩
  · rintro ⟨named, rfl⟩
    exact ⟨_, ⟨named, rfl⟩, rfl⟩

/-- An enumeration is declared exactly when its names are identifiers. -/
lemma enumDecl_eq_ok_iff (e : Enumeration) (d : EnumDecl) :
    enumDecl e = .ok d ↔ EnumerationNamed e ∧ d = enumDeclOf e := by
  simp only [enumDecl, bind_eq_ok_iff, checked_eq_ok_iff, mapM_eq_ok_iff constDecl_eq_ok_iff, pure,
    Except.pure, Except.ok.injEq]
  constructor
  · rintro ⟨_, ⟨name, rfl⟩, _, ⟨constants, rfl⟩, rfl⟩
    exact ⟨⟨name, constants⟩, rfl⟩
  · rintro ⟨⟨name, constants⟩, rfl⟩
    exact ⟨_, ⟨name, rfl⟩, _, ⟨constants, rfl⟩, rfl⟩

/-- A field is declared exactly when its names are identifiers. -/
lemma fieldDecl_eq_ok_iff (valueTypes : List String) (structure_ : String) (f : Field)
    (d : FieldDecl) :
    fieldDecl valueTypes structure_ f = .ok d ↔ FieldNamed f ∧ d = fieldDeclOf valueTypes f := by
  simp only [fieldDecl, bind_eq_ok_iff, checked_eq_ok_iff]
  by_cases typed : f.type.name = ""
  · -- a field without a type is refused before its type is looked at
    simp only [if_pos typed]
    constructor
    · rintro ⟨_, _, refused⟩
      cases refused
    · rintro ⟨named, _⟩
      exact absurd typed (ne_empty_of_isIdentifier named.type)
  · simp only [if_neg typed, bind_eq_ok_iff, checked_eq_ok_iff, pure, Except.pure,
      Except.ok.injEq]
    constructor
    · rintro ⟨_, ⟨name, rfl⟩, _, ⟨type, _⟩, rfl⟩
      exact ⟨⟨name, type⟩, rfl⟩
    · rintro ⟨⟨name, type⟩, rfl⟩
      exact ⟨_, ⟨name, rfl⟩, _, ⟨type, rfl⟩, rfl⟩

/-- A structure is declared exactly when its names are identifiers. -/
lemma structDecl_eq_ok_iff (valueTypes : List String) (s : Structure) (d : StructDecl) :
    structDecl valueTypes s = .ok d ↔ StructureNamed s ∧ d = structDeclOf valueTypes s := by
  simp only [structDecl, bind_eq_ok_iff, checked_eq_ok_iff,
    mapM_eq_ok_iff (fieldDecl_eq_ok_iff valueTypes s.name), pure, Except.pure, Except.ok.injEq]
  constructor
  · rintro ⟨_, ⟨name, rfl⟩, _, ⟨fields, rfl⟩, rfl⟩
    exact ⟨⟨name, fields⟩, rfl⟩
  · rintro ⟨⟨name, fields⟩, rfl⟩
    exact ⟨_, ⟨name, rfl⟩, _, ⟨fields, rfl⟩, rfl⟩

/-! ### When there are files -/

variable (g : Generator)

/-- A dependency can be imported when it has a path. -/
lemma importPath_eq_ok_iff (package dependency path : String) :
    g.importPath package dependency = .ok path ↔
      (g.imports.get? dependency).isSome ∧ path = (g.imports.get? dependency).getD "" := by
  unfold importPath
  split <;> rename_i h <;> simp [h, eq_comm]

/-- The paths of dependencies that all have one. -/
lemma map_getD_imports {dependencies : List String}
    (found : ∀ d ∈ dependencies, (g.imports.get? d).isSome) :
    dependencies.map (fun d => (g.imports.get? d).getD "") =
      dependencies.filterMap g.imports.get? := by
  induction dependencies with
  | nil => rfl
  | cons d rest ih =>
    obtain ⟨path, eq⟩ := Option.isSome_iff_exists.1 (found d List.mem_cons_self)
    simp [eq, ih fun d mem => found d (List.mem_cons_of_mem _ mem)]

/-- There is a file for a package when it says so. -/
lemma outputFile_eq_ok_iff (clause : String) (p : Package) (f : OutputFile) :
    g.outputFile clause p = .ok f ↔ g.Generates p ∧ f = g.fileOf clause p := by
  simp only [outputFile, sourceFile, bind_eq_ok_iff, checked_eq_ok_iff,
    mapM_eq_ok_iff (g.importPath_eq_ok_iff p.name), mapM_eq_ok_iff enumDecl_eq_ok_iff,
    mapM_eq_ok_iff (structDecl_eq_ok_iff g.valueTypes), pure, Except.pure, Except.ok.injEq]
  constructor
  · rintro ⟨_, ⟨name, rfl⟩, _, ⟨_, ⟨imports, rfl⟩, _, ⟨enums, rfl⟩, _, ⟨structures, rfl⟩, rfl⟩, rfl⟩
    rw [g.map_getD_imports imports]
    exact ⟨⟨name, imports, enums, structures⟩, rfl⟩
  · rintro ⟨⟨name, imports, enums, structures⟩, rfl⟩
    rw [fileOf, ← g.map_getD_imports imports]
    exact ⟨_, ⟨name, rfl⟩, _,
      ⟨_, ⟨imports, rfl⟩, _, ⟨enums, rfl⟩, _, ⟨structures, rfl⟩, rfl⟩, rfl⟩

/-- There are files exactly when the name of the Go package is an identifier and there is one for
each package. -/
lemma generate_eq_ok_iff {packages : List Package} {files : List OutputFile} :
    g.generate packages = .ok files ↔
      ∃ clause, g.packageClause = .ok clause ∧
        (∀ p ∈ g.linker.link packages, g.Generates p) ∧
        files = (g.linker.link packages).map (g.fileOf clause) := by
  simp only [generate, bind_eq_ok_iff, mapM_eq_ok_iff (g.outputFile_eq_ok_iff _)]

/-- The name of the generated package is an identifier. -/
lemma isIdentifier_packageClause {clause : String} (ok : g.packageClause = .ok clause) :
    isIdentifier clause := by
  unfold packageClause at ok
  split at ok
  · obtain ⟨named, rfl⟩ := checked_eq_ok_iff.1 ok
    exact named
  · obtain ⟨_, _, ok⟩ := bind_eq_ok_iff.1 ok
    obtain ⟨named, rfl⟩ := checked_eq_ok_iff.1 ok
    exact named

end Generator

end RecordSchema.Go
