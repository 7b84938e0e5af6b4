import Mathlib
import RecordSchema.Command.Run

/-!
# Linking again

A linker reads what is declared and nothing that a linker has written: the resolutions of types, the
constants of values, the dependencies. Main statements: `linkPackage_unlink`, linking does not read
these, `unlink_linkPackage`, linking writes nothing else, and `link_forgets`, of several linkings the
last one counts, also where sources are generated from packages that have been linked before.
-/

namespace RecordSchema

/-! ### What linking writes -/

/-- The type without what linking found. So below for all that holds types or constants. -/
def FieldType.unlink (t : FieldType) : FieldType :=
  { t with resolution := .unresolved }

/-- The field with its type not linked. -/
def Field.unlink (f : Field) : Field :=
  { f with type := f.type.unlink }

/-- The structure with none of its fields linked. -/
def Structure.unlink (s : Structure) : Structure :=
  { s with fields := s.fields.map Field.unlink }

/-- The value without a constant. -/
def EnumValue.unlink (v : EnumValue) : EnumValue :=
  { v with constant := none }

/-- The enumeration without constants. -/
def Enumeration.unlink (e : Enumeration) : Enumeration :=
  { e with values := e.values.map EnumValue.unlink }

/-- The package without all that linking writes. -/
def Package.unlink (p : Package) : Package :=
  { p with
    enums := p.enums.map Enumeration.unlink
    structures := p.structures.map Structure.unlink
    dependencies := [] }

namespace Linker

variable (l : Linker)

/-! ### Linking does not read it -/

/-- A type is linked by its name in the schema, whatever was found before. -/
@[simp]
lemma linkType_unlink (t : FieldType) : l.linkType t.unlink = l.linkType t := by
  simp only [linkType, FieldType.unlink, FieldType.resolve]

/-- A field is linked anew, whatever was found before. -/
@[simp]
lemma linkField_unlink (f : Field) : l.linkField f.unlink = l.linkField f := by
  simp [linkField, Field.unlink]

/-- A structure is linked anew, whatever was found before. -/
@[simp]
lemma linkStructure_unlink (s : Structure) : l.linkStructure s.unlink = l.linkStructure s := by
  simp [linkStructure, Structure.unlink, Function.comp_def]

/-- Constants are assigned anew, whatever they were before. -/
@[simp]
lemma assignConstants_unlink (e : Enumeration) : assignConstants e.unlink = assignConstants e := by
  simp [assignConstants, Enumeration.unlink, assignConstant, EnumValue.unlink, Function.comp_def]

/-- The support packages of a structure do not depend on what was found before. -/
@[simp]
lemma supportPackages_unlink (s : Structure) :
    l.supportPackages s.unlink = l.supportPackages s := by
  simp [supportPackages, Structure.unlink, List.filterMap_map, Function.comp_def, Field.unlink,
    FieldType.unlink]

/-- A package is linked by what it declares. -/
lemma linkPackage_unlink (p : Package) : l.linkPackage p.unlink = l.linkPackage p := by
  simp [linkPackage, Package.unlink, dependencies, List.flatMap_map, Function.comp_def]

/-! ### Linking writes nothing else -/

/-- Linking a type writes nothing but what it found. -/
@[simp]
lemma unlink_linkType (t : FieldType) : (l.linkType t).unlink = t.unlink := by
  unfold linkType
  split <;> rfl

/-- Linking a field writes nothing but what it found for the type. -/
@[simp]
lemma unlink_linkField (f : Field) : (l.linkField f).unlink = f.unlink := by
  simp [linkField, Field.unlink]

/-- Linking a structure writes nothing but what it found for its fields. -/
@[simp]
lemma unlink_linkStructure (s : Structure) : (l.linkStructure s).unlink = s.unlink := by
  simp [linkStructure, Structure.unlink, Function.comp_def]

/-- Assigning constants writes nothing but constants. -/
@[simp]
lemma unlink_assignConstants (e : Enumeration) : (assignConstants e).unlink = e.unlink := by
  simp [assignConstants, Enumeration.unlink, assignConstant, EnumValue.unlink, Function.comp_def]

/-- Linking keeps all that a package declares. -/
lemma unlink_linkPackage (p : Package) : (l.linkPackage p).unlink = p.unlink := by
  simp [linkPackage, Package.unlink, Function.comp_def]

/-! ### Several linkings -/

/-- Nothing is left of a linking once a package is linked again. -/
lemma linkPackage_linkPackage (l₁ l₂ : Linker) (p : Package) :
    l₂.linkPackage (l₁.linkPackage p) = l₂.linkPackage p := by
  calc
    l₂.linkPackage (l₁.linkPackage p) = l₂.linkPackage (l₁.linkPackage p).unlink :=
      (l₂.linkPackage_unlink _).symm
    _ = l₂.linkPackage p.unlink := by rw [unlink_linkPackage]
    _ = l₂.linkPackage p := l₂.linkPackage_unlink p

/-- Of two linkings one after the other the second one decides. -/
lemma link_link (l₁ l₂ : Linker) (packages : List Package) :
    l₂.link (l₁.link packages) = l₂.link packages := by
  simp only [link, List.map_map, Function.comp_def, linkPackage_linkPackage]

end Linker

/-- The files of packages do not depend on how these were linked before. -/
lemma Go.Generator.generate_link (g : Go.Generator) (l : Linker) (packages : List Package) :
    g.generate (l.link packages) = g.generate packages := by
  simp only [generate, Linker.link_link]

/-- Linking depends on nothing that an earlier linking has left behind, and it changes nothing but
resolutions, constants and dependencies. So generated files are the same for packages that have been
linked before, and for those that an inspection shows linked. -/
theorem link_forgets (l₁ l₂ : Linker) (packages : List Package) :
    l₂.link (l₁.link packages) = l₂.link packages ∧
      (l₁.link packages).map Package.unlink = packages.map Package.unlink ∧
      (∀ g : Go.Generator, g.generate (l₁.link packages) = g.generate packages) ∧
      ∀ (t : FileTree) (s : Settings) (json : Bool) (out : Option String),
        ∃ shown : List Package,
          Command.perform t s packages (.inspect json true) =
              (t, .ok (Command.inspection json shown)) ∧
            Command.perform t s shown (.generate out) =
              Command.perform t s packages (.generate out) := by
  refine ⟨Linker.link_link l₁ l₂ packages, ?_, fun g => g.generate_link l₁ packages, ?_⟩
  · simp only [Linker.link, List.map_map, Function.comp_def, Linker.unlink_linkPackage]
  · intro t s json out
    refine ⟨(Command.inspectionLinker s).link packages, rfl, ?_⟩
    simp only [Command.perform, Command.generate, Go.Generator.run, Go.Generator.generate_link]

end RecordSchema
