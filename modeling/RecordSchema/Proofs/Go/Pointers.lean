import Mathlib
import RecordSchema.Proofs.Go.Tags
import RecordSchema.Proofs.Linking.Dependencies

/-!
# Pointers

The items of an array are pointers unless they have a value type, and which types are value types is looked
up by what is printed. With the types that Go has for the schema this comes to the same as looking up what
the schema says: all of these begin with a small letter, and no name in Pascal case does, whatever it has
been converted from. Main statement: `fields_typed`.
-/

namespace RecordSchema

/-! ### Small letters -/

namespace Text

/-- A text begins with a small letter of ASCII. -/
def beginsSmall (s : List Char) : Bool :=
  s.head?.any Char.isLower

/-- Small letters of ASCII lie in one range. -/
lemma range_of_isLower {c : Char} (small : c.isLower) : 97 ≤ c.toNat ∧ c.toNat ≤ 122 := by
  simpa [Char.isLower, UInt32.le_iff_toNat_le, ← Char.toNat_val] using small

/-- A number that gives a small letter is that of one: what is no code point gives the number 0. -/
lemma range_of_isLower_ofNat {n : Nat} (small : (Char.ofNat n).isLower) : 97 ≤ n ∧ n ≤ 122 := by
  have range := range_of_isLower small
  rw [Char.toNat_ofNat] at range
  split at range
  · exact range
  · omega

/-- No form in upper case begins with a small letter. -/
lemma beginsSmall_upperChar (c : Char) : beginsSmall (upperChar c) = false := by
  have ascii : ∀ n < 128, beginsSmall (upperChar (Char.ofNat n)) = false := by
    decide +kernel
  have expansions : ∀ e ∈ upperExpansions, beginsSmall (e.2.map Char.ofNat) = false := by
    decide +kernel
  have runs : ∀ r ∈ upperRuns, r.target + (r.last - r.first) < 97 ∨ 122 < r.target := by
    decide +kernel
  have single (m : Nat) (large : m < 97 ∨ 122 < m) : beginsSmall [Char.ofNat m] = false := by
    rw [← Bool.not_eq_true]
    intro small
    have range := range_of_isLower_ofNat (n := m) small
    omega
  by_cases isAscii : c.toNat < 128
  · exact forall_ascii (p := fun c => beginsSmall (upperChar c) = false) ascii isAscii
  · rw [upperChar, if_neg isAscii]
    rcases caseForm_cases upperExpansions upperRuns c.toNat with
      listed | ⟨r, inRuns, first, last, form⟩ | form
    · exact expansions _ listed
    · rw [form]
      apply single
      have apart := runs r inRuns
      omega
    · rw [form]
      apply single
      omega

end Text

namespace Name

/-- No name in Pascal case begins with a small letter. -/
lemma beginsSmall_protoPascal (name : String) : Text.beginsSmall (protoPascal name).toList = false := by
  rw [protoPascal, String.toList_ofList, protoPascalChars]
  cases split : words name.toList with
  | nil => rfl
  | cons word rest =>
    have inName : word ∈ words name.toList := by simp [split]
    cases word with
    | nil => simp [words, Text.chunks] at inName
    | cons c more =>
      have begins : (((c :: more) :: rest).flatMap capitalize).head? = (Text.upperChar c).head? := by
        rw [List.flatMap_cons, capitalize, List.append_assoc,
          List.head?_append_of_ne_nil _ (upperChar_ne_nil c)]
      rw [Text.beginsSmall, begins]
      exact Text.beginsSmall_upperChar c

end Name

/-! ### The types of fields -/

namespace Go

/-- The type that a name in the schema stands for, given the types that are mapped. -/
def baseName (types : TypeMap) (raw : String) : String :=
  match types.get? raw with
  | some target => Generator.qualified target.name target.package
  | none => Name.protoPascal raw

/-- A mapped type is named by its target. -/
lemma baseName_of_some {types : TypeMap} {raw : String} {target : TypeTarget}
    (mapped : types.get? raw = some target) :
    baseName types raw = Generator.qualified target.name target.package := by
  rw [baseName, mapped]

/-- A type that is not mapped is named by its own name, converted. -/
lemma baseName_of_none {types : TypeMap} {raw : String} (unmapped : types.get? raw = none) :
    baseName types raw = Name.protoPascal raw := by
  rw [baseName, unmapped]

/-- The type that a field of the schema asks for: a slice for an array, and a pointer for what is
optional and for the items of an array, unless their type is mapped. -/
def typeText (types : TypeMap) (t : FieldType) : String :=
  (if t.kind = .array then "[]" else "") ++
    (if t.kind = .optional ∨ t.kind = .array ∧ types.get? t.raw = none then "*" else "") ++
    baseName types t.raw

/-- A character that may stand in the name of a type, which an identifier may qualify. -/
def isTypeChar (c : Char) : Bool :=
  isIdentifierRest c || c == '.'

/-- The types that Go has for the schema, as they are printed. -/
def builtinNames : List String :=
  ["bool", "time.Time", "float64", "int64", "primitive.ObjectID", "string"]

namespace Generator

variable {g : Generator}

/-- A type that is not mapped is linked to the type that its name in the schema is converted to. -/
lemma name_linkType {t : FieldType} (unmapped : g.typeMap.get? t.raw = none) :
    (g.linker.linkType t).name = Name.protoPascal t.raw := by
  have types : g.linker.typeMap = g.typeMap := rfl
  simp only [Linker.linkType, types, unmapped]
  rfl

/-- A linked type is printed as what its name in the schema stands for. -/
lemma base_typeRef_linkType (valueTypes : List String) (t : FieldType) :
    (typeRef valueTypes (g.linker.linkType t)).base = baseName g.typeMap t.raw := by
  have base : (typeRef valueTypes (g.linker.linkType t)).base =
      qualified (g.linker.linkType t).name (g.linker.linkType t).package := rfl
  have types : g.linker.typeMap = g.typeMap := rfl
  rw [base, g.linker.package_linkType, types]
  cases found : g.typeMap.get? t.raw with
  | none => simp [baseName_of_none found, name_linkType found, qualified]
  | some target => simp [baseName_of_some found, Linker.linkType, types, found,
      FieldType.resolve, FieldType.name]

/-! ### Value types -/

/-- With the built-in types alone the value types are known. -/
lemma valueTypes_eq (builtin : g.typeMap = builtinTypes) : g.valueTypes = builtinNames := by
  rw [valueTypes, builtin]
  decide

/-- The names of value types begin with a small letter. -/
lemma beginsSmall_of_mem_valueTypes (builtin : g.typeMap = builtinTypes) {name : String}
    (mem : name ∈ g.valueTypes) : Text.beginsSmall name.toList := by
  rw [valueTypes_eq builtin] at mem
  revert name
  decide

/-- The value types are what the mapped names stand for, and no other name stands for one of them. -/
lemma baseName_mem_valueTypes_iff (builtin : g.typeMap = builtinTypes) (raw : String) :
    baseName g.typeMap raw ∈ g.valueTypes ↔ (g.typeMap.get? raw).isSome := by
  cases found : g.typeMap.get? raw with
  | none =>
    have notSmall := Name.beginsSmall_protoPascal raw
    simp only [baseName_of_none found, Option.isSome_none, Bool.false_eq_true, iff_false]
    intro mem
    rw [beginsSmall_of_mem_valueTypes builtin mem] at notSmall
    cases notSmall
  | some target =>
    simp only [baseName_of_some found, Option.isSome_some, iff_true]
    exact List.mem_map.2 ⟨(raw, target), Dictionary.mem_entries_of_get? found, rfl⟩

/-- Of the mapped types none and of all others each is a pointer in an array. -/
lemma isPointer_typeRef_linkType (builtin : g.typeMap = builtinTypes) (t : FieldType) :
    (typeRef g.valueTypes (g.linker.linkType t)).isPointer ↔
      t.kind = .optional ∨ t.kind = .array ∧ g.typeMap.get? t.raw = none := by
  have isValue := baseName_mem_valueTypes_iff builtin t.raw
  rw [← base_typeRef_linkType g.valueTypes] at isValue
  simp only [typeRef, Linker.kind_linkType] at isValue ⊢
  cases t.kind <;> simp [isValue]

/-- The type of a field is printed as the field asks for. -/
lemma text_typeRef_linkType (builtin : g.typeMap = builtinTypes) (t : FieldType) :
    (typeRef g.valueTypes (g.linker.linkType t)).text = typeText g.typeMap t := by
  have isSlice : (typeRef g.valueTypes (g.linker.linkType t)).isSlice = (t.kind == .array) := by
    simp only [typeRef, Linker.kind_linkType]
  simp [TypeRef.text, typeText, base_typeRef_linkType, isSlice, isPointer_typeRef_linkType builtin]

/-- Where there is a file, the type of a field has no brackets and no star in its name. -/
lemma plain_baseName (builtin : g.typeMap = builtinTypes) {f : Field}
    (named : FieldNamed (g.linker.linkField f)) :
    (baseName g.typeMap f.type.raw).toList.all isTypeChar := by
  have targets : ∀ e ∈ builtinTypes.entries,
      (qualified e.2.name e.2.package).toList.all isTypeChar := by
    decide
  cases found : g.typeMap.get? f.type.raw with
  | some target =>
    rw [baseName_of_some found]
    rw [builtin] at found
    exact targets (f.type.raw, target) (Dictionary.mem_entries_of_get? found)
  | none =>
    have type : isIdentifier (g.linker.linkType f.type).name := named.type
    rw [name_linkType found] at type
    rw [baseName_of_none found]
    refine List.all_eq_true.2 fun c mem => ?_
    rw [isTypeChar, isIdentifierRest_of_mem type mem]
    rfl

/-- In a file a field is declared with the type that it asks for, and nothing in the name of that type
could be taken for a slice or a pointer. -/
structure OutputFile.Types (f : OutputFile) (field : Field) (d : FieldDecl) : Prop where
  line : HasLine f.contents ("\t" ++ d.name ++ " " ++ d.type.text ++ " " ++ d.tag)
  text : d.type.text = typeText builtinTypes field.type
  plain : (baseName builtinTypes field.type.raw).toList.all isTypeChar

/-- The fields of a package have their types in its file. -/
lemma types_fileOf (builtin : g.typeMap = builtinTypes) {p : Package}
    (generates : g.Generates (g.linker.linkPackage p)) (clause : String) {s : Structure}
    (mem : s ∈ p.structures) {f : Field} (inStruct : f ∈ s.fields) :
    (g.fileOf clause (g.linker.linkPackage p)).Types f
      (fieldDeclOf g.valueTypes (g.linker.linkField f)) := by
  have linked : g.linker.linkStructure s ∈ (g.linker.linkPackage p).structures :=
    List.mem_map_of_mem mem
  have inLinked : g.linker.linkField f ∈ (g.linker.linkStructure s).fields :=
    List.mem_map_of_mem inStruct
  have named := (generates.structures _ linked).fields _ inLinked
  constructor
  case line =>
    exact SourceFile.hasLine_of_field (List.mem_map_of_mem linked) (List.mem_map_of_mem inLinked)
  case text =>
    rw [← builtin]
    exact text_typeRef_linkType builtin f.type
  case plain =>
    rw [← builtin]
    exact plain_baseName builtin named

/-- What relates each field of some packages to its declaration relates all of them, field by field. -/
lemma forall₂_fields {related : OutputFile → Field → FieldDecl → Prop} {packages : List Package}
    {files : List OutputFile} (generated : g.generate packages = .ok files)
    (each : ∀ p : Package, g.Generates (g.linker.linkPackage p) → ∀ clause,
      ∀ s ∈ p.structures, ∀ f ∈ s.fields,
        related (g.fileOf clause (g.linker.linkPackage p)) f
          (fieldDeclOf g.valueTypes (g.linker.linkField f))) :
    List.Forall₂ (fun p f =>
        List.Forall₂ (fun s decl => List.Forall₂ (related f) s.fields decl.fields)
          p.structures f.source.structs)
      packages files := by
  obtain ⟨clause, _, generates, rfl⟩ := (generate_eq_ok_iff g).1 generated
  rw [Linker.link, List.map_map]
  refine forall₂_map fun p inBatch => ?_
  have structs : ((g.fileOf clause ∘ g.linker.linkPackage) p).source.structs =
      p.structures.map (structDeclOf g.valueTypes ∘ g.linker.linkStructure) := List.map_map
  rw [structs]
  refine forall₂_map fun s mem => ?_
  have fields : ((structDeclOf g.valueTypes ∘ g.linker.linkStructure) s).fields =
      s.fields.map (fieldDeclOf g.valueTypes ∘ g.linker.linkField) := List.map_map
  rw [fields]
  exact forall₂_map fun f inStruct =>
    each p (generates _ (List.mem_map_of_mem inBatch)) clause s mem f inStruct

end Generator

open Generator in
/-- With no other types than those that Go has for the schema, each field is declared with the type that it
asks for, field by field: a slice for an array, and a pointer for what is optional and for the items of an
array whose type is not mapped. However a name in the schema is spelled, it stands for a value type only if
it is mapped. -/
theorem fields_typed {g : Generator} (builtin : g.typeMap = builtinTypes) :
    (∀ packages files, g.generate packages = .ok files →
      List.Forall₂ (fun p f =>
          List.Forall₂ (fun s decl => List.Forall₂ f.Types s.fields decl.fields)
            p.structures f.source.structs)
        packages files) ∧
    ∀ t : FieldType,
      (typeRef g.valueTypes (g.linker.linkType t)).base ∈ builtinNames ↔
        (builtinTypes.get? t.raw).isSome := by
  constructor
  · intro packages files generated
    exact forall₂_fields generated fun p generates clause s mem f inStruct =>
      types_fileOf builtin generates clause mem inStruct
  · intro t
    rw [← valueTypes_eq builtin, base_typeRef_linkType, baseName_mem_valueTypes_iff builtin, builtin]

open Generator in
/-- The fields for `userPackages` have their types, of which that of the tag is declared in the schema. A
type that is called like one of Go stands for another one. -/
theorem fields_typed_userPackages :
    (into "models" none).typeMap = builtinTypes ∧
      (∃ files, (into "models" none).generate userPackages = .ok files ∧
        List.Forall₂ (fun p f =>
            List.Forall₂ (fun s decl => List.Forall₂ f.Types s.fields decl.fields)
              p.structures f.source.structs)
          userPackages files) ∧
      typeText builtinTypes (.unlinked "tag" .array) = "[]*Tag" ∧
      (typeRef (into "models" none).valueTypes
          ((into "models" none).linker.linkType (.unlinked "int64" .array))).base ∉
        builtinNames := by
  have typed := fields_typed (g := into "models" none) rfl
  refine ⟨rfl, ⟨_, generate_userPackages, typed.1 _ _ generate_userPackages⟩, ?_, ?_⟩
  · decide +kernel
  · rw [typed.2]
    decide +kernel

end Go

end RecordSchema
