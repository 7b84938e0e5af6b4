import Mathlib
import RecordSchema.Proofs.Go.References
import RecordSchema.Proofs.Text.Folding

/-!
# The tags of fields

A tag is put together from the name of a field in snake case, which is never looked at, while it is the
name in Pascal case that has to be an identifier. That is enough: what a name may hold besides separators
has a plain form in lower case. Main statement: `fields_tagged`.
-/

namespace RecordSchema

/-! ### Keys -/

namespace Name

open Text

/-- What would end a key or the quotes around it, or need an escape. -/
def marks : List Char :=
  ['"', '\x60', '\\', ',', ':']

/-- The character may stand in a key as it is. -/
def isKeyChar (c : Char) : Bool :=
  !marks.contains c && !isBlank c

/-- A key that stands in a tag as it is. -/
structure IsPlainKey (key : String) : Prop where
  nonempty : key ≠ ""
  plain : ∀ c ∈ key.toList, isKeyChar c

variable {name : String} {c : Char}

/-- Every character has a form in upper case. -/
lemma upperChar_ne_nil (c : Char) : upperChar c ≠ [] := by
  have expansions : ∀ e ∈ upperExpansions, e.2 ≠ [] := by
    decide +kernel
  unfold upperChar
  split
  · nofun
  · rw [Ne, List.map_eq_nil_iff]
    rcases caseForm_cases upperExpansions upperRuns c.toNat with listed | ⟨_, _, _, _, form⟩ | form
    · exact expansions _ listed
    · rw [form]
      nofun
    · rw [form]
      nofun

/-- The form in lower case of what may stand in a name may stand in a key. -/
lemma IsNameChar.isKeyChar_of_mem_lowerChar {d : Char} (h : IsNameChar d) (mem : c ∈ lowerChar d) :
    isKeyChar c := by
  have small : ∀ n < 128, (upperChar (Char.ofNat n)).all Go.isIdentifierRest →
      (lowerChar (Char.ofNat n)).all isKeyChar := by
    decide +kernel
  have beyond : ∀ n ∈ foldable, (lowerChar (Char.ofNat n)).all isKeyChar := by
    decide +kernel
  have all : (lowerChar d).all isKeyChar := by
    rcases ascii_or_foldable h.named with ascii | listed
    · have plain := forall_ascii
        (p := fun d => (upperChar d).all Go.isIdentifierRest → (lowerChar d).all isKeyChar) small ascii
      exact plain (List.all_eq_true.2 h.named)
    · have plain := beyond d.toNat listed
      rwa [Char.ofNat_toNat] at plain
  exact List.all_eq_true.1 all c mem

/-- A name in lower case holds nothing that a key may not hold. -/
lemma isKeyChar_of_mem_lowerAfter {before s : List Char}
    (named : ∀ d ∈ s, isSeparator d = false → IsNameChar d) (mem : c ∈ lowerAfter before s) :
    isKeyChar c := by
  induction s generalizing before with
  | nil => cases mem
  | cons d rest ih =>
    rw [List.forall_mem_cons] at named
    rw [lowerAfter, if_neg (ne_sigma_of_named named.1), List.mem_append] at mem
    rcases mem with first | later
    · cases separator : isSeparator d with
      | true =>
        rw [lowerChar_of_isSeparator separator, List.mem_singleton] at first
        subst first
        rw [isSeparator, Bool.or_eq_true, beq_iff_eq, beq_iff_eq] at separator
        rcases separator with rfl | rfl <;> decide
      | false => exact (named.1 separator).isKeyChar_of_mem_lowerChar first
    · exact ih named.2 later

/-- The words of a name that becomes an identifier hold nothing but separators and such characters. -/
lemma isNameChar_of_mem_styledWords (named : Go.isIdentifier (pascal name)) {word : List Char}
    (inName : word ∈ styledWords (clusters name.toList)) (mem : c ∈ word)
    (kept : isSeparator c = false) : IsNameChar c := by
  have inClusters := mem_flatten_styledWords (List.mem_flatten_of_mem inName mem)
  rw [flatten_clusters] at inClusters
  exact isNameChar_of_pascal named inClusters kept

/-- A converted name holds nothing that a key may not hold. -/
lemma isKeyChar_of_mem_snake (named : Go.isIdentifier (pascal name)) (mem : c ∈ (snake name).toList) :
    isKeyChar c := by
  rw [snake, String.toList_ofList, snakeChars] at mem
  rcases mem_of_mem_joinWith mem with between | ⟨word, lowered, inWord⟩
  · rw [List.mem_singleton.1 between]
    decide
  · obtain ⟨word, inName, rfl⟩ := List.mem_map.1 lowered
    exact isKeyChar_of_mem_lowerAfter
      (fun d inForm kept => isNameChar_of_mem_styledWords named inName inForm kept) inWord

/-- A name that becomes an identifier is not made of separators alone. -/
lemma exists_kept_of_pascal (named : Go.isIdentifier (pascal name)) :
    ∃ c ∈ name.toList, isSeparator c = false := by
  by_contra! none
  have separators : ∀ c ∈ name.toList, isSeparator c := by
    intro c mem
    simpa using none c mem
  have empty : pascalChars name.toList = [] := by
    rw [pascalChars, words, chunks_eq_nil_iff.2 separators, List.flatMap_nil]
  exact Go.ne_empty_of_isIdentifier named (by rw [pascal, empty])

/-- The form in snake case of a name that becomes an identifier is a plain key. -/
lemma isPlainKey_snake (named : Go.isIdentifier (pascal name)) : IsPlainKey (snake name) := by
  refine ⟨fun empty => ?_, fun c mem => isKeyChar_of_mem_snake named mem⟩
  -- but for case and separators nothing is lost, and there is something else
  have same := folded_snake named
  rw [empty] at same
  have nothing : upper (name.toList.filter (!isSeparator ·)) = [] :=
    String.ofList_injective same.symm
  obtain ⟨c, mem, kept⟩ := exists_kept_of_pascal named
  rw [upper, List.flatMap_eq_nil_iff] at nothing
  exact upperChar_ne_nil c (nothing c (List.mem_filter.2 ⟨mem, by rw [kept]; rfl⟩))

end Name

/-! ### Tags -/

namespace Go

/-- The tag for a key of a field. -/
def tagText (kind : FieldKind) (key : String) : String :=
  let options := if kind = .optional then ",omitempty" else ""
  let bson := if kind = .primaryKey then "_id" else key ++ options
  "\x60bson:\"" ++ bson ++ "\" json:\"" ++ key ++ options ++ "\"\x60"

/-- In a file a field is declared with the tag that its name and its kind ask for. -/
structure Generator.OutputFile.Tags (f : Generator.OutputFile) (field : Field) (d : FieldDecl) :
    Prop where
  name : d.name = Name.pascal field.name
  line : HasLine f.contents ("\t" ++ d.name ++ " " ++ d.type.text ++ " " ++ d.tag)
  tag : d.tag = tagText field.type.kind (Name.snake field.name)
  key : Name.IsPlainKey (Name.snake field.name)

end Go

/-- Linking a type does not change its kind. -/
lemma Linker.kind_linkType (l : Linker) (t : FieldType) : (l.linkType t).kind = t.kind := by
  unfold linkType
  split <;> rfl

/-- Linking a field changes neither its name nor its kind. -/
lemma Linker.kind_linkField (l : Linker) (f : Field) : (l.linkField f).type.kind = f.type.kind :=
  l.kind_linkType f.type

namespace Go

namespace Generator

variable {g : Generator}

/-- The tag of a field is written as its kind asks for. -/
lemma tag_fieldDeclOf (valueTypes : List String) (f : Field) :
    (fieldDeclOf valueTypes f).tag = tagText f.type.kind (Name.snake f.name) := by
  rw [FieldDecl.tag, fieldDeclOf, tagText]
  cases f.type.kind <;> simp [tagKeys, String.append_assoc]

/-- The fields of a package are tagged in its file. -/
lemma tags_fileOf {p : Package} (generates : g.Generates (g.linker.linkPackage p)) (clause : String)
    {s : Structure} (mem : s ∈ p.structures) {f : Field} (inStruct : f ∈ s.fields) :
    (g.fileOf clause (g.linker.linkPackage p)).Tags f
      (fieldDeclOf g.valueTypes (g.linker.linkField f)) := by
  have linked : g.linker.linkStructure s ∈ (g.linker.linkPackage p).structures :=
    List.mem_map_of_mem mem
  have inLinked : g.linker.linkField f ∈ (g.linker.linkStructure s).fields :=
    List.mem_map_of_mem inStruct
  have named : isIdentifier (Name.pascal f.name) :=
    ((generates.structures _ linked).fields _ inLinked).name
  constructor
  case name => rfl
  case line =>
    exact SourceFile.hasLine_of_field (List.mem_map_of_mem linked) (List.mem_map_of_mem inLinked)
  case tag =>
    rw [tag_fieldDeclOf, Linker.kind_linkField]
    rfl
  case key => exact Name.isPlainKey_snake named

end Generator

/-- A list is related item by item to its image when each of its items is. -/
lemma forall₂_map {α β : Type} {related : α → β → Prop} {convert : α → β} {items : List α}
    (each : ∀ x ∈ items, related x (convert x)) : List.Forall₂ related items (items.map convert) := by
  rwa [List.forall₂_map_right_iff, List.forall₂_same]

open Generator in
/-- Field by field, what is generated for some packages has tags of the one form in which Go reads them:
a key in BSON and one in JSON, which are plain whatever the fields are called. -/
theorem fields_tagged {g : Generator} {packages : List Package} {files : List OutputFile}
    (generated : g.generate packages = .ok files) :
    List.Forall₂ (fun p f =>
        List.Forall₂ (fun s decl => List.Forall₂ f.Tags s.fields decl.fields)
          p.structures f.source.structs)
      packages files := by
  obtain ⟨clause, _, generates, rfl⟩ := (generate_eq_ok_iff g).1 generated
  rw [Linker.link, List.map_map]
  refine forall₂_map fun p inBatch => ?_
  have structs : ((g.fileOf clause ∘ g.linker.linkPackage) p).source.structs =
      p.structures.map (structDeclOf g.valueTypes ∘ g.linker.linkStructure) := List.map_map
  rw [structs]
  refine forall₂_map fun s mem => ?_
  have fields : ((structDeclOf g.valueTypes ∘ g.linker.linkStructure) s).fields =
      s.fields.map (fieldDeclOf g.valueTypes ∘ g.linker.linkField) := List.map_map
  rw [fields]
  exact forall₂_map fun f inStruct =>
    tags_fileOf (generates _ (List.mem_map_of_mem inBatch)) clause mem inStruct

open Generator in
/-- The fields for `userPackages` are tagged. -/
theorem fields_tagged_userPackages :
    ∃ files, (into "models" none).generate userPackages = .ok files ∧
      List.Forall₂ (fun p f =>
          List.Forall₂ (fun s decl => List.Forall₂ f.Tags s.fields decl.fields)
            p.structures f.source.structs)
        userPackages files :=
  ⟨_, generate_userPackages, fields_tagged generate_userPackages⟩

end Go

end RecordSchema
