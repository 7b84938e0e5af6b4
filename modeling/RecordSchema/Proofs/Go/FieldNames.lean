import Mathlib
import RecordSchema.Proofs.Batch.Placement
import RecordSchema.Proofs.Go.OutputPaths
import RecordSchema.Proofs.Text.Folding

/-!
# The names of fields

A field has a name in Go and a key in BSON and in JSON, which are its name in the schema after three
conversions. The fields of a structure are told apart by their names in the schema, and that is not
enough: a conversion may take two of them to one, and all primary keys have the one key `_id`. Main
statement: `field_names_distinct_iff`. Names that differ in more than case and separators stay apart.
-/

namespace RecordSchema

/-- The field is a primary key. -/
def Field.isPrimaryKey (f : Field) : Bool :=
  f.type.kind == .primaryKey

/-- The key of a field in BSON. -/
def Field.bsonKey (f : Field) : String :=
  if f.isPrimaryKey then "_id" else Name.snake f.name

/-- The fields of a structure have distinct keys in BSON: there is one primary key at most, the others
are told apart in snake case, and none of them has the key of a primary key. -/
structure Structure.HasBsonKeys (s : Structure) : Prop where
  one_primary : s.fields.countP Field.isPrimaryKey ≤ 1
  others_distinct : ((s.fields.filter (!·.isPrimaryKey)).map fun f => Name.snake f.name).Nodup
  others_apart : ∀ f ∈ s.fields, f.isPrimaryKey → ∀ f' ∈ s.fields, f'.isPrimaryKey = false →
    Name.snake f'.name ≠ "_id"

/-- The keys in BSON are `_id` for each primary key, and the names of the others in snake case. -/
lemma Structure.bsonKeys_perm (s : Structure) :
    (s.fields.map Field.bsonKey).Perm
      (List.replicate (s.fields.countP Field.isPrimaryKey) "_id" ++
        (s.fields.filter (!·.isPrimaryKey)).map fun f => Name.snake f.name) := by
  have apart : s.fields.Perm
      (s.fields.filter Field.isPrimaryKey ++ s.fields.filter (!·.isPrimaryKey)) :=
    (List.filter_append_perm Field.isPrimaryKey s.fields).symm
  have primary : (s.fields.filter Field.isPrimaryKey).map Field.bsonKey =
      List.replicate (s.fields.countP Field.isPrimaryKey) "_id" := by
    rw [List.eq_replicate_iff, List.length_map, List.countP_eq_length_filter]
    refine ⟨rfl, List.forall_mem_map.2 fun f mem => ?_⟩
    exact if_pos (List.mem_filter.1 mem).2
  have others : (s.fields.filter (!·.isPrimaryKey)).map Field.bsonKey =
      (s.fields.filter (!·.isPrimaryKey)).map fun f => Name.snake f.name := by
    apply List.map_congr_left
    intro f mem
    have kept := (List.mem_filter.1 mem).2
    rw [Bool.not_eq_true'] at kept
    rw [Field.bsonKey, kept]
    rfl
  have keys := apart.map Field.bsonKey
  rwa [List.map_append, primary, others] at keys

/-- The BSON keys are distinct when there is one primary key at most and no other field has its key.
-/
lemma Structure.nodup_bsonKey_iff (s : Structure) :
    (s.fields.map Field.bsonKey).Nodup ↔ s.HasBsonKeys := by
  rw [s.bsonKeys_perm.nodup_iff, List.nodup_append, List.nodup_replicate]
  constructor
  · rintro ⟨one, distinct, ne⟩
    refine ⟨one, distinct, fun f mem isKey f' mem' noKey same => ?_⟩
    refine ne "_id" ?_ (Name.snake f'.name) ?_ same.symm
    · rw [List.mem_replicate]
      exact ⟨(List.countP_pos_iff.2 ⟨f, mem, isKey⟩).ne', rfl⟩
    · exact List.mem_map.2 ⟨f', List.mem_filter.2 ⟨mem', by rw [noKey]; rfl⟩, rfl⟩
  · rintro ⟨one, distinct, ne⟩
    refine ⟨one, distinct, fun key inKeys other inOthers same => ?_⟩
    obtain ⟨some, rfl⟩ := List.mem_replicate.1 inKeys
    obtain ⟨f, mem, isKey⟩ := List.countP_pos_iff.1 (Nat.pos_of_ne_zero some)
    obtain ⟨f', kept, rfl⟩ := List.mem_map.1 inOthers
    obtain ⟨mem', noKey⟩ := List.mem_filter.1 kept
    rw [Bool.not_eq_true'] at noKey
    exact ne f mem isKey f' mem' noKey same.symm

/-- Apart from `_id`, the keys in BSON are distinct if the names in snake case are. -/
lemma Structure.nodup_filter_bsonKey (s : Structure)
    (distinct : (s.fields.map fun f => Name.snake f.name).Nodup) :
    ((s.fields.map Field.bsonKey).filter (· != "_id")).Nodup := by
  have keys : ∀ f ∈ s.fields.filter ((· != "_id") ∘ Field.bsonKey),
      f.bsonKey = Name.snake f.name := by
    intro f mem
    have ne := bne_iff_ne.1 (List.mem_filter.1 mem).2
    apply if_neg
    intro isKey
    exact ne (if_pos isKey)
  rw [List.filter_map, List.map_congr_left keys]
  exact (List.filter_sublist.map _).nodup distinct

/-- The structures of a batch have fields with distinct names. -/
lemma fields_nodup_of_packagesOf {documents : List Document} {packages : List Package}
    (ok : packagesOf documents = .ok packages) {p : Package} (inBatch : p ∈ packages)
    {s : Structure} (mem : s ∈ p.structures) : (s.fields.map Field.name).Nodup := by
  obtain ⟨none, _⟩ := packagesOf_eq_ok_iff.1 ok
  have inWalks := (structures_perm ok).mem_iff.1 (List.mem_flatMap.2 ⟨p, inBatch, mem⟩)
  obtain ⟨e, inWalk, declared⟩ := List.mem_filterMap.1 inWalks
  obtain ⟨d, inDocuments, inWalk⟩ := List.mem_flatMap.1 inWalk
  have clean := (Batch.clean_of_faultsOf none).1 d inDocuments
  exact Entry.fields_nodup declared (Document.clean_walk clean e inWalk)

namespace Name

/-- There is no comma in a converted name. -/
lemma comma_notMem_snake {name : String} (named : Go.isIdentifier (pascal name)) :
    ',' ∉ (snake name).toList := by
  intro mem
  have caseless : Text.IsCaseless ',' :=
    Text.isCaseless_of_ascii (by decide) (by decide) (by decide)
  have holds := isIdentifierRest_of_mem_snake named caseless mem (by decide)
  exact absurd holds (by decide)

end Name

/-- Fields that are told apart regardless of case and separators are told apart by what their names are
converted to, if that changes nothing else. -/
lemma Structure.nodup_map_of_folded {s : Structure} {convert : String → String}
    (kept : ∀ f ∈ s.fields, Name.folded (convert f.name) = Name.folded f.name)
    (distinct : (s.fields.map fun f => Name.folded f.name).Nodup) :
    (s.fields.map fun f => convert f.name).Nodup := by
  rw [← List.map_congr_left kept] at distinct
  apply List.Nodup.of_map Name.folded
  rwa [List.map_map]

namespace Go

/-- The key in one of the texts of a tag: what stands before the first comma. -/
def keyOf (text : String) : String :=
  String.ofList (text.toList.takeWhile (· != ','))

/-- The key of a field in BSON, as its tag has it. -/
def FieldDecl.bsonKey (d : FieldDecl) : String :=
  keyOf d.bson

/-- The key of a field in JSON, as its tag has it. -/
def FieldDecl.jsonKey (d : FieldDecl) : String :=
  keyOf d.json

/-- What follows a key from a comma on is not part of it. -/
lemma keyOf_append {key : String} (none : ',' ∉ key.toList) (options : String)
    (behind : options.toList.takeWhile (· != ',') = []) : keyOf (key ++ options) = key := by
  have all : ∀ c ∈ key.toList, (c != ',') = true := by
    intro c mem
    rw [bne_iff_ne]
    rintro rfl
    exact none mem
  rw [keyOf, String.toList_append, List.takeWhile_append_of_pos all, behind, List.append_nil,
    String.ofList_toList]

/-- What a struct takes its names from: it and its fields have the converted names of a structure and
its fields. -/
structure StructDecl.IsNamedAfter (d : StructDecl) (s : Structure) : Prop where
  name : d.name = Name.protoPascal s.name
  names : d.fields.map FieldDecl.name = s.fields.map fun f => Name.pascal f.name
  bsonKeys : d.fields.map FieldDecl.bsonKey = s.fields.map Field.bsonKey
  jsonKeys : d.fields.map FieldDecl.jsonKey = s.fields.map fun f => Name.snake f.name

namespace Generator

variable {g : Generator}

/-- The keys can be read off the tag again. -/
lemma keys_fieldDeclOf (valueTypes : List String) {f : Field} (named : FieldNamed f) :
    (fieldDeclOf valueTypes f).bsonKey = f.bsonKey ∧
      (fieldDeclOf valueTypes f).jsonKey = Name.snake f.name := by
  have noComma := Name.comma_notMem_snake named.name
  have plain : keyOf (Name.snake f.name) = Name.snake f.name := by
    have key := keyOf_append noComma "" rfl
    rwa [String.append_empty] at key
  have optional : keyOf (Name.snake f.name ++ ",omitempty") = Name.snake f.name :=
    keyOf_append noComma ",omitempty" rfl
  have primary : keyOf "_id" = "_id" := by decide
  rw [FieldDecl.bsonKey, FieldDecl.jsonKey, fieldDeclOf, Field.bsonKey, Field.isPrimaryKey]
  cases f.type.kind with
  | normal => exact ⟨plain, plain⟩
  | array => exact ⟨plain, plain⟩
  | optional => exact ⟨optional, optional⟩
  | primaryKey => exact ⟨primary, plain⟩

/-- The declaration of a structure has the names and the keys of its fields. -/
lemma isNamedAfter_structDeclOf (valueTypes : List String) {s : Structure} (named : StructureNamed s) :
    (structDeclOf valueTypes s).IsNamedAfter s := by
  constructor
  case name => rfl
  case names => exact List.map_map
  case bsonKeys =>
    rw [structDeclOf, List.map_map]
    exact List.map_congr_left fun f mem => (keys_fieldDeclOf valueTypes (named.fields f mem)).1
  case jsonKeys =>
    rw [structDeclOf, List.map_map]
    exact List.map_congr_left fun f mem => (keys_fieldDeclOf valueTypes (named.fields f mem)).2

end Generator

/-- Linking a structure changes none of the names that a struct takes from it. -/
lemma StructDecl.IsNamedAfter.of_linkStructure {d : StructDecl} {l : Linker} {s : Structure}
    (named : d.IsNamedAfter (l.linkStructure s)) : d.IsNamedAfter s := by
  have key : ∀ f : Field, (l.linkField f).bsonKey = f.bsonKey := by
    intro f
    unfold Linker.linkField Linker.linkType
    split <;> rfl
  obtain ⟨name, names, bsonKeys, jsonKeys⟩ := named
  rw [Linker.linkStructure, List.map_map] at names bsonKeys jsonKeys
  exact ⟨name, names, bsonKeys.trans (List.map_congr_left fun f _ => key f), jsonKeys⟩

open Generator in
/-- Each struct has the names of a structure and its fields, converted. Its fields have distinct names in
Go and keys in JSON when the names of the fields are distinct after conversion, and distinct keys in BSON
when also at most one of them is a primary key and no other one has its key; the documents make sure of
the names before conversion only. That is enough for names which differ in more than case and
separators, but for the keys in BSON of primary keys. -/
theorem field_names_distinct_iff {documents : List Document} {packages : List Package}
    (ok : packagesOf documents = .ok packages) {g : Generator} {files : List OutputFile}
    (generated : g.generate packages = .ok files) :
    ∀ f ∈ files, ∀ d ∈ f.source.structs, ∃ p ∈ packages, ∃ s ∈ p.structures,
      d.IsNamedAfter s ∧ (s.fields.map Field.name).Nodup ∧
        ((d.fields.map FieldDecl.name).Nodup ↔ (s.fields.map fun f => Name.pascal f.name).Nodup) ∧
        ((d.fields.map FieldDecl.jsonKey).Nodup ↔ (s.fields.map fun f => Name.snake f.name).Nodup) ∧
        ((d.fields.map FieldDecl.bsonKey).Nodup ↔ s.HasBsonKeys) ∧
        ((s.fields.map fun f => Name.folded f.name).Nodup →
          (d.fields.map FieldDecl.name).Nodup ∧ (d.fields.map FieldDecl.jsonKey).Nodup ∧
            ((d.fields.map FieldDecl.bsonKey).filter (· != "_id")).Nodup) := by
  obtain ⟨clause, _, generates, rfl⟩ := (generate_eq_ok_iff g).1 generated
  intro f inFiles d inFile
  obtain ⟨linked, inLinked, rfl⟩ := List.mem_map.1 inFiles
  obtain ⟨p, inBatch, rfl⟩ := List.mem_map.1 inLinked
  obtain ⟨linked, inPackage, rfl⟩ := List.mem_map.1 inFile
  obtain ⟨s, mem, rfl⟩ := List.mem_map.1 inPackage
  have declarable := (generates _ inLinked).structures _ inPackage
  -- Linking changes types only, so the names are those of the structure before it was linked.
  have named := (isNamedAfter_structDeclOf g.valueTypes declarable).of_linkStructure
  have identifiers : ∀ f ∈ s.fields, isIdentifier (Name.pascal f.name) := fun f inFields =>
    (declarable.fields _ (List.mem_map_of_mem inFields)).name
  refine ⟨p, inBatch, s, mem, named, fields_nodup_of_packagesOf ok inBatch mem, ?_, ?_, ?_, ?_⟩
  · rw [named.names]
  · rw [named.jsonKeys]
  · rw [named.bsonKeys, s.nodup_bsonKey_iff]
  · intro distinct
    rw [named.names, named.jsonKeys, named.bsonKeys]
    have names := Structure.nodup_map_of_folded
      (fun f mem => Name.folded_pascal (identifiers f mem)) distinct
    have keys := Structure.nodup_map_of_folded
      (fun f mem => Name.folded_snake (identifiers f mem)) distinct
    exact ⟨names, keys, s.nodup_filter_bsonKey keys⟩

open Generator in
/-- No two fields of a struct for `userPackages` clash. -/
theorem field_names_distinct_userPackages :
    ∃ files, (into "models" none).generate userPackages = .ok files ∧
      ∀ f ∈ files, ∀ d ∈ f.source.structs, (d.fields.map FieldDecl.name).Nodup ∧
        (d.fields.map FieldDecl.jsonKey).Nodup ∧ (d.fields.map FieldDecl.bsonKey).Nodup := by
  have apart : ∀ p ∈ userPackages, ∀ s ∈ p.structures,
      (s.fields.map fun f => Name.folded f.name).Nodup ∧ (s.fields.map Field.bsonKey).Nodup := by
    decide +kernel
  refine ⟨_, generate_userPackages, fun f inFiles d inFile => ?_⟩
  obtain ⟨p, inBatch, s, mem, _, _, _, _, bson, names⟩ :=
    field_names_distinct_iff packagesOf_userBatch generate_userPackages f inFiles d inFile
  obtain ⟨folded, keys⟩ := apart p inBatch s mem
  exact ⟨(names folded).1, (names folded).2.1, bson.2 (s.nodup_bsonKey_iff.1 keys)⟩

/-- A user with two primary keys whose names differ in the separator. -/
def userKeysBatch : List Document :=
  [⟨some (.mapping .bare
      [(.scalar .bare "user", .mapping .bare
        [(.scalar .bare "user_id!", .scalar .bare "string"),
          (.scalar .bare "user-id!", .scalar .bare "string")])]),
      .unknown⟩]

/-- The package of `userKeysBatch`. -/
def userKeysPackage : Package :=
  ⟨"common", [],
    [⟨"user", "", [⟨"user_id", "", .unlinked "string" .primaryKey⟩,
      ⟨"user-id", "", .unlinked "string" .primaryKey⟩]⟩], []⟩

/-- The keys differ, so the batch has a package. -/
lemma packagesOf_userKeysBatch : packagesOf userKeysBatch = .ok [userKeysPackage] := by
  have merged : (Batch.ofDocuments userKeysBatch).merged = [userKeysPackage] := by
    decide +kernel
  rw [packagesOf_eq_ok_iff, merged]
  refine ⟨by decide, ?_⟩
  simp [sortByName, Package.ordered, userKeysPackage]

open Generator in
/-- The struct for `userKeysBatch` has two fields of one name, with one key in BSON and one in JSON. -/
theorem user_keys_clash :
    packagesOf userKeysBatch = .ok [userKeysPackage] ∧
      ∃ files, (into "gen/model" none).generate [userKeysPackage] = .ok files ∧
        ∃ f ∈ files, ∃ d ∈ f.source.structs,
          d.fields.map FieldDecl.name = ["UserID", "UserID"] ∧
            d.fields.map FieldDecl.bsonKey = ["_id", "_id"] ∧
            d.fields.map FieldDecl.jsonKey = ["user_id", "user_id"] ∧
            ¬ (d.fields.map FieldDecl.name).Nodup ∧ ¬ (d.fields.map FieldDecl.bsonKey).Nodup ∧
            ¬ (d.fields.map FieldDecl.jsonKey).Nodup := by
  have generated : (into "gen/model" none).generate [userKeysPackage] =
      .ok (((into "gen/model" none).linker.link [userKeysPackage]).map
        ((into "gen/model" none).fileOf "model")) :=
    (generate_eq_ok_iff _).2 ⟨"model", by decide +kernel, by decide +kernel, rfl⟩
  exact ⟨packagesOf_userKeysBatch, _, generated, by decide +kernel⟩

end Go

end RecordSchema
