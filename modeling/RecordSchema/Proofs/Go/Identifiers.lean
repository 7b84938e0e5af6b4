import Mathlib
import RecordSchema.Proofs.Go.References

/-!
# Declared identifiers

All files share one Go package, and so their declarations share one space of names. Generating keeps
the declarations of the documents, each as often as it was made. Main statement: `identifiers_perm`,
what the files declare are the names of the declarations after conversion, and therefore they are
distinct exactly when the converted names are.
-/

namespace RecordSchema

namespace Go

/-- The names that are declared in a file: types and constants. -/
def SourceFile.identifiers (f : SourceFile) : List String :=
  f.enums.flatMap (fun e => e.name :: e.constants.map ConstDecl.name) ++ f.structs.map StructDecl.name

end Go

/-- The names that an enumeration declares: its type and a constant for each value. -/
def Enumeration.identifiers (e : Enumeration) : List String :=
  Name.protoPascal e.name :: e.values.map fun v => Text.upperString (e.name ++ "_" ++ v.name)

/-- The name that a structure declares. -/
def Structure.identifier (s : Structure) : String :=
  Name.protoPascal s.name

/-- The names that an entry declares: for a sequence its type and a constant for each scalar, for a
mapping its type. -/
def Entry.identifiers (e : Entry) : List String :=
  match e.2 with
  | .sequence _ items =>
    Name.protoPascal e.name ::
      (items.filterMap Node.text?).map fun value => Text.upperString (e.name ++ "_" ++ value)
  | .mapping _ _ => [Name.protoPascal e.name]
  | _ => []

/-- An entry declares what its enumeration and its structure declare. -/
lemma Entry.identifiers_eq (e : Entry) :
    e.identifiers = e.enumeration?.toList.flatMap Enumeration.identifiers ++
      e.structure?.toList.map Structure.identifier := by
  obtain ⟨key, value⟩ := e
  cases value with
  | sequence info items =>
    simp only [identifiers, ← map_name_enumValue items, List.map_map, enumeration?, structure?,
      Node.items?, Node.entries?, Option.map_some, Option.map_none, Option.toList_some,
      Option.toList_none, List.flatMap_singleton, List.map_nil, List.append_nil,
      Enumeration.identifiers]
    rfl
  | _ => rfl

/-- The name of a declared type is an identifier of its entry. -/
lemma Entry.DeclaresType.mem_identifiers {e : Entry} (h : e.DeclaresType) :
    Name.protoPascal e.name ∈ e.identifiers := by
  rw [identifiers_eq, List.mem_append]
  rcases h with mapping | sequence
  · obtain ⟨s, declared, name⟩ := exists_structure_of_isSome mapping
    rw [declared, ← name]
    exact .inr List.mem_cons_self
  · obtain ⟨enum, declared, name⟩ := exists_enumeration_of_isSome sequence
    rw [declared, ← name]
    exact .inl (List.mem_flatMap.2 ⟨enum, List.mem_cons_self, List.mem_cons_self⟩)

/-- The entries of a walk declare what its enumerations and its structures declare. -/
lemma flatMap_identifiers_perm (walk : List Entry) :
    (walk.flatMap Entry.identifiers).Perm
      ((walk.filterMap Entry.enumeration?).flatMap Enumeration.identifiers ++
        (walk.filterMap Entry.structure?).map Structure.identifier) := by
  rw [List.flatMap_congr fun e _ => e.identifiers_eq, List.filterMap_eq_flatMap_toList,
    List.filterMap_eq_flatMap_toList, List.flatMap_assoc, List.map_flatMap]
  exact (List.flatMap_append_perm walk _ _).symm

namespace Go.Generator

variable {g : Generator}

/-- A file declares the identifiers of its package. -/
lemma identifiers_fileOf (clause : String) (p : Package) :
    (g.fileOf clause (g.linker.linkPackage p)).source.identifiers =
      p.enums.flatMap Enumeration.identifiers ++ p.structures.map Structure.identifier := by
  simp only [SourceFile.identifiers, fileOf, Linker.linkPackage, List.map_map, List.flatMap_map]
  congr 1
  apply List.flatMap_congr
  intro e _
  -- linking has put the constant of a value together from the names as they stand in the schema
  simp [enumDeclOf, Linker.assignConstants, Enumeration.identifiers, constDeclOf,
    Linker.assignConstant, EnumValue.identifier, Function.comp_def]

end Go.Generator

namespace Go

open Generator in
/-- The files of a batch declare the names of the declarations of its documents, each as often as it is
declared; so no name is declared twice exactly when these are distinct after conversion. One name for
two types is enough that they are not. -/
theorem identifiers_perm {documents : List Document} {packages : List Package}
    (ok : packagesOf documents = .ok packages) {g : Generator} {files : List OutputFile}
    (generated : g.generate packages = .ok files) :
    (files.flatMap fun f => f.source.identifiers).Perm
        ((documents.flatMap Document.walk).flatMap Entry.identifiers) ∧
      ((files.flatMap fun f => f.source.identifiers).Nodup ↔
        ((documents.flatMap Document.walk).flatMap Entry.identifiers).Nodup) ∧
      ∀ e e', [e, e'].Sublist (documents.flatMap Document.walk) → e.DeclaresType →
        e'.DeclaresType → Name.protoPascal e.name = Name.protoPascal e'.name →
        ¬ (files.flatMap fun f => f.source.identifiers).Nodup := by
  obtain ⟨clause, _, _, rfl⟩ := (generate_eq_ok_iff g).1 generated
  have files : ((g.linker.link packages).map (g.fileOf clause)).flatMap
        (fun f => f.source.identifiers) =
      packages.flatMap fun p =>
        p.enums.flatMap Enumeration.identifiers ++ p.structures.map Structure.identifier := by
    rw [Linker.link, List.map_map, List.flatMap_map]
    exact List.flatMap_congr fun p _ => identifiers_fileOf clause p
  have packages_perm : (packages.flatMap fun p =>
        p.enums.flatMap Enumeration.identifiers ++ p.structures.map Structure.identifier).Perm
      ((packages.flatMap Package.enums).flatMap Enumeration.identifiers ++
        (packages.flatMap Package.structures).map Structure.identifier) := by
    rw [List.flatMap_assoc, List.map_flatMap]
    exact (List.flatMap_append_perm packages _ _).symm
  -- From here on packages do not matter: enums and structures are those of the walks of the documents.
  have documents_perm :=
    ((enums_perm ok).flatMap_right Enumeration.identifiers).append
      ((structures_perm ok).map Structure.identifier)
  have declared := packages_perm.trans (documents_perm.trans (flatMap_identifiers_perm _).symm)
  rw [files]
  refine ⟨declared, declared.nodup_iff, fun e e' inOrder first second same distinct => ?_⟩
  have both := ((inOrder.flatMap Entry.identifiers).nodup (declared.nodup_iff.1 distinct))
  rw [List.flatMap_cons, List.flatMap_singleton, List.nodup_append] at both
  exact both.2.2 _ first.mem_identifiers _ second.mem_identifiers same

open Generator in
/-- In `userBatch` the converted names are distinct, and so are the names that the files declare. -/
theorem identifiers_perm_userBatch :
    ∃ files, (into "models" none).generate userPackages = .ok files ∧
      (files.flatMap fun f => f.source.identifiers).Perm
        ["Tag", "TAG_NEW", "TAG_OLD", "User", "Conf", "Author"] ∧
      (files.flatMap fun f => f.source.identifiers).Nodup := by
  have names : (userBatch.flatMap Document.walk).flatMap Entry.identifiers =
      ["Tag", "TAG_NEW", "TAG_OLD", "User", "Conf", "Author"] := by
    decide +kernel
  have perm := identifiers_perm packagesOf_userBatch generate_userPackages
  rw [names] at perm
  exact ⟨_, generate_userPackages, perm.1, perm.2.1.2 (by decide)⟩

/-- A document with a tag of two values in one structure and a tag with a label in another one. -/
def orderBatch : List Document :=
  [⟨some (.mapping .bare
      [(.scalar .bare "order", .mapping .bare
          [(.scalar .bare "tag", .sequence .bare [.scalar .bare "new", .scalar .bare "old"])]),
        (.scalar .bare "user", .mapping .bare
          [(.scalar .bare "tag", .mapping .bare
            [(.scalar .bare "label", .scalar .bare "string")])])]),
      .unknown⟩]

/-- The package of `orderBatch`, in which `tag` is both an enumeration and a structure. -/
def orderPackage : Package :=
  ⟨"common", [⟨"tag", "", [⟨"new", "", none⟩, ⟨"old", "", none⟩]⟩],
    [⟨"order", "", [⟨"tag", "", .unlinked "tag" .normal⟩]⟩,
      ⟨"tag", "", [⟨"label", "", .unlinked "string" .normal⟩]⟩,
      ⟨"user", "", [⟨"tag", "", .unlinked "tag" .normal⟩]⟩], []⟩

/-- The enumeration and the structure of one name are in one package. -/
lemma packagesOf_orderBatch : packagesOf orderBatch = .ok [orderPackage] := by
  have merged : (Batch.ofDocuments orderBatch).merged = [orderPackage] := by
    decide +kernel
  rw [packagesOf_eq_ok_iff, merged]
  refine ⟨by decide, ?_⟩
  simp [sortByName, Package.ordered, List.mergeSort, orderPackage]

open Generator in
/-- The file for `orderBatch` declares `Tag` twice, as an integer type and as a struct. -/
theorem tag_declared_twice :
    packagesOf orderBatch = .ok [orderPackage] ∧
      ∃ files, (into "gen/model" none).generate [orderPackage] = .ok files ∧
        (files.flatMap fun f => f.source.identifiers) =
          ["Tag", "TAG_NEW", "TAG_OLD", "Order", "Tag", "User"] ∧
        ¬ (files.flatMap fun f => f.source.identifiers).Nodup := by
  have generated : (into "gen/model" none).generate [orderPackage] =
      .ok (((into "gen/model" none).linker.link [orderPackage]).map
        ((into "gen/model" none).fileOf "model")) :=
    (generate_eq_ok_iff _).2 ⟨"model", by decide +kernel, by decide +kernel, rfl⟩
  refine ⟨packagesOf_orderBatch, _, generated, by decide +kernel, by decide +kernel⟩

end Go

end RecordSchema
