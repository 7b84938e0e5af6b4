import Mathlib
import RecordSchema.Proofs.Batch.Canonical
import RecordSchema.Proofs.Files.Writing
import RecordSchema.Proofs.Go.Generation

/-!
# Where files are written

Each package has one file in the output directory, and its name is the converted name of the package.
Packages are told apart by their names as they stand in the schema, and conversion may take two of them
to one: then there are two files of one path, and what is written last remains. Main statement:
`output_paths_distinct_iff`.
-/

namespace RecordSchema.Go

/-- An identifier with an extension is a name in a directory. -/
lemma isName_of_isIdentifier {name : String} (h : isIdentifier name) :
    Path.IsName (name ++ ".go") := by
  have longer : ∀ other : String, other.length ≤ 2 → name ++ ".go" ≠ other := by
    rintro other short rfl
    have extension : ".go".length = 3 := by decide
    rw [String.length_append] at short
    omega
  constructor
  case ne_empty => exact longer "" (by decide)
  case ne_here => exact longer "." (by decide)
  case ne_above => exact longer ".." (by decide)
  case no_slash =>
    rw [String.toList_append, List.mem_append]
    rintro (inName | inExtension)
    · exact absurd (isIdentifierRest_of_mem h inName) (by decide)
    · exact absurd inExtension (by decide)

namespace Generator

variable {g : Generator} {packages : List Package} {files : List OutputFile}

/-! ### Paths -/

/-- The path of the file for a converted name. -/
def pathOf (g : Generator) (name : String) : String :=
  Path.join g.out (name ++ ".go")

/-- Different identifiers have different paths. -/
lemma pathOf_inj {name other : String} (h : isIdentifier name) (h' : isIdentifier other)
    (same : g.pathOf name = g.pathOf other) : name = other := by
  have eq := Path.join_inj (isName_of_isIdentifier h) (isName_of_isIdentifier h') same
  simpa using eq

/-- The paths of different identifiers are apart from each other in every tree. -/
lemma apart_pathOf {name other : String} (h : isIdentifier name) (h' : isIdentifier other)
    (ne : name ≠ other) : FileTree.Apart (g.pathOf name) (g.pathOf other) := by
  apply FileTree.apart_join (isName_of_isIdentifier h) (isName_of_isIdentifier h')
  simpa using ne

/-- The names of files that have been generated are identifiers. -/
lemma isIdentifier_of_generate (ok : g.generate packages = .ok files) :
    ∀ name ∈ packages.map fun p => Name.packageName p.name, isIdentifier name := by
  obtain ⟨_, _, generates, _⟩ := (generate_eq_ok_iff g).1 ok
  rw [List.forall_mem_map]
  intro p mem
  exact (generates _ (List.mem_map_of_mem mem)).name

/-- Each package has the path of its converted name. -/
lemma map_path_of_generate (ok : g.generate packages = .ok files) :
    files.map OutputFile.path = (packages.map fun p => Name.packageName p.name).map g.pathOf := by
  obtain ⟨_, _, _, rfl⟩ := (generate_eq_ok_iff g).1 ok
  simp [Linker.link, fileOf, pathOf, Linker.linkPackage]

/-- Paths are distinct exactly when the names are. -/
lemma nodup_map_pathOf {names : List String} (identifiers : ∀ name ∈ names, isIdentifier name) :
    (names.map g.pathOf).Nodup ↔ names.Nodup := by
  constructor
  · exact List.Nodup.of_map _
  · apply List.Nodup.map_on
    intro name mem other mem' same
    exact pathOf_inj (identifiers name mem) (identifiers other mem') same

/-- The files are for names in the output directory. -/
def Named (g : Generator) (files : List OutputFile) : Prop :=
  ∀ f ∈ files, ∃ name, isIdentifier name ∧ f.path = g.pathOf name

/-- What has been generated is named by identifiers. -/
lemma named_of_generate (ok : g.generate packages = .ok files) : g.Named files := by
  intro f mem
  have path := List.mem_map_of_mem (f := OutputFile.path) mem
  rw [map_path_of_generate ok] at path
  obtain ⟨name, converted, eq⟩ := List.mem_map.1 path
  exact ⟨name, isIdentifier_of_generate ok name converted, eq.symm⟩

/-- Two different paths of named files are apart from each other. -/
lemma Named.apart (named : g.Named files) {f f' : OutputFile} (mem : f ∈ files) (mem' : f' ∈ files)
    (ne : f.path ≠ f'.path) : FileTree.Apart f.path f'.path := by
  obtain ⟨name, h, eq⟩ := named f mem
  obtain ⟨name', h', eq'⟩ := named f' mem'
  rw [eq, eq'] at ne ⊢
  exact apart_pathOf h h' fun same => ne (congrArg g.pathOf same)

/-- Two files have one path, or their paths never lead to the same location. -/
lemma apart_of_generate (ok : g.generate packages = .ok files) :
    ∀ f ∈ files, ∀ f' ∈ files, f.path ≠ f'.path → FileTree.Apart f.path f'.path :=
  fun _ mem _ mem' ne => (named_of_generate ok).apart mem mem' ne

/-! ### Writing files one after the other -/

/-- What is read at a path is left by files with paths apart from it. -/
lemma read_of_writeFiles_of_apart {t t' : FileTree} {path text : String}
    (written : writeFiles t files = (t', .ok ()))
    (apart : ∀ f ∈ files, FileTree.Apart f.path path) (before : t.read path = .ok text) :
    t'.read path = .ok text := by
  induction files generalizing t with
  | nil =>
    cases written
    exact before
  | cons f rest ih =>
    rw [writeFiles] at written
    rw [List.forall_mem_cons] at apart
    split at written
    · rename_i ok
      exact ih written apart.2 (FileTree.read_of_write_of_apart apart.1 ok before)
    · cases written

/-- The files at the end are written where the others have been. -/
lemma writeFiles_append {t t' : FileTree} {before after : List OutputFile}
    (written : writeFiles t (before ++ after) = (t', .ok ())) :
    ∃ between, writeFiles between after = (t', .ok ()) := by
  induction before generalizing t with
  | nil => exact ⟨t, written⟩
  | cons f rest ih =>
    rw [List.cons_append, writeFiles] at written
    split at written
    · exact ih written
    · cases written

/-- The last one of the files with a path is read there. -/
lemma read_of_writeFiles {t t' : FileTree} (written : writeFiles t files = (t', .ok ()))
    {before after : List OutputFile} {f : OutputFile} (split : files = before ++ f :: after)
    (apart : ∀ later ∈ after, FileTree.Apart later.path f.path) :
    t'.read f.path = .ok f.contents := by
  subst split
  obtain ⟨between, written⟩ := writeFiles_append written
  rw [writeFiles] at written
  split at written
  · rename_i ok
    exact read_of_writeFiles_of_apart written apart (FileTree.read_of_write ok)
  · cases written

/-- A run succeeds when there are files, a directory for them, and all of them can be written. -/
lemma run_eq_ok_iff {t t' : FileTree} {paths : List String} :
    g.run packages t = (t', .ok paths) ↔
      ∃ files start, g.generate packages = .ok files ∧ t.makeDirectories g.out = (start, none) ∧
        writeFiles start files = (t', .ok ()) ∧ paths = files.map OutputFile.path := by
  unfold run
  cases g.generate packages with
  | error e => simp
  | ok files =>
    simp only [Except.ok.injEq, exists_and_left, exists_eq_left']
    unfold write
    obtain ⟨start, failure⟩ := t.makeDirectories g.out
    cases failure with
    | some e => simp
    | none =>
      simp only [Prod.mk.injEq, and_true, exists_eq_left']
      obtain ⟨after, outcome⟩ := writeFiles start files
      cases outcome <;> simp [eq_comm]

end Generator

open Generator in
/-- The files of some packages have distinct paths exactly when the converted names of the packages are
distinct. After a run each path holds the last one of the files that have it, so nothing is lost if
the converted names are distinct. -/
theorem output_paths_distinct_iff {g : Generator} {packages : List Package}
    {files : List OutputFile} (generated : g.generate packages = .ok files) :
    ((files.map OutputFile.path).Nodup ↔
        (packages.map fun p => Name.packageName p.name).Nodup) ∧
      ∀ t t' paths, g.run packages t = (t', .ok paths) →
        paths = files.map OutputFile.path ∧
          (∀ before f after, files = before ++ f :: after →
            (∀ later ∈ after, later.path ≠ f.path) → t'.read f.path = .ok f.contents) ∧
          ((packages.map fun p => Name.packageName p.name).Nodup →
            ∀ f ∈ files, t'.read f.path = .ok f.contents) := by
  have distinct : (files.map OutputFile.path).Nodup ↔
      (packages.map fun p => Name.packageName p.name).Nodup := by
    rw [map_path_of_generate generated]
    exact nodup_map_pathOf (isIdentifier_of_generate generated)
  refine ⟨distinct, fun t t' paths ok => ?_⟩
  obtain ⟨_, start, generated', _, written, rfl⟩ := run_eq_ok_iff.1 ok
  cases generated.symm.trans generated'
  have last_read : ∀ before f after, files = before ++ f :: after →
      (∀ later ∈ after, later.path ≠ f.path) → t'.read f.path = .ok f.contents := by
    intro before f after split last
    have inFiles : ∀ f' ∈ f :: after, f' ∈ files := by
      intro f' mem
      rw [split]
      exact List.mem_append_right before mem
    apply read_of_writeFiles written split
    intro later mem
    exact apart_of_generate generated later (inFiles later (List.mem_cons_of_mem f mem)) f
      (inFiles f List.mem_cons_self) (last later mem)
  refine ⟨rfl, last_read, fun names f mem => ?_⟩
  obtain ⟨before, after, split⟩ := List.append_of_mem mem
  apply last_read before f after split
  -- no two paths are the same, so this file is the only one with its path
  have nodup := distinct.2 names
  rw [split, List.map_append, List.nodup_append, List.map_cons, List.nodup_cons] at nodup
  intro later inAfter same
  exact nodup.2.1.1 (same ▸ List.mem_map_of_mem inAfter)

/-- The packages of the user and of what is shared have a file each. -/
lemma Generator.generate_userPackages : (into "models" none).generate userPackages =
    .ok (((into "models" none).linker.link userPackages).map
      ((into "models" none).fileOf "models")) :=
  (generate_eq_ok_iff _).2 ⟨"models", by decide +kernel, by decide +kernel, rfl⟩

open Generator in
/-- The packages of `userBatch` have two files, and both of them are there after a run. -/
theorem output_paths_distinct_userPackages :
    ∃ files t', (into "models" none).generate userPackages = .ok files ∧
      (into "models" none).run userPackages (.ofWorking ["home"]) =
        (t', .ok ["models/common.go", "models/user.go"]) ∧
      ∀ f ∈ files, t'.read f.path = .ok f.contents := by
  have paths : ((into "models" none).run userPackages (.ofWorking ["home"])).2 =
      .ok ["models/common.go", "models/user.go"] := by
    decide +kernel
  have ran := Prod.mk.eta.symm.trans (congrArg (Prod.mk _) paths)
  refine ⟨_, _, generate_userPackages, ran, ?_⟩
  exact ((output_paths_distinct_iff generate_userPackages).2 _ _ _ ran).2.2 (by decide +kernel)

/-- Two documents whose packages are told apart by a separator only. -/
def infoBatch : List Document :=
  [⟨some (.mapping .bare
      [(.scalar .bare "user_info", .mapping .bare [(.scalar .bare "id!", .scalar .bare "string")])]),
      ⟨some "user_info", none, none, none⟩⟩,
    ⟨some (.mapping .bare
      [(.scalar .bare "user-info", .mapping .bare
        [(.scalar .bare "phone", .scalar .bare "string")])]),
      ⟨some "user-info", none, none, none⟩⟩]

/-- The package of the second document. -/
def phonePackage : Package :=
  ⟨"user-info", [], [⟨"user-info", "", [⟨"phone", "", .unlinked "string" .normal⟩]⟩], []⟩

/-- The package of the first document. -/
def idPackage : Package :=
  ⟨"user_info", [], [⟨"user_info", "", [⟨"id", "", .unlinked "string" .primaryKey⟩]⟩], []⟩

/-- The two names differ, so there are two packages. -/
lemma packagesOf_infoBatch : packagesOf infoBatch = .ok [phonePackage, idPackage] := by
  have merged : (Batch.ofDocuments infoBatch).merged = [idPackage, phonePackage] := by
    decide +kernel
  rw [packagesOf_eq_ok_iff, merged]
  refine ⟨by decide, ?_⟩
  simp [sortByName, Package.ordered, List.mergeSort, phonePackage, idPackage]

namespace Generator

/-- The file of one of these packages. -/
def infoFile (p : Package) : OutputFile :=
  (into "gen/model" none).fileOf "model" ((into "gen/model" none).linker.linkPackage p)

/-- Both packages have a file. -/
lemma generate_infoBatch : (into "gen/model" none).generate [phonePackage, idPackage] =
    .ok [infoFile phonePackage, infoFile idPackage] :=
  (generate_eq_ok_iff _).2 ⟨"model", by decide +kernel, by decide +kernel, rfl⟩

/-- The two files are different texts. -/
lemma contents_infoFile : (infoFile phonePackage).contents ≠ (infoFile idPackage).contents := by
  decide +kernel

/-- Two packages of different names with one path: a run succeeds, and the file of the first one is not
there after it. -/
theorem user_info_overwritten :
    packagesOf infoBatch = .ok [phonePackage, idPackage] ∧ phonePackage.name ≠ idPackage.name ∧
      (into "gen/model" none).generate [phonePackage, idPackage] =
        .ok [infoFile phonePackage, infoFile idPackage] ∧
      (infoFile phonePackage).path = (infoFile idPackage).path ∧
      ∃ t', (into "gen/model" none).run [phonePackage, idPackage] (.ofWorking ["home"]) =
          (t', .ok ["gen/model/userInfo.go", "gen/model/userInfo.go"]) ∧
        t'.read "gen/model/userInfo.go" ≠ .ok (infoFile phonePackage).contents := by
  have paths : ((into "gen/model" none).run [phonePackage, idPackage] (.ofWorking ["home"])).2 =
      .ok ["gen/model/userInfo.go", "gen/model/userInfo.go"] := by
    decide +kernel
  have ran := Prod.mk.eta.symm.trans (congrArg (Prod.mk _) paths)
  refine ⟨packagesOf_infoBatch, by decide, generate_infoBatch, by decide +kernel, _, ran, ?_⟩
  obtain ⟨_, start, generated, _, written, _⟩ := run_eq_ok_iff.1 ran
  cases generate_infoBatch.symm.trans generated
  -- the second file is the last one, and it has the path of the first one
  have path : (infoFile idPackage).path = "gen/model/userInfo.go" := by decide +kernel
  have split : [infoFile phonePackage, infoFile idPackage] =
      [infoFile phonePackage] ++ infoFile idPackage :: [] := rfl
  have second := read_of_writeFiles written split (by simp)
  rw [path] at second
  intro first
  exact contents_infoFile (Except.ok.inj (first.symm.trans second))

end Generator

end RecordSchema.Go
