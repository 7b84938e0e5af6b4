import Mathlib
import RecordSchema.Proofs.Document.Decoding
import RecordSchema.Proofs.Source.Building

/-!
# Loading schema directories

A schema directory is loaded file by file in the order of its manifest, and a file document by document in
the order of its text. Either all documents of all files are there, or there is only the failure that comes
first in this order. Main statement: `loadPath_manifest`.
-/

namespace RecordSchema

open Yaml

/-! ### Texts -/

/-- A text reads as documents: they are what its events write down, and none of these is an alias. -/
inductive Reads (text : String) : List Node → Prop where
  | intro {events} :
    Event.ofText text.toList = .ok events →
    (∀ e ∈ events, e.value.isAlias = false) →
    Reads text (documentsOf (.ofText text) events)

/-- A text does not read as documents: it is no YAML, or it has an alias, of which the first is reported. -/
inductive Misreads (text : String) : ReadError → Prop where
  | malformed {cause} :
    Event.ofText text.toList = .error cause →
    Misreads text (.malformed cause)
  | aliases {before e after} :
    Event.ofText text.toList = .ok (before ++ e :: after) →
    e.value.isAlias →
    (∀ earlier ∈ before, earlier.value.isAlias = false) →
    Misreads text (.aliases e.mark.line)

/-- Events are without aliases, or there is a first one. -/
lemma own_or_exists_alias (events : List (Located Event)) :
    (∀ e ∈ events, e.value.isAlias = false) ∨
      ∃ before e after, events = before ++ e :: after ∧ e.value.isAlias ∧
        ∀ earlier ∈ before, earlier.value.isAlias = false := by
  cases found : events.find? (·.value.isAlias) with
  | none =>
    left
    simpa using found
  | some e =>
    obtain ⟨isAlias, before, after, split, own⟩ := List.find?_eq_some_iff_append.1 found
    right
    exact ⟨before, e, after, split, isAlias, by simpa using own⟩

/-- A text is read exactly when it has events and no aliases. -/
lemma readDocuments_eq_ok_iff {text : String} {nodes : List Node} :
    readDocuments text = .ok nodes ↔ Reads text nodes := by
  constructor
  · intro reads
    rw [readDocuments] at reads
    cases ok : Event.ofText text.toList with
    | error cause => simp [ok] at reads
    | ok events =>
      rcases own_or_exists_alias events with own | ⟨before, e, after, rfl, isAlias, own⟩
      · obtain rfl : documentsOf (.ofText text) events = nodes := by
          simpa [ok, firstAlias?_eq_none own] using reads
        exact .intro ok own
      · simp [ok, firstAlias?_eq_some own isAlias] at reads
  · rintro ⟨ok, own⟩
    simp [readDocuments, ok, firstAlias?_eq_none own]

/-- A text is not read for its syntax or for its first alias. -/
lemma readDocuments_eq_error_iff {text : String} {cause : ReadError} :
    readDocuments text = .error cause ↔ Misreads text cause := by
  constructor
  · intro failed
    rw [readDocuments] at failed
    cases ok : Event.ofText text.toList with
    | error cause' =>
      obtain rfl : .malformed cause' = cause := by simpa [ok] using failed
      exact .malformed ok
    | ok events =>
      rcases own_or_exists_alias events with own | ⟨before, e, after, rfl, isAlias, own⟩
      · simp [ok, firstAlias?_eq_none own] at failed
      · obtain rfl : .aliases e.mark.line = cause := by
          simpa [ok, firstAlias?_eq_some own isAlias] using failed
        exact .aliases ok isAlias own
  · rintro (malformed | ⟨ok, isAlias, own⟩)
    · simp [readDocuments, malformed]
    · simp [readDocuments, ok, firstAlias?_eq_some own isAlias]

/-! ### Files -/

/-- Where the document comes from that a node of a file is decoded to, given the number of the node. -/
def originIn (path : String) (n : Node × Nat) : Origin :=
  ⟨path, n.2.toUInt64, n.1.info.position⟩

/-- A file gives documents: it can be read, and each node of its text is decoded to one of them, which
comes from this file and has the number of the node there, from 0. -/
inductive FileTree.Gives (t : FileTree) (f : Format) (path : String) : List Document → Prop where
  | intro {text nodes documents} :
    t.read path = .ok text →
    Reads text nodes →
    List.Forall₂ (fun n d => decodeNode f n.1 (originIn path n) = .ok d ∧
      d.metadata.source = some (originIn path n)) nodes.zipIdx documents →
    Gives t f path documents

/-- A file gives no documents: it cannot be read, or its text does not read as documents, or one of them
is not decoded, of which the first is reported. -/
inductive FileTree.Withholds (t : FileTree) (f : Format) (path : String) : LoadError → Prop where
  | unreadable {cause} :
    t.read path = .error cause →
    Withholds t f path (.unreadable path cause)
  | malformed {text cause} :
    t.read path = .ok text →
    Misreads text cause →
    Withholds t f path (.malformed path cause)
  | undecodable {text before n after e} :
    t.read path = .ok text →
    Reads text (before ++ n :: after) →
    (∀ m ∈ before.zipIdx, ∃ d, decodeNode f m.1 (originIn path m) = .ok d) →
    decodeNode f n (originIn path (n, before.length)) = .error e →
    Withholds t f path e

/-- A document knows where it comes from. -/
lemma source_of_decodeNode {f : Format} {root : Node} {origin : Origin} {d : Document}
    (ok : decodeNode f root origin = .ok d) : d.metadata.source = some origin := by
  rw [decodeNode, mapError_eq_ok_iff] at ok
  unfold Format.decode at ok
  split at ok
  · cases ok
    rfl
  · cases f with
    | bare =>
      cases ok
      rfl
    | envelope =>
      obtain ⟨table, body, _, rfl⟩ := Envelope.decode_eq_ok_iff.1 ok
      rfl

/-- Documents are decoded one by one, each with its number. -/
lemma decodeAll_eq_mapM (f : Format) (path : String) (index : Nat) (nodes : List Node) :
    decodeAll f path index nodes =
      (nodes.zipIdx index).mapM fun n => decodeNode f n.1 (originIn path n) := by
  induction nodes generalizing index with
  | nil => rfl
  | cons root rest ih =>
    rw [decodeAll, ih, List.zipIdx_cons, List.mapM_cons, originIn]
    cases decodeNode f root ⟨path, index.toUInt64, root.info.position⟩ with
    | error e => rfl
    | ok d => cases (rest.zipIdx (index + 1)).mapM fun n => decodeNode f n.1 (originIn path n) <;> rfl

/-- The documents of a text are those of its nodes. -/
lemma decodeAll_eq_ok_iff {f : Format} {path : String} {nodes : List Node}
    {documents : List Document} :
    decodeAll f path 0 nodes = .ok documents ↔
      List.Forall₂ (fun n d => decodeNode f n.1 (originIn path n) = .ok d ∧
        d.metadata.source = some (originIn path n)) nodes.zipIdx documents := by
  rw [decodeAll_eq_mapM, mapM_eq_ok_iff_forall₂]
  have known : ∀ (n : Node × Nat) (d : Document), decodeNode f n.1 (originIn path n) = .ok d ↔
      decodeNode f n.1 (originIn path n) = .ok d ∧ d.metadata.source = some (originIn path n) :=
    fun n d => ⟨fun ok => ⟨ok, source_of_decodeNode ok⟩, And.left⟩
  simp only [← known]

/-- Decoding fails with the error of the first document that cannot be decoded. -/
lemma decodeAll_eq_error_iff {f : Format} {path : String} {nodes : List Node} {e : LoadError} :
    decodeAll f path 0 nodes = .error e ↔
      ∃ before n after, nodes = before ++ n :: after ∧
        (∀ m ∈ before.zipIdx, ∃ d, decodeNode f m.1 (originIn path m) = .ok d) ∧
        decodeNode f n (originIn path (n, before.length)) = .error e := by
  rw [decodeAll_eq_mapM, mapM_eq_error_iff]
  constructor
  · rintro ⟨before', ⟨n, i⟩, after', split, earlier, failed⟩
    obtain ⟨before, behind, rfl, rfl, rest⟩ := List.zipIdx_eq_append_iff.1 split
    obtain ⟨n, after, rfl, same, rfl⟩ := List.zipIdx_eq_cons_iff.1 rest.symm
    cases same
    rw [Nat.zero_add] at failed
    exact ⟨before, n, after, rfl, earlier, failed⟩
  · rintro ⟨before, n, after, rfl, earlier, failed⟩
    refine ⟨before.zipIdx, (n, before.length), after.zipIdx (before.length + 1), ?_, earlier, failed⟩
    rw [List.zipIdx_append, List.zipIdx_cons, Nat.zero_add]

variable {f : Format} {t : FileTree} {path : String}

/-- A file is loaded exactly when it gives its documents. -/
lemma loadFile_eq_ok_iff {documents : List Document} :
    loadFile f t path = .ok documents ↔ t.Gives f path documents := by
  constructor
  · intro ok
    rw [loadFile] at ok
    cases found : t.read path with
    | error cause => simp [found] at ok
    | ok text =>
      simp only [found, loadText] at ok
      cases reads : readDocuments text with
      | error cause => simp [reads] at ok
      | ok nodes =>
        simp only [reads, decodeAll_eq_ok_iff] at ok
        exact .intro found (readDocuments_eq_ok_iff.1 reads) ok
  · rintro ⟨found, reads, decoded⟩
    simp only [loadFile, found, loadText, readDocuments_eq_ok_iff.2 reads,
      decodeAll_eq_ok_iff.2 decoded]

/-- A file is not loaded for the reason for which it withholds its documents. -/
lemma loadFile_eq_error_iff {e : LoadError} :
    loadFile f t path = .error e ↔ t.Withholds f path e := by
  constructor
  · intro failed
    rw [loadFile] at failed
    cases found : t.read path with
    | error cause =>
      obtain rfl : .unreadable path cause = e := by simpa [found] using failed
      exact .unreadable found
    | ok text =>
      simp only [found, loadText] at failed
      cases reads : readDocuments text with
      | error cause =>
        obtain rfl : .malformed path cause = e := by simpa [reads] using failed
        exact .malformed found (readDocuments_eq_error_iff.1 reads)
      | ok nodes =>
        simp only [reads, decodeAll_eq_error_iff] at failed
        obtain ⟨before, n, after, rfl, earlier, failed⟩ := failed
        exact .undecodable found (readDocuments_eq_ok_iff.1 reads) earlier failed
  · rintro (missing | ⟨found, misreads⟩ | ⟨found, reads, earlier, failed⟩)
    · simp only [loadFile, missing]
    · simp only [loadFile, found, loadText, readDocuments_eq_error_iff.2 misreads]
    · simp only [loadFile, found, loadText, readDocuments_eq_ok_iff.2 reads]
      exact decodeAll_eq_error_iff.2 ⟨_, _, _, rfl, earlier, failed⟩

/-! ### Directories -/

/-- Files are loaded one after the other, and their documents are put together. -/
lemma loadFiles_eq_mapM (f : Format) (t : FileTree) (paths : List String) :
    loadFiles f t paths = (paths.mapM (loadFile f t)).map List.flatten := by
  induction paths with
  | nil => rfl
  | cons path rest ih =>
    rw [loadFiles, ih, List.mapM_cons]
    cases loadFile f t path with
    | error e => rfl
    | ok documents => cases rest.mapM (loadFile f t) <;> rfl

/-- A schema directory is loaded by its manifest. -/
lemma loadPath_eq_mapM {directory : String} {m : Manifest} (isDirectory : t.isDirectory directory)
    (valid : loadManifest t directory = .ok m) :
    loadPath f t directory =
      (m.resources.mapM fun resource => loadFile f t (Path.join directory resource)).map
        List.flatten := by
  rw [loadPath, if_pos isDirectory, loadDirectory, valid]
  simp only [loadFiles_eq_mapM, Manifest.paths, List.mapM_map, Function.comp_def]

/-- A schema directory with a manifest is loaded exactly when each of the files that the manifest lists
gives documents, also one that it lists more than once. The documents of the directory are those of its
files in the order of the manifest. Otherwise there are no documents but the failure of the first file that
gives none. -/
theorem loadPath_manifest {f : Format} {t : FileTree} {directory : String} {m : Manifest}
    (isDirectory : t.isDirectory directory) (valid : loadManifest t directory = .ok m) :
    ((∃ documents, loadPath f t directory = .ok documents) ↔
        ∀ resource ∈ m.resources, ∃ documents, t.Gives f (Path.join directory resource) documents) ∧
      (∀ documents, loadPath f t directory = .ok documents ↔
        ∃ parts, List.Forall₂ (fun resource part => t.Gives f (Path.join directory resource) part)
          m.resources parts ∧ documents = parts.flatten) ∧
      ∀ e, loadPath f t directory = .error e ↔
        ∃ before resource after, m.resources = before ++ resource :: after ∧
          (∀ earlier ∈ before, ∃ documents, t.Gives f (Path.join directory earlier) documents) ∧
          t.Withholds f (Path.join directory resource) e := by
  have loaded := loadPath_eq_mapM (f := f) isDirectory valid
  refine ⟨?_, fun documents => ?_, fun e => ?_⟩
  · simp only [← loadFile_eq_ok_iff, ← exists_mapM_eq_ok_iff, loaded]
    cases m.resources.mapM fun resource => loadFile f t (Path.join directory resource) <;>
      simp [Except.map]
  · simp only [← loadFile_eq_ok_iff, ← mapM_eq_ok_iff_forall₂, loaded]
    cases m.resources.mapM fun resource => loadFile f t (Path.join directory resource) <;>
      simp [Except.map, eq_comm]
  · simp only [← loadFile_eq_ok_iff, ← loadFile_eq_error_iff, ← mapM_eq_error_iff, loaded]
    cases m.resources.mapM fun resource => loadFile f t (Path.join directory resource) <;>
      simp [Except.map]

/-- A schema directory whose manifest lists a file of two bare documents twice. -/
def repeatedTree : FileTree :=
  ((FileTree.ofWorking ["work"]).withEntry "schema/schemac.yaml"
      (.text "version: v1\nkind: Manifest\nresources: [a.yaml, a.yaml]\n")).withEntry
    "schema/a.yaml" (.text "x: int\n---\ny: int\n")

/-- The file gives two documents when they need no envelope, numbered from 0. -/
lemma exists_gives_repeatedTree :
    ∃ documents, repeatedTree.Gives .bare "schema/a.yaml" documents ∧
      documents.map (·.metadata.source) =
        [some ⟨"schema/a.yaml", 0, ⟨1, 2, 1⟩⟩, some ⟨"schema/a.yaml", 1, ⟨3, 2, 12⟩⟩] := by
  have sources : (loadFile .bare repeatedTree "schema/a.yaml").toOption.map
        (·.map (·.metadata.source)) =
      some [some ⟨"schema/a.yaml", 0, ⟨1, 2, 1⟩⟩, some ⟨"schema/a.yaml", 1, ⟨3, 2, 12⟩⟩] := by
    decide +kernel
  cases loaded : loadFile .bare repeatedTree "schema/a.yaml" with
  | error e =>
    rw [loaded] at sources
    cases sources
  | ok documents =>
    rw [loaded] at sources
    exact ⟨documents, loadFile_eq_ok_iff.1 loaded, Option.some.inj sources⟩

/-- When documents need an envelope, the first one of the file is refused. -/
lemma withholds_repeatedTree :
    repeatedTree.Withholds .envelope "schema/a.yaml" (.unknownVersion "schema/a.yaml#0" "") := by
  have failure : (match loadFile .envelope repeatedTree "schema/a.yaml" with
      | .ok _ => none
      | .error e => some e) = some (.unknownVersion "schema/a.yaml#0" "") := by
    decide +kernel
  cases loaded : loadFile .envelope repeatedTree "schema/a.yaml" with
  | error e =>
    rw [loaded] at failure
    exact Option.some.inj failure ▸ loadFile_eq_error_iff.1 loaded
  | ok documents =>
    rw [loaded] at failure
    cases failure

/-- The documents of the file in `repeatedTree` are there twice, with the same numbers. In the envelope
format its first document is refused, and nothing is loaded. -/
theorem loadPath_manifest_repeated :
    repeatedTree.isDirectory "schema" ∧
      loadManifest repeatedTree "schema" = .ok ⟨"v1", "Manifest", ["a.yaml", "a.yaml"]⟩ ∧
      (∃ documents, loadPath .bare repeatedTree "schema" = .ok (documents ++ documents) ∧
        documents.map (·.metadata.source) =
          [some ⟨"schema/a.yaml", 0, ⟨1, 2, 1⟩⟩, some ⟨"schema/a.yaml", 1, ⟨3, 2, 12⟩⟩]) ∧
      loadPath .envelope repeatedTree "schema" =
        .error (.unknownVersion "schema/a.yaml#0" "") := by
  have isDirectory : repeatedTree.isDirectory "schema" := by decide +kernel
  have valid : loadManifest repeatedTree "schema" =
      .ok ⟨"v1", "Manifest", ["a.yaml", "a.yaml"]⟩ := by
    decide +kernel
  have bare := loadPath_manifest (f := .bare) isDirectory valid
  have enveloped := loadPath_manifest (f := .envelope) isDirectory valid
  refine ⟨isDirectory, valid, ?_, ?_⟩
  · obtain ⟨documents, gives, sources⟩ := exists_gives_repeatedTree
    refine ⟨documents, (bare.2.1 _).2 ⟨[documents, documents], ?_, ?_⟩, sources⟩
    · exact .cons gives (.cons gives .nil)
    · simp
  · exact (enveloped.2.2 _).2 ⟨[], "a.yaml", ["a.yaml"], rfl, nofun, withholds_repeatedTree⟩

end RecordSchema
