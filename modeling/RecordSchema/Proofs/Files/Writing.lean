import Mathlib
import RecordSchema.Files.Tree
import RecordSchema.Proofs.Text.Pieces

/-!
# Writing files

A text that has been written is read at its path, and what is read elsewhere is what was read before.
Paths lead to the same places as before, because only directories lead further and no text takes the
place of one. Main statements: `read_of_write`, `read_of_write_of_ne`, and `locate_join`, a name in a
directory leads to a location below the one of the directory.
-/

namespace RecordSchema

namespace Path

/-- A name that stands for something in a directory. -/
structure IsName (name : String) : Prop where
  ne_empty : name ≠ ""
  ne_here : name ≠ "."
  ne_above : name ≠ ".."
  no_slash : '/' ∉ name.toList

/-- The segments that lead into a directory. -/
def segmentsInto (directory : String) : List String :=
  if directory = "" then []
  else if directory.toList.getLast? = some '/' then (pieces directory).dropLast
  else pieces directory

/-- A file name is one segment. -/
lemma pieces_of_isName {name : String} (h : IsName name) : pieces name = [name] := by
  have none : ∀ c ∈ name.toList, (c == '/') = false := by
    intro c mem
    rw [beq_eq_false_iff_ne]
    rintro rfl
    exact h.no_slash mem
  rw [pieces, Text.pieces_eq_singleton none, List.map_singleton, String.ofList_toList]

/-- A file name is not absolute. -/
lemma isAbsolute_of_isName {name : String} (h : IsName name) : isAbsolute name = false := by
  rw [isAbsolute, beq_eq_false_iff_ne]
  intro first
  exact h.no_slash (List.mem_of_mem_head? first)

/-- A slash cuts a path in two. -/
lemma pieces_slash (before after : String) :
    pieces (before ++ "/" ++ after) = pieces before ++ pieces after := by
  have cut := Text.pieces_append_cons (p := (· == '/')) (c := '/') rfl before.toList after.toList
  simp only [pieces, String.toList_append, List.append_assoc]
  rw [← List.map_append, ← cut]
  rfl

/-- The path of a name in a directory is that of the directory with something behind it, and there is a
slash before the name. -/
lemma join_eq {directory name : String} (h : IsName name) (ne : directory ≠ "") :
    ∃ before, join directory name = before ++ "/" ++ name ∧
      pieces before = segmentsInto directory ∧ ∃ rest, join directory name = directory ++ rest := by
  by_cases ends : directory.toList.getLast? = some '/'
  · obtain ⟨chars, eq⟩ := List.getLast?_eq_some_iff.1 ends
    have split : directory = String.ofList chars ++ "/" := by
      rw [← String.toList_inj, eq]
      simp
    have joined : join directory name = directory ++ name := by
      simp [join, isAbsolute_of_isName h, ne, ends]
    refine ⟨String.ofList chars, ?_, ?_, name, joined⟩
    · rw [joined, ← split]
    · have cut := pieces_slash (String.ofList chars) ""
      have last : pieces "" = [""] := rfl
      rw [String.append_empty, ← split, last] at cut
      rw [segmentsInto, if_neg ne, if_pos ends, cut, List.dropLast_concat]
  · have joined : join directory name = directory ++ "/" ++ name := by
      simp [join, isAbsolute_of_isName h, ne, ends]
    refine ⟨directory, joined, ?_, "/" ++ name, ?_⟩
    · rw [segmentsInto, if_neg ne, if_neg ends]
    · rw [joined, String.append_assoc]

/-- A path in a directory leads into it and then to its name. -/
lemma pieces_join (directory : String) {name : String} (h : IsName name) :
    pieces (join directory name) = segmentsInto directory ++ [name] := by
  by_cases empty : directory = ""
  · subst empty
    rw [join, isAbsolute_of_isName h]
    exact pieces_of_isName h
  · obtain ⟨before, eq, into, _⟩ := join_eq h empty
    rw [eq, pieces_slash, into, pieces_of_isName h]

/-- A path in a directory starts where that of the directory does. -/
lemma isAbsolute_join (directory : String) {name : String} (h : IsName name) :
    isAbsolute (join directory name) = isAbsolute directory := by
  by_cases empty : directory = ""
  · subst empty
    rw [join, isAbsolute_of_isName h]
    exact isAbsolute_of_isName h
  · obtain ⟨_, _, _, rest, eq⟩ := join_eq h empty
    have chars : directory.toList ≠ [] := by simpa using empty
    rw [eq, isAbsolute, isAbsolute, String.toList_append, List.head?_append_of_ne_nil _ chars]

/-- A file name in a directory is no empty path. -/
lemma join_ne_empty (directory : String) {name : String} (h : IsName name) :
    join directory name ≠ "" := by
  intro empty
  have nothing : segmentsInto directory ++ [name] = [""] := by
    rw [← pieces_join directory h, empty]
    rfl
  exact h.ne_empty (by simpa using congrArg List.getLast? nothing)

/-- Different names in a directory have different paths. -/
lemma join_inj {directory name other : String} (h : IsName name) (h' : IsName other)
    (same : join directory name = join directory other) : name = other := by
  have eq : segmentsInto directory ++ [name] = segmentsInto directory ++ [other] := by
    rw [← pieces_join directory h, ← pieces_join directory h', same]
  simpa using eq

end Path

namespace FileTree

variable {t t' : FileTree}

/-- Putting an entry changes what is found at its location and nothing else. -/
lemma lookup_put {location : Location} (ne : location ≠ []) (e : FileEntry) (other : Location) :
    (t.put location e).lookup other = if other = location then some e else t.lookup other := by
  split
  · rename_i eq
    rw [eq, lookup_put_self t e ne]
  · rename_i ne'
    exact lookup_put_ne t e ne'

/-- Segments are followed part by part. -/
lemma follow_append (here : Location) (segments more : List String) :
    t.follow here (segments ++ more) = (t.follow here segments).bind (t.follow · more) := by
  induction segments generalizing here with
  | nil => rfl
  | cons segment rest ih =>
    simp only [List.cons_append, follow, ih]
    split
    · split_ifs <;> rfl
    · rfl
    · rfl

/-- A text where no directory was does not lead anywhere else. -/
lemma follow_put {location : Location} (free : t.lookup location ≠ some .directory)
    (content : String) {here target : Location} {segments : List String} :
    (t.put location (.text content)).follow here segments = .ok target ↔
      t.follow here segments = .ok target := by
  have ne : location ≠ [] := by
    rintro rfl
    exact free rfl
  induction segments generalizing here with
  | nil => rfl
  | cons segment rest ih =>
    rw [follow, follow, lookup_put ne]
    by_cases eq : here = location
    · -- a text leads no further, and neither did what was there before
      subst eq
      rw [if_pos rfl]
      cases there : t.lookup here with
      | none => simp
      | some e =>
        cases e with
        | directory => exact absurd there free
        | text => simp
        | binary => simp
    · rw [if_neg eq]
      split
      · split_ifs
        · exact ih
        · exact ih
        · exact ih
      · rfl
      · rfl

/-- Paths lead where they led before a file was put where no directory is. -/
lemma locate_put {location : Location} (free : t.lookup location ≠ some .directory)
    (content : String) {path : String} {target : Location} :
    (t.put location (.text content)).locate path = .ok target ↔ t.locate path = .ok target := by
  unfold locate
  split_ifs
  · rfl
  · exact follow_put free content

/-- A text can be written where there is no directory. -/
lemma write_eq_ok_iff {path content : String} :
    t.write path content = .ok t' ↔
      ∃ location, t.locate path = .ok location ∧ t.lookup location ≠ some .directory ∧
        t' = t.put location (.text content) := by
  unfold write
  cases t.locate path with
  | error e => simp
  | ok location =>
    simp only [Except.ok.injEq, exists_eq_left']
    split <;> simp_all [eq_comm]

/-- A text can be read where there is one. -/
lemma read_eq_ok_iff {path content : String} :
    t.read path = .ok content ↔
      ∃ location, t.locate path = .ok location ∧ t.lookup location = some (.text content) := by
  unfold read find
  cases t.locate path with
  | error e => simp
  | ok location =>
    simp only [Except.ok.injEq, exists_eq_left']
    cases t.lookup location with
    | none => simp
    | some e => cases e <;> simp

/-- A text that has been written is read at its path. -/
lemma read_of_write {path content : String} (ok : t.write path content = .ok t') :
    t'.read path = .ok content := by
  obtain ⟨location, located, free, rfl⟩ := write_eq_ok_iff.1 ok
  refine read_eq_ok_iff.2 ⟨location, (locate_put free content).2 located, ?_⟩
  refine lookup_put_self t _ ?_
  rintro rfl
  exact free rfl

/-- Two paths never lead to the same location. -/
def Apart (path other : String) : Prop :=
  ∀ (t : FileTree) (location : Location), t.locate path = .ok location →
    t.locate other ≠ .ok location

/-- Writing a text leaves the texts alone that are elsewhere. -/
lemma read_of_write_of_apart {path other content text : String} (apart : Apart path other)
    (ok : t.write path content = .ok t') (before : t.read other = .ok text) :
    t'.read other = .ok text := by
  obtain ⟨location, located, free, rfl⟩ := write_eq_ok_iff.1 ok
  obtain ⟨target, leads, there⟩ := read_eq_ok_iff.1 before
  refine read_eq_ok_iff.2 ⟨target, (locate_put free content).2 leads, ?_⟩
  rw [lookup_put_ne t _ ?_, there]
  rintro rfl
  exact apart t _ located leads

/-- A name in a directory leads to a location below that of the directory. -/
lemma locate_join {directory name : String} (h : Path.IsName name) {location : Location} :
    t.locate (Path.join directory name) = .ok location ↔
      ∃ dir, t.follow (t.startOf directory) (Path.segmentsInto directory) = .ok dir ∧
        t.lookup dir = some .directory ∧ location = dir ++ [name] := by
  rw [locate, if_neg (Path.join_ne_empty directory h), startOf, Path.isAbsolute_join directory h,
    Path.pieces_join directory h, follow_append, ← startOf]
  cases t.follow (t.startOf directory) (Path.segmentsInto directory) with
  | error e => simp [Except.bind]
  | ok dir =>
    -- the last segment is a name, and it is followed if there is a directory
    have last : ¬ (name = "" ∨ name = ".") := not_or.2 ⟨h.ne_empty, h.ne_here⟩
    simp only [Except.bind, follow, if_neg last, if_neg h.ne_above, Except.ok.injEq, exists_eq_left']
    cases t.lookup dir with
    | none => simp
    | some e => cases e <;> simp [eq_comm]

/-- Two names in a directory lead to two locations. -/
lemma apart_join {directory name other : String} (h : Path.IsName name) (h' : Path.IsName other)
    (ne : name ≠ other) : Apart (Path.join directory name) (Path.join directory other) := by
  intro t location leads leads'
  obtain ⟨dir, _, _, rfl⟩ := (locate_join h).1 leads
  obtain ⟨dir', _, _, eq⟩ := (locate_join h').1 leads'
  exact ne (by simpa using congrArg List.getLast? eq)

end FileTree

end RecordSchema
