import Mathlib
import RecordSchema.Cursor
import RecordSchema.Proofs.Text.Pieces

/-!
# Navigation

Where the keys of a path lead in a tree, and where they stop leading on. Keys are looked up one after the
other, each in the entries of the mapping that those before it lead to, and of several entries with one key
the first counts. Main statement: `navigate_composes`.
-/

namespace RecordSchema

/-! ### Where keys lead -/

namespace Node

/-- No entry has the key. -/
def IsKeyless (key : String) (entries : List (Node × Node)) : Prop :=
  ∀ e ∈ entries, e.1.text? ≠ some key

/-- Keys lead from one node to another: each is the key of an entry in the mapping that those before it
lead to, and of no earlier entry there. -/
inductive Leads : Node → List String → Node → Prop where
  | here {n} :
    Leads n [] n
  | step {info before k value after key rest target} :
    k.text? = some key →
    IsKeyless key before →
    Leads value rest target →
    Leads (.mapping info (before ++ (k, value) :: after)) (key :: rest) target

/-- A key does not lead on from the node at the end of a path: the node is a mapping without the key, or
it is no mapping. -/
inductive Blocks (path : List String) (key : String) : Node → NavigationError → Prop where
  | lacking {info entries} :
    IsKeyless key entries →
    Blocks path key (.mapping info entries) (.notFound (path ++ [key]))
  | flat {n} :
    n.shape ≠ .mapping →
    Blocks path key n (.mismatch path .mapping n.shape)

/-- Keys stop leading on from the node at the end of a path: those before one of them lead to a node
from which it does not lead on, whatever keys come after it. No shorter part of the keys is in the way,
since those before lead to a node. -/
inductive Stops (n : Node) (path : List String) : List String → NavigationError → Prop where
  | intro {walked key rest target e} :
    n.Leads walked target →
    Blocks (path ++ walked) key target e →
    Stops n path (walked ++ key :: rest) e

variable {n value target : Node} {path rest : List String} {key : String} {e : NavigationError}

/-- A key leads to the value of the first entry that has it. -/
lemma get?_eq_some_iff :
    n.get? key = some value ↔
      ∃ info before k after, n = .mapping info (before ++ (k, value) :: after) ∧
        k.text? = some key ∧ IsKeyless key before := by
  cases n with
  | mapping info entries =>
    simp only [get?, entries?, Option.bind_some, Option.map_eq_some_iff, List.find?_eq_some_iff_append,
      beq_iff_eq, Bool.not_eq_true', beq_eq_false_iff_ne, mapping.injEq]
    constructor
    · rintro ⟨⟨k, _⟩, ⟨same, before, after, rfl, others⟩, rfl⟩
      exact ⟨info, before, k, after, ⟨rfl, rfl⟩, same, others⟩
    · rintro ⟨_, before, k, after, ⟨rfl, rfl⟩, same, others⟩
      exact ⟨(k, value), ⟨same, before, after, rfl, others⟩, rfl⟩
  | null | scalar | sequence => simp [get?, entries?]

/-- A key is not found when no entry has it. -/
lemma get?_mapping_eq_none_iff {info : Info} {entries : List (Node × Node)} :
    (mapping info entries).get? key = none ↔ IsKeyless key entries := by
  simp [get?, entries?, IsKeyless]

/-- A key does not lead on where it leads to nothing. -/
lemma Blocks.get?_eq_none (blocks : Blocks path key n e) : n.get? key = none := by
  cases blocks with
  | lacking keyless => exact get?_mapping_eq_none_iff.2 keyless
  | flat flat =>
    cases n with
    | mapping => exact absurd rfl flat
    | null | scalar | sequence => rfl

/-- Segments lead somewhere when the first one is found and the others lead on from there. -/
lemma leads_cons_iff :
    n.Leads (key :: rest) target ↔ ∃ value, n.get? key = some value ∧ value.Leads rest target := by
  simp only [get?_eq_some_iff]
  constructor
  · rintro (_ | ⟨same, others, leads⟩)
    exact ⟨_, ⟨_, _, _, _, rfl, same, others⟩, leads⟩
  · rintro ⟨value, ⟨_, _, _, _, rfl, same, others⟩, leads⟩
    exact .step same others leads

/-- Keys stop at the first of them that leads nowhere, or else they stop as those behind it do. -/
lemma stops_cons_cases (stops : n.Stops path (key :: rest) e) :
    Blocks path key n e ∨ ∃ value, n.get? key = some value ∧ value.Stops (path ++ [key]) rest e := by
  generalize all : key :: rest = keys at stops
  obtain @⟨walked, last, later, target, e, leads, blocks⟩ := stops
  cases walked with
  | nil =>
    cases all
    cases leads
    rw [List.append_nil] at blocks
    exact .inl blocks
  | cons first walked =>
    cases all
    obtain ⟨value, found, leads⟩ := leads_cons_iff.1 leads
    rw [List.append_cons] at blocks
    exact .inr ⟨value, found, .intro leads blocks⟩

/-- A walk that stops below a key stops there also when it comes through the key. -/
lemma Stops.cons (found : n.get? key = some value) (stops : value.Stops (path ++ [key]) rest e) :
    n.Stops path (key :: rest) e := by
  obtain ⟨leads, blocks⟩ := stops
  rw [← List.append_cons] at blocks
  exact .intro (leads_cons_iff.2 ⟨value, found, leads⟩) blocks

/-- A walk stops at once where its first segment is blocked. -/
lemma Blocks.stops (blocks : Blocks path key n e) (rest : List String) :
    n.Stops path (key :: rest) e := by
  have here : n.Leads [] n := .here
  rw [← List.append_nil path] at blocks
  exact .intro here blocks

end Node

/-! ### Steps of a cursor -/

namespace Cursor

open Node

variable {c c' : Cursor} {keys : List String} {key : String} {e : NavigationError}

/-- A cursor steps to where its key leads. -/
lemma child_eq_ok_iff :
    c.child key = .ok c' ↔ c.node.get? key = some c'.node ∧ c'.path = c.path ++ [key] := by
  obtain ⟨n, path⟩ := c
  obtain ⟨n', path'⟩ := c'
  cases n with
  | mapping info entries =>
    cases found : (mapping info entries).get? key <;> simp [child, shape, found, eq_comm]
  | null | scalar | sequence => simp [child, shape, get?, entries?]

/-- A cursor does not step where its key does not lead on. -/
lemma child_eq_error_iff : c.child key = .error e ↔ Blocks c.path key c.node e := by
  obtain ⟨n, path⟩ := c
  cases n with
  | mapping info entries =>
    constructor
    · intro failed
      cases found : (mapping info entries).get? key with
      | some value => simp [child, shape, found] at failed
      | none =>
        obtain rfl : .notFound (path ++ [key]) = e := by simpa [child, shape, found] using failed
        exact .lacking (get?_mapping_eq_none_iff.1 found)
    · rintro (keyless | flat)
      · simp [child, shape, get?_mapping_eq_none_iff.2 keyless]
      · exact absurd rfl flat
  | null | scalar | sequence =>
    constructor
    · rintro ⟨⟩
      exact .flat (by simp [shape])
    · rintro ⟨⟩
      rfl

/-- A cursor descends to where the keys lead, and its path grows by them. -/
lemma descend_eq_ok_iff :
    c.descend keys = .ok c' ↔ c.node.Leads keys c'.node ∧ c'.path = c.path ++ keys := by
  induction keys generalizing c with
  | nil =>
    obtain ⟨n, path⟩ := c
    obtain ⟨n', path'⟩ := c'
    constructor
    · rintro ⟨⟩
      exact ⟨.here, (List.append_nil path).symm⟩
    · rintro ⟨⟨⟩, rfl⟩
      rw [List.append_nil]
      rfl
  | cons key rest ih =>
    rw [descend, leads_cons_iff]
    cases step : c.child key with
    | error e => simp [(child_eq_error_iff.1 step).get?_eq_none]
    | ok next =>
      obtain ⟨found, path⟩ := child_eq_ok_iff.1 step
      simp [ih, found, path]

/-- A cursor does not descend where the keys stop leading on. -/
lemma descend_eq_error_iff : c.descend keys = .error e ↔ c.node.Stops c.path keys e := by
  induction keys generalizing c with
  | nil =>
    constructor
    · rintro ⟨⟩
    · intro stops
      generalize none : [] = keys at stops
      obtain @⟨walked, _, _, _, _, _, _⟩ := stops
      cases walked <;> cases none
  | cons key rest ih =>
    rw [descend]
    cases step : c.child key with
    | error e' =>
      constructor
      · rintro ⟨⟩
        exact (child_eq_error_iff.1 step).stops rest
      · intro stops
        rcases stops_cons_cases stops with blocks | ⟨value, found, _⟩
        · rw [← child_eq_error_iff, step] at blocks
          exact blocks
        · cases found.symm.trans (child_eq_error_iff.1 step).get?_eq_none
    | ok next =>
      obtain ⟨found, path⟩ := child_eq_ok_iff.1 step
      -- The induction is for any cursor, as the path that an error names grows with each key.
      have behind := ih (c := next)
      rw [path] at behind
      refine behind.trans ⟨.cons found, fun stops => ?_⟩
      rcases stops_cons_cases stops with blocks | ⟨value, found', stops⟩
      · cases found.symm.trans blocks.get?_eq_none
      · cases found.symm.trans found'
        exact stops

/-- Keys are descended one part after the other. -/
lemma descend_append (keys keys' : List String) (c : Cursor) :
    c.descend (keys ++ keys') = (c.descend keys).bind (·.descend keys') := by
  induction keys generalizing c with
  | nil => rfl
  | cons key rest ih =>
    rw [List.cons_append, descend, descend]
    cases c.child key with
    | error e => rfl
    | ok next => exact ih next

end Cursor

/-! ### Paths -/

namespace Cursor

/-- The keys of a path are the texts between its slashes that are not empty. -/
lemma segments_eq (path : String) :
    segments path =
      ((path.toList.splitOn '/').filter fun key => key ≠ []).map String.ofList := by
  rw [segments, Text.chunks, Text.pieces_eq_splitOnP]
  congr 2
  funext key
  cases key <;> rfl

/-- A slash between two paths puts the keys of one before those of the other. -/
lemma segments_append (p q : String) : segments (p ++ "/" ++ q) = segments p ++ segments q := by
  have slash : (p ++ "/" ++ q).toList = p.toList ++ '/' :: q.toList := by simp
  rw [segments, slash, Text.chunks_append_cons rfl, List.map_append]
  rfl

/-- Two paths with a slash between them lead where the second one leads from where the first one does, and
stop where the first one does or else the second one from there. A path leads to the node that its keys
lead to, which are the texts between its slashes that are not empty, and otherwise it is reported where
they stop leading on. -/
theorem navigate_composes (c : Cursor) :
    (∀ p q, c.navigate (p ++ "/" ++ q) = (c.navigate p).bind (·.navigate q)) ∧
      (∀ p c', c.navigate p = .ok c' ↔
        c.node.Leads (segments p) c'.node ∧ c'.path = c.path ++ segments p) ∧
      (∀ p e, c.navigate p = .error e ↔ c.node.Stops c.path (segments p) e) ∧
      ∀ p, segments p =
        ((p.toList.splitOn '/').filter fun key => key ≠ []).map String.ofList := by
  refine ⟨fun p q => ?_, fun _ _ => descend_eq_ok_iff, fun _ _ => descend_eq_error_iff, segments_eq⟩
  rw [navigate, segments_append, descend_append]
  rfl

end Cursor

end RecordSchema
