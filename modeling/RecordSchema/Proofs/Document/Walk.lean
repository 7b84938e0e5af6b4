import Mathlib
import RecordSchema.Node

/-!
# The walk of a document

The entries of the mappings of a document in the order in which their declarations are registered:
an entry comes after those within its own value. Only values that are mappings are entered, so
nothing in a key or in a sequence belongs to the walk. Main statements: `walk_at_places`, the walk
lists the entries at the places of the document, `places_pairwise`, the places are in post-order,
and `mem_places`, they are all the places there are, each once.
-/

namespace RecordSchema

/-- An entry of a mapping: a key and its value. -/
abbrev Entry : Type :=
  Node × Node

namespace Node

mutual

/-- The entries of the mappings of a value, each after those within its own value. -/
def walk : Node → List Entry
  | mapping _ entries => walkEntries entries
  | _ => []

/-- The walk of the entries of a mapping. -/
def walkEntries : List Entry → List Entry
  | [] => []
  | (key, value) :: rest => walk value ++ (key, value) :: walkEntries rest

end

end Node

/-- A place in a mapping: the number of an entry, followed by a place in the value there. -/
abbrev Place : Type :=
  List Nat

namespace Place

/-- The place after one more entry has been put in front. -/
def shift : Place → Place
  | [] => []
  | i :: place => (i + 1) :: place

/-- Post-order: an entry comes after all that lies within its value, and before what lies to the
right of it. -/
inductive Before : Place → Place → Prop where
  | within {i place} :
    Before (i :: place) []
  | left {i j place place'} :
    i < j →
    Before (i :: place) (j :: place')
  | under {i place place'} :
    Before place place' →
    Before (i :: place) (i :: place')

/-- The order is strict. -/
lemma Before.irrefl {p : Place} : ¬ Before p p := by
  intro h
  induction p with
  | nil => cases h
  | cons i place ih =>
    cases h with
    | left lt => exact lt_irrefl i lt
    | under h => exact ih h

/-- The order does not depend on where numbering starts. -/
lemma Before.shift {p q : Place} (h : Before p q) : Before p.shift q.shift := by
  cases h with
  | within => exact .within
  | left lt => exact .left (by omega)
  | under h => exact .under h

/-- What lies in the first entry comes before what lies in the others. -/
lemma before_shift (p q : Place) : Before (0 :: p) q.shift := by
  cases q with
  | nil => exact .within
  | cons j place => exact .left (by omega)

end Place

/-- The entry at a place. A place leads from an entry to those of its value if that is a mapping,
and nowhere else. -/
def entryAt? : Place → List Entry → Option Entry
  | [], _ => none
  | [i], entries => entries[i]?
  | i :: j :: place, entries => (entries[i]?.bind (·.2.entries?)).bind (entryAt? (j :: place))

/-- What lies in the entries after the first is where it was before that was put in front. -/
lemma entryAt?_shift (p : Place) (e : Entry) (rest : List Entry) :
    entryAt? p.shift (e :: rest) = entryAt? p rest := by
  match p with
  | [] => rfl
  | [_] => rfl
  | _ :: _ :: _ => rfl

namespace Node

mutual

/-- The places in a value, in the order of the walk. -/
def places : Node → List Place
  | mapping _ entries => placesEntries entries
  | _ => []

/-- The places in the entries of a mapping. -/
def placesEntries : List Entry → List Place
  | [] => []
  | (_, value) :: rest => (places value).map (0 :: ·) ++ [0] :: (placesEntries rest).map Place.shift

end

/-- A place names at least one entry. -/
lemma ne_nil_of_mem_places {p : Place} {entries : List Entry} (h : p ∈ placesEntries entries) :
    p ≠ [] := by
  induction entries generalizing p with
  | nil => cases h
  | cons e rest ih =>
    simp only [placesEntries, List.mem_append, List.mem_map, List.mem_cons] at h
    rcases h with ⟨q, _, rfl⟩ | rfl | ⟨q, mem, rfl⟩
    · simp
    · simp
    · cases q with
      | nil => exact absurd rfl (ih mem)
      | cons i place => simp [Place.shift]

/-- A place within the first entry is a place of its value. -/
lemma entryAt?_under {p : Place} (ne : p ≠ []) (key value : Node) (rest : List Entry) :
    entryAt? (0 :: p) ((key, value) :: rest) = value.entries?.bind (entryAt? p) := by
  cases p with
  | nil => exact absurd rfl ne
  | cons i place => rfl

mutual

/-- The walk of a value visits its places. -/
lemma walk_at_places (value : Node) :
    (places value).map (fun p => value.entries?.bind (entryAt? p)) = (walk value).map some := by
  match value with
  | null _ => rfl
  | scalar _ _ => rfl
  | sequence _ _ => rfl
  | mapping _ entries => exact walkEntries_at_places entries

/-- The walk of a mapping visits its places, one after the other. -/
lemma walkEntries_at_places (entries : List Entry) :
    (placesEntries entries).map (entryAt? · entries) = (walkEntries entries).map some := by
  match entries with
  | [] => rfl
  | (key, value) :: rest =>
    have inner : (places value).map (fun p => entryAt? (0 :: p) ((key, value) :: rest)) =
        (walk value).map some := by
      rw [← walk_at_places value]
      apply List.map_congr_left
      intro p mem
      apply entryAt?_under
      cases value with
      | mapping _ entries => exact ne_nil_of_mem_places mem
      | _ => cases mem
    have later : (placesEntries rest).map (fun p => entryAt? p.shift ((key, value) :: rest)) =
        (walkEntries rest).map some := by
      simp only [entryAt?_shift, walkEntries_at_places rest]
    simp only [placesEntries, walkEntries, List.map_append, List.map_cons, List.map_map,
      Function.comp_def, inner, later]
    rfl

end

mutual

/-- The places in a value are in post-order. -/
lemma places_pairwise (value : Node) : (places value).Pairwise Place.Before := by
  match value with
  | null _ => exact .nil
  | scalar _ _ => exact .nil
  | sequence _ _ => exact .nil
  | mapping _ entries => exact placesEntries_pairwise entries

/-- The places in a mapping are in post-order. -/
lemma placesEntries_pairwise (entries : List Entry) :
    (placesEntries entries).Pairwise Place.Before := by
  match entries with
  | [] => exact .nil
  | (key, value) :: rest =>
    have inner := (places_pairwise value).map (0 :: ·) fun _ _ h => Place.Before.under h
    have later := (placesEntries_pairwise rest).map Place.shift fun _ _ h => h.shift
    -- what lies in the first entry comes first, then the entry, then all to the right of it
    rw [placesEntries, List.pairwise_append, List.pairwise_cons]
    refine ⟨inner, ⟨?_, later⟩, ?_⟩
    · intro p mem
      obtain ⟨q, _, rfl⟩ := List.mem_map.1 mem
      exact Place.before_shift [] q
    · intro _ mem₀ q mem'
      obtain ⟨p, mem, rfl⟩ := List.mem_map.1 mem₀
      rcases List.mem_cons.1 mem' with rfl | mem'
      · apply Place.Before.under
        cases value with
        | mapping _ entries =>
          cases p with
          | nil => exact absurd rfl (ne_nil_of_mem_places mem)
          | cons i place => exact .within
        | _ => cases mem
      · obtain ⟨q, _, rfl⟩ := List.mem_map.1 mem'
        exact Place.before_shift p q

end

/-- No place comes twice. -/
lemma placesEntries_nodup (entries : List Entry) : (placesEntries entries).Nodup := by
  apply (placesEntries_pairwise entries).imp
  rintro p q h rfl
  exact h.irrefl

mutual

/-- Every place that leads into a value is one of its places. -/
lemma mem_places_of_entryAt? {p : Place} (value : Node)
    (h : (value.entries?.bind (entryAt? p)).isSome) : p ∈ places value := by
  match value with
  | null _ => simp [entries?] at h
  | scalar _ _ => simp [entries?] at h
  | sequence _ _ => simp [entries?] at h
  | mapping _ entries => exact mem_placesEntries_of_entryAt? entries h

/-- Every place that leads to an entry of a mapping is one of its places. -/
lemma mem_placesEntries_of_entryAt? {p : Place} (entries : List Entry)
    (h : (entryAt? p entries).isSome) : p ∈ placesEntries entries := by
  match entries, p with
  | [], [] => cases h
  | [], [_] => simp [entryAt?] at h
  | [], _ :: _ :: _ => simp [entryAt?] at h
  | (key, value) :: rest, [] => cases h
  -- a place in the first entry goes on in its value, any other one in the rest
  | (key, value) :: rest, [0] => simp [placesEntries]
  | (key, value) :: rest, 0 :: j :: place =>
    have mem := mem_places_of_entryAt? value h
    exact List.mem_append_left _ (List.mem_map_of_mem mem)
  | (key, value) :: rest, (i + 1) :: place =>
    rw [← Place.shift, entryAt?_shift] at h
    have mem := mem_placesEntries_of_entryAt? rest h
    exact List.mem_append_right _ (List.mem_cons_of_mem _ (List.mem_map_of_mem mem))

end

/-- The places of a mapping are those that lead to an entry. -/
lemma mem_places {p : Place} {entries : List Entry} :
    p ∈ placesEntries entries ↔ (entryAt? p entries).isSome := by
  constructor
  · intro mem
    have visited : entryAt? p entries ∈ (walkEntries entries).map some := by
      rw [← walkEntries_at_places]
      exact List.mem_map_of_mem mem
    obtain ⟨e, _, eq⟩ := List.mem_map.1 visited
    rw [← eq]
    rfl
  · exact mem_placesEntries_of_entryAt? entries

end Node
end RecordSchema
