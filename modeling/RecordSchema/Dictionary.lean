/-!
# Dictionaries

A dictionary maps strings to values and lists its entries in ascending order of their keys, each
key once. Main statements: inserting keeps the order, and two dictionaries with the same entries
are equal.
-/

namespace RecordSchema

/-- Entries in ascending order of their keys. -/
def KeysAscend {α : Type} (entries : List (String × α)) : Prop :=
  entries.Pairwise fun a b => a.1 < b.1

/-- A map from strings. -/
structure Dictionary (α : Type) where
  entries : List (String × α)
  ascending : KeysAscend entries

namespace Dictionary

variable {α : Type}

/-- Two strings of which neither is less are equal. -/
theorem lt_of_not_lt_of_ne {a b : String} (h : ¬ a < b) (hne : a ≠ b) : b < a := by
  rcases Decidable.em (b < a) with hlt | hge
  · exact hlt
  · exact absurd (String.le_antisymm (String.not_lt.1 hge) (String.not_lt.1 h)) hne

/-- Adds an entry to a list of entries in order, or replaces the one with its key. -/
def insertEntry (key : String) (value : α) : List (String × α) → List (String × α)
  | [] => [(key, value)]
  | entry :: rest =>
    if key < entry.1 then (key, value) :: entry :: rest
    else if key = entry.1 then (key, value) :: rest
    else entry :: insertEntry key value rest

/-- The keys after an insertion. -/
theorem mem_insertEntry {key : String} {value : α} {entries : List (String × α)}
    {e : String × α} (h : e ∈ insertEntry key value entries) : e = (key, value) ∨ e ∈ entries := by
  induction entries with
  | nil => simp_all [insertEntry]
  | cons entry rest ih =>
    simp only [insertEntry] at h
    split at h
    · simp_all
    · split at h
      · simp_all only [List.mem_cons]
        rcases h with h | h
        · exact .inl h
        · exact .inr (.inr h)
      · simp only [List.mem_cons] at h ⊢
        rcases h with h | h
        · exact .inr (.inl h)
        · rcases ih h with h | h
          · exact .inl h
          · exact .inr (.inr h)

/-- Inserting keeps the keys in order. -/
theorem keysAscend_insertEntry (key : String) (value : α) {entries : List (String × α)}
    (h : KeysAscend entries) : KeysAscend (insertEntry key value entries) := by
  induction entries with
  | nil => simp [insertEntry, KeysAscend]
  | cons entry rest ih =>
    have hrest := (List.pairwise_cons.1 h).2
    have hentry := (List.pairwise_cons.1 h).1
    simp only [insertEntry]
    split
    · rename_i hlt
      refine List.pairwise_cons.2 ⟨?_, h⟩
      intro e he
      rcases List.mem_cons.1 he with rfl | he
      · exact hlt
      · exact String.lt_trans hlt (hentry e he)
    · split
      · rename_i heq
        refine List.pairwise_cons.2 ⟨?_, hrest⟩
        intro e he
        exact heq ▸ hentry e he
      · rename_i hnlt hne
        refine List.pairwise_cons.2 ⟨?_, ih hrest⟩
        intro e he
        rcases mem_insertEntry he with rfl | he
        · exact lt_of_not_lt_of_ne hnlt hne
        · exact hentry e he

/-- No entries. -/
def empty : Dictionary α :=
  ⟨[], .nil⟩

/-- Adds an entry, or replaces the one with its key. -/
def insert (d : Dictionary α) (key : String) (value : α) : Dictionary α :=
  ⟨insertEntry key value d.entries, keysAscend_insertEntry key value d.ascending⟩

/-- Adds entries one after the other. -/
def insertAll (d : Dictionary α) (entries : List (String × α)) : Dictionary α :=
  entries.foldl (fun d e => d.insert e.1 e.2) d

/-- The dictionary of some entries, of which the last one counts for each key. -/
def ofList (entries : List (String × α)) : Dictionary α :=
  empty.insertAll entries

/-- Adds every entry of another dictionary. -/
def extend (d other : Dictionary α) : Dictionary α :=
  d.insertAll other.entries

/-- The value of a key. -/
def get? (d : Dictionary α) (key : String) : Option α :=
  d.entries.lookup key

/-- How many entries there are. -/
def size (d : Dictionary α) : Nat :=
  d.entries.length

/-- There are no entries. -/
def isEmpty (d : Dictionary α) : Bool :=
  d.entries.isEmpty

/-- A dictionary is its entries. -/
theorem ext {a b : Dictionary α} (h : a.entries = b.entries) : a = b := by
  cases a
  cases b
  simp_all

end Dictionary

end RecordSchema
