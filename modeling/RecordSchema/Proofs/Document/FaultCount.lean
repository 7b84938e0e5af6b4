import Mathlib
import RecordSchema.Proofs.Document.Reading

/-!
# How often a document has a problem

The multiplicity of each problem, counted on the mappings and sequences that the walk of a document
meets. Main statement: `Document.count_faults`, the faults of a document hold each problem that many
times.
-/

namespace RecordSchema

/-- The entry declares an enumeration of a name. -/
def Entry.declaresEnum (name : String) (e : Entry) : Bool :=
  e.2.items?.isSome && e.name == name

/-- The entry declares a structure of a name. -/
def Entry.declaresStructure (name : String) (e : Entry) : Bool :=
  e.2.entries?.isSome && e.name == name

namespace Document

/-- The mappings of the document: that at the root and those that its walk meets. -/
def mappings (d : Document) : List (List Entry) :=
  d.entries :: d.walk.filterMap (·.2.entries?)

/-- The sequences that the walk of the document meets, with the names of their entries. -/
def sequences (d : Document) : List (String × List Node) :=
  d.walk.filterMap fun e => e.2.items?.map (e.name, ·)

/-- How often the document by itself has a problem. -/
def faultCount (d : Document) : Diagnostic → Nat
  | .invalidRoot found =>
    if d.root.map Node.shape = some found ∧ found ≠ .null ∧ found ≠ .mapping then 1 else 0
  | .duplicateField name => (d.mappings.map fun m => m.countP (·.name == name) - 1).sum
  | .nonScalarEnumValue enum =>
    (d.sequences.map fun (name, items) =>
      if name = enum then items.countP (·.text?.isNone) else 0).sum
  | .duplicateEnumValue value =>
    (d.sequences.map fun (_, items) => items.countP (·.text? == some value) - 1).sum
  | .multiplePrimaryTables table =>
    if d.table? = some table then d.walk.countP (·.declaresStructure table) - 1 else 0
  | .duplicateEnum _ | .duplicateStructure _ | .duplicatePackage _ => 0

end Document

/-! ### Counting the faults of a document -/

/-- Each repeated name gives one diagnostic. -/
lemma count_map_repeats {make : String → Diagnostic} (inj : Function.Injective make)
    (names : List String) (name : String) :
    ((repeats names).map make).count (make name) = names.count name - 1 := by
  rw [List.count_map_of_injective _ make inj, count_repeats]

/-- Diagnostics of one sort hold none of another. -/
lemma count_map_eq_zero {α : Type} {make : α → Diagnostic} {problem : Diagnostic}
    (other : ∀ a, make a ≠ problem) (l : List α) : (l.map make).count problem = 0 := by
  apply List.count_eq_zero_of_not_mem
  intro mem
  obtain ⟨a, _, eq⟩ := List.mem_map.1 mem
  exact other a eq

/-- A sum over what is found in a list. -/
lemma sum_map_filterMap {α β : Type} (find : α → Option β) (weight : β → Nat) (l : List α) :
    ((l.filterMap find).map weight).sum = (l.map fun a => ((find a).map weight).getD 0).sum := by
  induction l with
  | nil => rfl
  | cons a rest ih => cases h : find a <;> simp [h, ih]

/-- One and the same for each member with a property. -/
lemma flatMap_ite {α β : Type} (p : α → Bool) (b : β) (l : List α) :
    (l.flatMap fun a => if p a then [b] else []) = List.replicate (l.countP p) b := by
  induction l with
  | nil => rfl
  | cons a rest ih => cases h : p a <;> simp [h, ih, List.replicate_succ]

/-- How often a name occurs is how many entries have it. -/
lemma count_map_name (entries : List Entry) (name : String) :
    (entries.map Entry.name).count name = entries.countP (·.name == name) := by
  rw [List.count_eq_countP, List.countP_map]
  rfl

/-- How often a text occurs is how many items have it. -/
lemma count_filterMap_text (items : List Node) (text : String) :
    (items.filterMap Node.text?).count text = items.countP (·.text? == some text) := by
  induction items with
  | nil => rfl
  | cons item rest ih =>
    cases h : item.text? with
    | none => simp [h, ih]
    | some t => by_cases eq : t = text <;> simp [h, ih, eq]

namespace Entry

/-- How often the value of an entry by itself has a problem. -/
def faultCount (e : Entry) : Diagnostic → Nat
  | .duplicateField name =>
    (e.2.entries?.map fun m => m.countP (Entry.name · == name) - 1).getD 0
  | .nonScalarEnumValue enum =>
    (e.2.items?.map fun items => if e.name = enum then items.countP (·.text?.isNone) else 0).getD 0
  | .duplicateEnumValue value =>
    (e.2.items?.map fun items => items.countP (·.text? == some value) - 1).getD 0
  | _ => 0

/-- The faults of a value are as many as they should be. -/
lemma count_faults (e : Entry) (problem : Diagnostic) :
    e.faults.count problem = e.faultCount problem := by
  obtain ⟨key, value⟩ := e
  cases value with
  | null info => cases problem <;> rfl
  | scalar info text => cases problem <;> rfl
  | sequence info items =>
    rw [faults, List.count_append]
    -- Two lists of faults, and a kind of diagnostic is in at most one of them.
    cases problem with
    | nonScalarEnumValue enum =>
      rw [List.map_const', List.count_replicate, ← List.countP_eq_length_filter,
        count_map_eq_zero]
      · simp [faultCount, Node.items?]
      · simp
    | duplicateEnumValue value =>
      rw [count_map_eq_zero, count_map_repeats (fun _ _ => Diagnostic.duplicateEnumValue.inj),
        count_filterMap_text]
      · simp [faultCount, Node.items?]
      · simp
    | _ =>
      exact Nat.add_eq_zero_iff.2 ⟨count_map_eq_zero (by simp) _, count_map_eq_zero (by simp) _⟩
  | mapping info entries =>
    rw [faults]
    cases problem with
    | duplicateField name =>
      rw [count_map_repeats (fun _ _ => Diagnostic.duplicateField.inj), count_map_name]
      rfl
    | _ => exact count_map_eq_zero (by simp) _

/-- With a declared primary table these are the entries that declare a structure of its name. -/
lemma isTable_some (table : String) : isTable (some table) = declaresStructure table := by
  funext e
  rw [Bool.eq_iff_iff, isTable_iff, declaresStructure, Bool.and_eq_true, beq_iff_eq,
    Option.some.injEq, eq_comm (a := table)]

end Entry

/-! ### Counting the primary tables -/

/-- What is reported of the primary tables in a walk. -/
def secondTables (table : Option String) (walk : List Entry) : List Diagnostic :=
  (withEarlier walk).flatMap fun (earlier, e) =>
    if e.isTable table && earlier.any (·.isTable table) then
      [.multiplePrimaryTables e.name] else []

/-- How often a walk holds one primary table too many. -/
def secondTableCount (table : Option String) (walk : List Entry) : Diagnostic → Nat
  | .multiplePrimaryTables name =>
    if table = some name then walk.countP (·.declaresStructure name) - 1 else 0
  | _ => 0

/-- Of the primary tables in a walk all but the first are reported. -/
lemma secondTables_some (table : String) (walk : List Entry) :
    secondTables (some table) walk =
      List.replicate (walk.countP (·.declaresStructure table) - 1)
        (.multiplePrimaryTables table) := by
  -- each diagnostic holds the name of its entry, which is that of the table
  have named (before : List Entry × Entry) :
      (if before.2.isTable (some table) && before.1.any (·.isTable (some table)) then
          [Diagnostic.multiplePrimaryTables before.2.name] else []) =
        if before.2.isTable (some table) && before.1.any (·.isTable (some table)) then
          [Diagnostic.multiplePrimaryTables table] else [] := by
    split
    · rename_i h
      rw [Bool.and_eq_true, Entry.isTable_iff] at h
      rw [Option.some.inj h.1.2]
    · rfl
  calc
    secondTables (some table) walk = List.replicate ((withEarlier walk).countP fun (earlier, e) =>
          e.isTable (some table) && earlier.any (·.isTable (some table)))
          (Diagnostic.multiplePrimaryTables table) := by
      simp only [secondTables, named]
      exact flatMap_ite _ _ _
    _ = List.replicate (walk.countP (Entry.isTable (some table)) - 1)
          (Diagnostic.multiplePrimaryTables table) := by
      exact congrArg (List.replicate · _) (countP_withEarlier _ walk)
    _ = _ := by rw [Entry.isTable_some]

/-- The primary tables are reported as often as they should be. -/
lemma count_secondTables (table : Option String) (walk : List Entry) (problem : Diagnostic) :
    (secondTables table walk).count problem = secondTableCount table walk problem := by
  cases table with
  | none =>
    have nothing : secondTables none walk = [] := by simp [secondTables]
    rw [nothing]
    cases problem <;> rfl
  | some table =>
    rw [secondTables_some, List.count_replicate]
    cases problem with
    | multiplePrimaryTables name =>
      by_cases eq : table = name <;> simp [secondTableCount, eq]
    | _ => simp [secondTableCount]

/-- What is wrong with the entries of a walk: each by itself, and all primary tables but the
first. -/
lemma count_faultsAfter (table : Option String) (walk : List Entry) (problem : Diagnostic) :
    ((withEarlier walk).flatMap fun (earlier, e) =>
        e.faultsAfter table (earlier.any (·.isTable table))).count problem =
      (walk.map (·.faultCount problem)).sum + secondTableCount table walk problem := by
  rw [← count_secondTables, secondTables, List.count_flatMap, List.count_flatMap]
  -- both sides are sums over the walk once each entry stands with those before it
  conv_rhs => rw [← map_snd_withEarlier walk, List.map_map]
  rw [map_snd_withEarlier, ← List.sum_map_add]
  congr 2
  funext ⟨earlier, e⟩
  simp only [Function.comp_apply, Entry.faultsAfter, List.count_append, Entry.count_faults]

namespace Document

/-- A root that is neither null nor a mapping is refused once. -/
lemma count_rootFaults (d : Document) (problem : Diagnostic) :
    d.rootFaults.count problem =
      match problem with
      | .invalidRoot found =>
        if d.root.map Node.shape = some found ∧ found ≠ .null ∧ found ≠ .mapping then 1 else 0
      | _ => 0 := by
  obtain ⟨root, m⟩ := d
  match root with
  | none => cases problem <;> simp [rootFaults]
  | some (.null _) => cases problem <;> simp +contextual [rootFaults, Node.shape, eq_comm]
  | some (.mapping _ _) => cases problem <;> simp +contextual [rootFaults, Node.shape, eq_comm]
  | some (.scalar _ _) =>
    cases problem with
    | invalidRoot found => cases found <;> rfl
    | _ => rfl
  | some (.sequence _ _) =>
    cases problem with
    | invalidRoot found => cases found <;> rfl
    | _ => rfl

/-- The faults of a document are as many as they should be. -/
lemma count_faults (d : Document) (problem : Diagnostic) :
    d.faults.count problem = d.faultCount problem := by
  rw [faults, List.count_append, List.count_append, count_faultsAfter, count_rootFaults]
  cases problem with
  | duplicateField name =>
    rw [count_map_repeats (fun _ _ => Diagnostic.duplicateField.inj), count_map_name]
    simp only [faultCount, mappings, List.map_cons, List.sum_cons, sum_map_filterMap,
      Entry.faultCount, secondTableCount, Nat.zero_add, Nat.add_zero]
    exact Nat.add_comm _ _
  | nonScalarEnumValue _ | duplicateEnumValue _ =>
    -- only sequences have these, so the sum is one over the sequences of the walk
    rw [count_map_eq_zero]
    · simp only [faultCount, sequences, sum_map_filterMap, Entry.faultCount, Option.map_map]
      rw [Nat.zero_add]
      rfl
    · simp
  | _ =>
    rw [count_map_eq_zero]
    · simp [faultCount, Entry.faultCount, secondTableCount]
    · simp

end Document

end RecordSchema
