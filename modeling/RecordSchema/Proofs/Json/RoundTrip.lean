import Mathlib
import RecordSchema.Json.Document

/-!
# Reading back what was written

The written form of a value is read back as that value. A record is an object, so a field is found by
its name wherever it stands, and what is left out on writing is what reading puts in its place. Main
statements: `Node.readsBack`, by induction over trees, and `json_readsBack`, nothing is lost in any
part of the model.
-/

namespace RecordSchema

open Json

/-- Every value is read back from its written form. -/
def ReadsBack {α : Type} (write : α → Json) (read : Json → Option α) : Prop :=
  ∀ a, read (write a) = some a

/-! ### Parts of values -/

namespace Json

variable {α : Type} {fields : List (String × Json)} {size index : Nat} {name : String}

/-- A required field of an object is looked up by its name. -/
@[simp]
lemma required_object : (object fields).required size index name = lookup name fields :=
  rfl

/-- A field of an object with a default is read where it is found. -/
lemma defaulted_object {default : α} {read : Json → Option α} :
    (object fields).defaulted size index name default read =
      ((lookup name fields).map read).getD (some default) := by
  rw [defaulted, field?]
  cases lookup name fields <;> rfl

/-- An optional field of an object is read where it is found, and may be null there. -/
lemma optional_object {read : Json → Option α} :
    (object fields).optional size index name read =
      ((lookup name fields).map (nullable read)).getD (some none) := by
  have found : (object fields).field? size index name = some (lookup name fields) := rfl
  unfold optional
  rw [found]
  cases lookup name fields <;> rfl

/-- Nothing is found among no fields. -/
lemma lookup_nil : lookup name [] = none :=
  rfl

/-- The first field of a name is found. -/
lemma lookup_cons (n : String) (v : Json) :
    lookup name ((n, v) :: fields) = if n = name then some v else lookup name fields :=
  rfl

/-- What is not found among the first fields is looked for among the others. -/
lemma lookup_append (more : List (String × Json)) :
    lookup name (fields ++ more) = (lookup name fields).or (lookup name more) := by
  induction fields with
  | nil => rfl
  | cons f rest ih =>
    obtain ⟨n, v⟩ := f
    rw [List.cons_append, lookup_cons, lookup_cons, ih]
    split <;> rfl

/-- Null is read as the absence of a value. -/
lemma nullable_null {read : Json → Option α} : nullable read null = some none :=
  rfl

/-- All but null is read as a value. -/
lemma nullable_of_ne_null {read : Json → Option α} {j : Json} (ne : j ≠ null) :
    nullable read j = (read j).map some := by
  cases j with
  | null => exact absurd rfl ne
  | _ => rfl

end Json

namespace ReadsBack

variable {α : Type} {write : α → Json} {read : Json → Option α}

/-- A text is read back. -/
lemma string : ReadsBack .string string? :=
  fun _ => rfl

/-- A count is read back, for it fits into 64 bits. -/
lemma count : ReadsBack .count count? := by
  intro n
  have fits : n.toNat < UInt64.size := n.toNat_lt_size
  show (if n.toNat < UInt64.size then some (UInt64.ofNat n.toNat) else none) = some n
  rw [if_pos fits, UInt64.ofNat_toNat]

/-- The items of an array are read back one by one. -/
lemma list (h : ReadsBack write read) : ReadsBack (fun l => .array (l.map write)) (list? read) := by
  intro l
  show (l.map write).mapM read = some l
  induction l with
  | nil => rfl
  | cons a rest ih => simp [List.mapM_cons, h a, ih]

/-- A value that may be null is read back unless it is written as null. -/
lemma nullable (h : ReadsBack write read) {a : α} (ne : write a ≠ .null) :
    Json.nullable read (write a) = some (some a) := by
  rw [nullable_of_ne_null ne, h a]
  rfl

/-- A text that may be absent is read back. -/
lemma option : ReadsBack ofOption (Json.nullable string?) := by
  intro o
  cases o <;> rfl

end ReadsBack

/-! ### Packages -/

/-- The kind of a field is read back from its name. -/
lemma FieldKind.readsBack : ReadsBack toJson ofJson? := by
  intro k
  cases k <;> rfl

/-- What linking found is read back. -/
lemma Resolution.readsBack : ReadsBack toJson ofJson? := by
  intro r
  cases r with
  | unresolved => rfl
  | resolved name package =>
    have package := ReadsBack.option package
    simp [toJson, ofJson?, variant?, lookup_cons, optional_object, string?, package]

/-- The type of a field is read back. -/
lemma FieldType.readsBack : ReadsBack toJson ofJson? := by
  intro t
  have kind := FieldKind.readsBack t.kind
  have resolution := Resolution.readsBack t.resolution
  simp [toJson, ofJson?, lookup_cons, defaulted_object, string?, kind, resolution]

/-- A field is read back. -/
lemma Field.readsBack : ReadsBack toJson ofJson? := by
  intro f
  have type := FieldType.readsBack f.type
  simp [toJson, ofJson?, lookup_cons, string?, type]

/-- A structure is read back with its fields. -/
lemma Structure.readsBack : ReadsBack toJson ofJson? := by
  intro s
  have fields := Field.readsBack.list s.fields
  simp [toJson, ofJson?, lookup_cons, string?, fields]

/-- The constant of a value is written if there is one. -/
lemma EnumValue.lookup_constant (v : EnumValue) :
    v.toJson.field? 3 2 "constant" = some (v.constant.map .string) := by
  cases constant : v.constant <;> simp [toJson, field?, lookup_cons, lookup_nil, constant]

/-- A value is read back with its constant, which is left out if there is none. -/
lemma EnumValue.readsBack : ReadsBack toJson ofJson? := by
  rintro ⟨name, comment, constant⟩
  cases constant <;>
    simp [toJson, ofJson?, lookup_cons, lookup_nil, defaulted_object, string?, Json.nullable]

/-- An enumeration is read back with its values. -/
lemma Enumeration.readsBack : ReadsBack toJson ofJson? := by
  intro e
  have values := EnumValue.readsBack.list e.values
  simp [toJson, ofJson?, lookup_cons, string?, values]

/-- A package is read back. -/
lemma Package.readsBack : ReadsBack toJson ofJson? := by
  intro p
  have enums := Enumeration.readsBack.list p.enums
  have structures := Structure.readsBack.list p.structures
  have dependencies := ReadsBack.string.list p.dependencies
  simp [toJson, ofJson?, lookup_cons, string?, enums, structures, dependencies]

/-! ### Type maps -/

namespace Dictionary

variable {α : Type}

/-- An entry whose key comes after all others is put at the end. -/
lemma insertEntry_of_last {key : String} {value : α} {entries : List (String × α)}
    (last : ∀ e ∈ entries, e.1 < key) :
    insertEntry key value entries = entries ++ [(key, value)] := by
  induction entries with
  | nil => rfl
  | cons e rest ih =>
    rw [List.forall_mem_cons] at last
    rw [insertEntry, if_neg last.1.asymm, if_neg last.1.ne', ih last.2]
    rfl

/-- Entries in order that come after those of a dictionary are put behind them. -/
lemma entries_insertAll {d : Dictionary α} {added : List (String × α)}
    (ascending : KeysAscend (d.entries ++ added)) :
    (d.insertAll added).entries = d.entries ++ added := by
  induction added generalizing d with
  | nil => exact (List.append_nil d.entries).symm
  | cons e rest ih =>
    have last : ∀ e' ∈ d.entries, e'.1 < e.1 := by
      intro e' mem
      exact (List.pairwise_append.1 ascending).2.2 e' mem e List.mem_cons_self
    have entries : (d.insert e.1 e.2).entries = d.entries ++ [e] := insertEntry_of_last last
    have step : d.insertAll (e :: rest) = (d.insert e.1 e.2).insertAll rest := rfl
    rw [step, ih, entries, List.append_assoc, List.singleton_append]
    rwa [entries, List.append_assoc, List.singleton_append]

/-- A dictionary is made again of its entries. -/
lemma ofList_entries (d : Dictionary α) : ofList d.entries = d :=
  Dictionary.ext (entries_insertAll d.ascending)

end Dictionary

/-- The target of a type is read back. -/
lemma TypeTarget.readsBack : ReadsBack toJson ofJson? := by
  intro t
  simp [toJson, ofJson?, lookup_cons, defaulted_object, string?]

/-- A type map is read back, because its entries are in order. -/
lemma TypeMap.readsBack : ReadsBack toJson ofJson? := by
  intro m
  have entries : (m.entries.map fun e => (e.1, e.2.toJson)).mapM
      (fun f => (TypeTarget.ofJson? f.2).map (f.1, ·)) = some m.entries := by
    induction m.entries with
    | nil => rfl
    | cons e rest ih => simp [List.mapM_cons, TypeTarget.readsBack e.2, ih]
  simp only [toJson, ofJson?, entries]
  exact congrArg some m.ofList_entries

/-! ### Nodes and documents -/

/-- A position is read back. -/
lemma Position.readsBack : ReadsBack toJson ofJson? := by
  intro p
  simp [toJson, ofJson?, lookup_cons, ReadsBack.count p.line, ReadsBack.count p.column,
    ReadsBack.count p.offset]

/-- The origin of a document is read back. -/
lemma Origin.readsBack : ReadsBack toJson ofJson? := by
  intro o
  have position := Position.readsBack o.position
  simp [toJson, ofJson?, lookup_cons, string?, ReadsBack.count o.index, position]

/-- The field of a comment is there unless the comment is empty. -/
lemma lookup_commentField (name field comment : String) :
    lookup name (commentField field comment) =
      if field = name ∧ comment ≠ "" then some (.string comment) else none := by
  unfold commentField
  split <;> simp [lookup, *]

namespace Info

variable (i : Info) (kind : Json)

/-- The content of a written node is found. -/
lemma required_kind : (i.toJsonWith kind).required 4 0 "kind" = some kind := by
  simp [toJsonWith, lookup_cons]

/-- A comment is written if there is one. -/
lemma field_head : (i.toJsonWith kind).field? 4 1 "head_comment" =
    some (if i.head = "" then none else some (.string i.head)) := by
  simp [toJsonWith, field?, lookup_cons, lookup_nil, lookup_append, lookup_commentField]

/-- The comment behind a node is found if there is one. -/
lemma field_line : (i.toJsonWith kind).field? 4 2 "line_comment" =
    some (if i.line = "" then none else some (.string i.line)) := by
  simp [toJsonWith, field?, lookup_cons, lookup_nil, lookup_append, lookup_commentField]

/-- The position of a written node is found. -/
lemma field_position :
    (i.toJsonWith kind).field? 4 3 "position" = some (some i.position.toJson) := by
  simp [toJsonWith, field?, lookup_cons, lookup_append, lookup_commentField]

/-- A missing comment is read as the empty one. -/
lemma ofJson?_toJsonWith : ofJson? (i.toJsonWith kind) = some i := by
  have head : (i.toJsonWith kind).defaulted 4 1 "head_comment" "" string? = some i.head := by
    rw [defaulted, field_head]
    split_ifs with empty
    · rw [empty]
    · rfl
  have line : (i.toJsonWith kind).defaulted 4 2 "line_comment" "" string? = some i.line := by
    rw [defaulted, field_line]
    split_ifs with empty
    · rw [empty]
    · rfl
  have position : (i.toJsonWith kind).defaulted 4 3 "position" .unknown Position.ofJson? =
      some i.position := by
    rw [defaulted, field_position]
    exact Position.readsBack i.position
  rw [ofJson?, head, line, position]
  rfl

end Info

/-- What is written of a node is read by its content. -/
lemma Node.ofJson?_toJsonWith (i : Info) (kind : Json) :
    Node.ofJson? (i.toJsonWith kind) =
      match kind.variant? with
      | some ("Null", content) => if holdsNothing content then some (.null i) else none
      | some ("Scalar", some (.string text)) => some (.scalar i text)
      | some ("Sequence", some (.array items)) => (ofJsonItems? items).map (.sequence i)
      | some ("Mapping", some (.array entries)) => (ofJsonEntries? entries).map (.mapping i)
      | _ => none := by
  rw [Node.ofJson?]
  split
  case h_1 none => cases none.symm.trans (i.required_kind kind)
  case h_2 found =>
    cases found.symm.trans (i.required_kind kind)
    rw [i.ofJson?_toJsonWith]
    dsimp only
    split
    all_goals simp_all

mutual

/-- A node is read back with all that lies in it. -/
lemma Node.ofJson?_toJson (n : Node) : Node.ofJson? n.toJson = some n := by
  cases n with
  | null i =>
    rw [toJson, Node.ofJson?_toJsonWith]
    rfl
  | scalar i text =>
    rw [toJson, Node.ofJson?_toJsonWith]
    rfl
  | sequence i items =>
    have items := Node.ofJsonItems?_toJsonItems items
    rw [toJson, Node.ofJson?_toJsonWith]
    simp [variant?, items]
  | mapping i entries =>
    have entries := Node.ofJsonEntries?_toJsonEntries entries
    rw [toJson, Node.ofJson?_toJsonWith]
    simp [variant?, entries]

/-- The items of a sequence are read back. -/
lemma Node.ofJsonItems?_toJsonItems (items : List Node) :
    Node.ofJsonItems? (Node.toJsonItems items) = some items := by
  cases items with
  | nil => rw [toJsonItems, ofJsonItems?]
  | cons n rest =>
    rw [toJsonItems, ofJsonItems?, Node.ofJson?_toJson n, Node.ofJsonItems?_toJsonItems rest]

/-- The entries of a mapping are read back. -/
lemma Node.ofJsonEntries?_toJsonEntries (entries : List (Node × Node)) :
    Node.ofJsonEntries? (Node.toJsonEntries entries) = some entries := by
  match entries with
  | [] => rw [toJsonEntries, ofJsonEntries?]
  | (k, v) :: rest =>
    have key := Node.ofJson?_toJson k
    have value := Node.ofJson?_toJson v
    have others := Node.ofJsonEntries?_toJsonEntries rest
    rw [toJsonEntries, ofJsonEntries?]
    simp [lookup_cons, key, value, others]

end

/-- A tree is read back with all that it carries. -/
lemma Node.readsBack : ReadsBack toJson ofJson? :=
  ofJson?_toJson

/-- A node is never written as null, not even a null node. -/
lemma Node.toJson_ne_null (n : Node) : n.toJson ≠ .null := by
  cases n <;> simp [toJson, Info.toJsonWith]

/-- What is known about a document is read back. -/
lemma Metadata.readsBack : ReadsBack toJson ofJson? := by
  rintro ⟨table, version, kind, source⟩
  have texts := ReadsBack.option
  cases source with
  | none =>
    simp [toJson, ofJson?, lookup_cons, optional_object, texts table, texts version, texts kind,
      nullable_null]
  | some o =>
    have source := Origin.readsBack.nullable (a := o) (by simp [Origin.toJson])
    simp [toJson, ofJson?, lookup_cons, optional_object, texts table, texts version, texts kind,
      source]

/-- A body that is missing is written as null, and so it is told apart from a body that is a null
node. -/
lemma Document.readsBack : ReadsBack toJson ofJson? := by
  rintro ⟨root, metadata⟩
  have metadata := Metadata.readsBack metadata
  cases root with
  | none => simp [toJson, ofJson?, lookup_cons, optional_object, nullable_null, metadata]
  | some n =>
    have root := Node.readsBack.nullable n.toJson_ne_null
    simp [toJson, ofJson?, lookup_cons, optional_object, root, metadata]

/-- Nodes, documents, packages and their parts, and type maps are read back as they were, although
empty comments and missing constants are not written. -/
theorem json_readsBack :
    ReadsBack Node.toJson Node.ofJson? ∧ ReadsBack Document.toJson Document.ofJson? ∧
      ReadsBack Package.toJson Package.ofJson? ∧ ReadsBack Structure.toJson Structure.ofJson? ∧
      ReadsBack Enumeration.toJson Enumeration.ofJson? ∧ ReadsBack Field.toJson Field.ofJson? ∧
      ReadsBack EnumValue.toJson EnumValue.ofJson? ∧
      ReadsBack FieldType.toJson FieldType.ofJson? ∧
      ReadsBack Resolution.toJson Resolution.ofJson? ∧
      ReadsBack TypeMap.toJson TypeMap.ofJson? ∧
      (∀ n : Node,
        n.toJson.field? 4 1 "head_comment" =
            some (if n.info.head = "" then none else some (.string n.info.head)) ∧
          n.toJson.field? 4 2 "line_comment" =
            some (if n.info.line = "" then none else some (.string n.info.line))) ∧
      ∀ v : EnumValue, v.toJson.field? 3 2 "constant" = some (v.constant.map .string) := by
  refine ⟨Node.readsBack, Document.readsBack, Package.readsBack, Structure.readsBack,
    Enumeration.readsBack, Field.readsBack, EnumValue.readsBack, FieldType.readsBack,
    Resolution.readsBack, TypeMap.readsBack, fun n => ?_, EnumValue.lookup_constant⟩
  cases n <;> exact ⟨Info.field_head _ _, Info.field_line _ _⟩

end RecordSchema
