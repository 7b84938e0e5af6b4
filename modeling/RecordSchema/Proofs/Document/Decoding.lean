import Mathlib
import RecordSchema.Loading
import RecordSchema.Proofs.Outcome

/-!
# Documents in envelopes

Which nodes are envelopes, and what is wrong with those that are not, said of the entries that the node
holds: `Envelope.Opens` for an envelope that a document can be taken out of, and `Envelope.Refused` for
the first of the things that may be wrong. Main statement: `decodeNode_envelope`.
-/

namespace RecordSchema

/-! ### Entries of a mapping -/

namespace Node

/-- A key leads to nothing: there is no entry with it, or the first one is null. -/
def Lacks (n : Node) (key : String) : Prop :=
  ∀ value, n.get? key = some value → value.shape = .null

/-- The text that a key leads to, if it leads to anything. -/
inductive Gives (n : Node) (key : String) : Option String → Prop where
  | nothing :
    n.Lacks key →
    Gives n key none
  | text {info text} :
    n.get? key = some (.scalar info text) →
    Gives n key (some text)

/-- A key leads to a collection of some shape. -/
inductive Nests (n : Node) (key : String) : Shape → Prop where
  | sequence {info items} :
    n.get? key = some (.sequence info items) →
    Nests n key .sequence
  | mapping {info entries} :
    n.get? key = some (.mapping info entries) →
    Nests n key .mapping

variable {n value : Node} {key : String}

/-- A key is missing or null, or it has a value. -/
lemma lacks_or_exists (n : Node) (key : String) :
    n.Lacks key ∨ ∃ value, n.get? key = some value ∧ value.shape ≠ .null := by
  by_cases lacks : n.Lacks key
  · exact .inl lacks
  · simp only [Lacks, not_forall] at lacks
    obtain ⟨value, found, notNull⟩ := lacks
    exact .inr ⟨value, found, notNull⟩

/-- A key with a value is not missing. -/
lemma not_lacks (found : n.get? key = some value) (notNull : value.shape ≠ .null) :
    ¬ n.Lacks key :=
  fun lacks => notNull (lacks value found)

/-- Only a mapping has entries. -/
lemma shape_of_get? (found : n.get? key = some value) : n.shape = .mapping := by
  cases n with
  | mapping => rfl
  | _ => cases found

/-- Only a mapping gives a text for a key. -/
lemma Gives.shape_eq {text : String} (gives : n.Gives key (some text)) : n.shape = .mapping := by
  cases gives with
  | text found => exact shape_of_get? found

/-- Only a mapping holds something else than a text under a key. -/
lemma Nests.shape_eq {found : Shape} (nests : n.Nests key found) : n.shape = .mapping := by
  cases nests with
  | sequence found => exact shape_of_get? found
  | mapping found => exact shape_of_get? found

/-- In whatever order entries stand, the only one with a key is the first one with it. -/
lemma get?_of_perm {info : Info} {entries others : List (Node × Node)} {k : Node}
    (perm : entries.Perm ((k, value) :: others)) (isKey : k.text? = some key)
    (none : ∀ e ∈ others, e.1.text? ≠ some key) : (mapping info entries).get? key = some value := by
  have present : (k, value) ∈ entries := perm.mem_iff.2 List.mem_cons_self
  cases found : entries.find? (fun e => e.1.text? == some key) with
  | none =>
    have absent := List.find?_eq_none.1 found _ present
    simp [isKey] at absent
  | some e =>
    have same := List.find?_some found
    rcases List.mem_cons.1 (perm.mem_iff.1 (List.mem_of_find?_eq_some found)) with rfl | other
    · simp [get?, entries?, found]
    · exact absurd (beq_iff_eq.1 same) (none e other)

end Node

/-! ### Steps of a cursor -/

namespace Cursor

variable {c : Cursor}

/-- The child of a mapping is what it has for the key, if anything. -/
lemma child?_of_mapping (mapping : c.node.shape = .mapping) (key : String) :
    c.child? key = .ok ((c.node.get? key).map fun value => ⟨value, c.path ++ [key]⟩) := by
  rw [child?, child, if_pos mapping]
  cases c.node.get? key <;> rfl

/-- What is no mapping has no children. -/
lemma child?_of_ne_mapping (flat : c.node.shape ≠ .mapping) (key : String) :
    c.child? key = .error (.mismatch c.path .mapping c.node.shape) := by
  rw [child?, child, if_neg flat]

end Cursor

namespace Envelope

section Scalar

variable {c : Cursor} {key : String}

/-- A missing key has no text. -/
lemma scalar?_of_lacks (mapping : c.node.shape = .mapping) (lacks : c.node.Lacks key) :
    scalar? c key = .ok none := by
  rw [scalar?, c.child?_of_mapping mapping]
  cases found : c.node.get? key with
  | none => rfl
  | some value =>
    have null := lacks value found
    cases value with
    | null => rfl
    | _ => cases null

/-- The text of a key is that of its value, which must be a scalar. -/
lemma scalar?_of_get? {value : Node} (found : c.node.get? key = some value)
    (notNull : value.shape ≠ .null) :
    scalar? c key = navigated ((Cursor.mk value (c.path ++ [key])).scalar.map some) := by
  rw [scalar?, c.child?_of_mapping (Node.shape_of_get? found), found]
  cases value with
  | null => exact absurd rfl notNull
  | _ => rfl

/-- A scalar is read where the key gives one. -/
lemma scalar?_eq_ok_iff (mapping : c.node.shape = .mapping) {text : Option String} :
    scalar? c key = .ok text ↔ c.node.Gives key text := by
  rcases c.node.lacks_or_exists key with lacks | ⟨value, found, notNull⟩
  · rw [scalar?_of_lacks mapping lacks, Except.ok.injEq]
    constructor
    · rintro rfl
      exact .nothing lacks
    · rintro (_ | found)
      · rfl
      · cases lacks _ found
  · rw [scalar?_of_get? found notNull]
    constructor
    · intro ok
      cases value with
      | scalar =>
        cases ok
        exact .text found
      | _ => cases ok
    · rintro (lacks | found')
      · exact absurd lacks (Node.not_lacks found notNull)
      · cases found.symm.trans found'
        rfl

/-- Where the key leads to a collection, no scalar is read. -/
lemma scalar?_eq_error_iff (mapping : c.node.shape = .mapping) {e : EnvelopeError} :
    scalar? c key = .error e ↔
      ∃ found, c.node.Nests key found ∧
        e = .navigation (.mismatch (c.path ++ [key]) .scalar found) := by
  rcases c.node.lacks_or_exists key with lacks | ⟨value, found, notNull⟩
  · rw [scalar?_of_lacks mapping lacks]
    constructor
    · rintro ⟨⟩
    · rintro ⟨_, found | found, _⟩
      all_goals cases lacks _ found
  · rw [scalar?_of_get? found notNull]
    constructor
    · intro failed
      cases value with
      | null => exact absurd rfl notNull
      | scalar => cases failed
      | sequence =>
        cases failed
        exact ⟨_, .sequence found, rfl⟩
      | mapping =>
        cases failed
        exact ⟨_, .mapping found, rfl⟩
    · rintro ⟨_, found' | found', rfl⟩
      all_goals
        cases found.symm.trans found'
        rfl

/-- What is no mapping has no keys to read a text from. -/
lemma scalar?_of_ne_mapping (flat : c.node.shape ≠ .mapping) (key : String) :
    scalar? c key = .error (.navigation (.mismatch c.path .mapping c.node.shape)) := by
  rw [scalar?, c.child?_of_ne_mapping flat]
  rfl

end Scalar

/-! ### What an envelope holds -/

/-- The name that the metadata of an envelope give to the primary table; an empty one is none. -/
inductive Names (root : Node) : Option String → Prop where
  | nothing :
    root.Lacks "metadata" →
    Names root none
  | name {metadata name} :
    root.get? "metadata" = some metadata →
    metadata.shape = .mapping →
    metadata.Gives "name" name →
    Names root (if name = some "" then none else name)

/-- The body in an envelope, unless the document is blank. -/
inductive Holds (root : Node) : Option Node → Prop where
  | nothing :
    root.Lacks "spec" →
    Holds root none
  | body {body} :
    root.get? "spec" = some body →
    body.shape ≠ .null →
    Holds root (some body)

/-- The node is an envelope of a model with a table and a body. -/
structure Opens (root : Node) (table : Option String) (body : Option Node) : Prop where
  mapping : root.shape = .mapping
  version : root.Gives "version" (some "v1")
  kind : root.Gives "kind" (some "Model")
  table : Names root table
  body : Holds root body

/-- The first thing that is wrong with a node which is no envelope of a model: the node itself, its
version, its kind, its metadata. -/
inductive Refused (root : Node) : EnvelopeError → Prop where
  | notMapping :
    root.shape ≠ .mapping →
    Refused root (.notMapping root.shape)
  | nestedVersion {found} :
    root.Nests "version" found →
    Refused root (.navigation (.mismatch ["version"] .scalar found))
  | unknownVersion {version} :
    root.shape = .mapping →
    root.Gives "version" version →
    version ≠ some "v1" →
    Refused root (.unknownVersion (version.getD ""))
  | nestedKind {found} :
    root.Gives "version" (some "v1") →
    root.Nests "kind" found →
    Refused root (.navigation (.mismatch ["kind"] .scalar found))
  | unknownKind {kind} :
    root.Gives "version" (some "v1") →
    root.Gives "kind" kind →
    kind ≠ some "Model" →
    Refused root (.unknownKind (kind.getD ""))
  | flatMetadata {metadata} :
    root.Gives "version" (some "v1") →
    root.Gives "kind" (some "Model") →
    root.get? "metadata" = some metadata →
    metadata.shape ≠ .null →
    metadata.shape ≠ .mapping →
    Refused root (.navigation (.mismatch ["metadata"] .mapping metadata.shape))
  | nestedName {metadata found} :
    root.Gives "version" (some "v1") →
    root.Gives "kind" (some "Model") →
    root.get? "metadata" = some metadata →
    metadata.Nests "name" found →
    Refused root (.navigation (.mismatch ["metadata", "name"] .scalar found))

/-! ### Decoding -/

variable {root : Node}

/-- The body of an envelope is its specification unless that is missing or null. -/
lemma holds_iff {body : Option Node} :
    Holds root body ↔ body = (root.get? "spec").filter (!·.isNull) := by
  rcases root.lacks_or_exists "spec" with lacks | ⟨value, found, notNull⟩
  · have none : (root.get? "spec").filter (!·.isNull) = none := by
      rw [Option.filter_eq_none_iff]
      intro value found
      simp [Node.isNull, lacks value found]
    rw [none]
    constructor
    · rintro (_ | ⟨found, notNull⟩)
      · rfl
      · exact absurd lacks (Node.not_lacks found notNull)
    · rintro rfl
      exact .nothing lacks
  · have some : (root.get? "spec").filter (!·.isNull) = some value := by
      rw [found, Option.filter_some, Node.isNull, beq_false_of_ne notNull]
      rfl
    rw [some]
    constructor
    · rintro (lacks | ⟨found', _⟩)
      · exact absurd lacks (Node.not_lacks found notNull)
      · exact found'.symm.trans found
    · rintro rfl
      exact .body found notNull

/-- The entry with a key has to give a text. -/
def expect (root : Node) (key text : String) (error : String → EnvelopeError) : Decoded Unit := do
  let given ← scalar? (.ofNode root) key
  if given = some text then return () else throw (error (given.getD ""))

section Expect

variable (mapping : root.shape = .mapping) {key text : String} {error : String → EnvelopeError}

include mapping

/-- A key is as expected exactly when it gives the expected text. -/
lemma expect_eq_ok_iff : expect root key text error = .ok () ↔ root.Gives key (some text) := by
  simp only [expect, bind_eq_ok_iff, scalar?_eq_ok_iff (c := .ofNode root) mapping]
  constructor
  · rintro ⟨given, gives, same⟩
    split at same
    · rename_i eq
      exact eq ▸ gives
    · cases same
  · intro gives
    exact ⟨some text, gives, if_pos rfl⟩

/-- A key is not as expected when it holds no text, or another one, or none. -/
lemma expect_eq_error_iff {e : EnvelopeError} :
    expect root key text error = .error e ↔
      (∃ found, root.Nests key found ∧ e = .navigation (.mismatch [key] .scalar found)) ∨
        ∃ given, root.Gives key given ∧ given ≠ some text ∧ e = error (given.getD "") := by
  simp only [expect, bind_eq_error_iff, scalar?_eq_ok_iff (c := .ofNode root) mapping,
    scalar?_eq_error_iff (c := .ofNode root) mapping]
  apply or_congr Iff.rfl
  constructor
  · rintro ⟨given, gives, other⟩
    split at other
    · cases other
    · rename_i ne
      cases other
      exact ⟨given, gives, ne, rfl⟩
  · rintro ⟨given, gives, ne, rfl⟩
    exact ⟨given, gives, if_neg ne⟩

/-- Decoding a mapping looks at the version, at the kind, and then at the table. -/
lemma decode_of_mapping (origin : Origin) :
    decode root origin = do
      expect root "version" "v1" .unknownVersion
      expect root "kind" "Model" .unknownKind
      let table ← table? (.ofNode root)
      return ⟨(root.get? "spec").filter (!·.isNull),
        ⟨table, some "v1", some "Model", some origin⟩⟩ := by
  simp only [decode, expect, version, modelKind, mapping]
  cases scalar? (.ofNode root) "version" with
  | error e => rfl
  | ok version =>
    by_cases isVersion : version = some "v1"
    · subst isVersion
      cases scalar? (.ofNode root) "kind" with
      | error e => rfl
      | ok kind =>
        by_cases isKind : kind = some "Model"
        · subst isKind
          rfl
        · simp [bind, Except.bind, pure, Except.pure, throw, throwThe, MonadExceptOf.throw, isKind]
    · simp [bind, Except.bind, throw, throwThe, MonadExceptOf.throw, isVersion]

end Expect

section Table

variable {table : Option String}

/-- Without metadata no table is declared. -/
lemma table?_of_lacks (mapping : root.shape = .mapping) (lacks : root.Lacks "metadata") :
    table? (.ofNode root) = .ok none := by
  have atRoot : (Cursor.ofNode root).node.get? "metadata" = root.get? "metadata" := rfl
  rw [table?, Cursor.child?_of_mapping (c := .ofNode root) mapping, atRoot]
  cases found : root.get? "metadata" with
  | none => rfl
  | some metadata =>
    have null := lacks metadata found
    cases metadata with
    | null => rfl
    | _ => cases null

/-- The declared table is the name in the metadata, unless that is empty. -/
lemma table?_of_get? {metadata : Node} (found : root.get? "metadata" = some metadata)
    (notNull : metadata.shape ≠ .null) :
    table? (.ofNode root) =
      scalar? ⟨metadata, ["metadata"]⟩ "name" >>= fun name => .ok (name.filter (· != "")) := by
  have atRoot : (Cursor.ofNode root).node.get? "metadata" = some metadata := found
  rw [table?, Cursor.child?_of_mapping (c := .ofNode root) (Node.shape_of_get? found), atRoot]
  cases metadata with
  | null => exact absurd rfl notNull
  | _ => rfl

/-- The empty name counts as none. -/
lemma filter_ne_empty (name : Option String) :
    name.filter (· != "") = if name = some "" then none else name := by
  cases name with
  | none => rfl
  | some text => by_cases empty : text = "" <;> simp [empty]

/-- The table of an envelope is the one that its metadata name. -/
lemma table?_eq_ok_iff (mapping : root.shape = .mapping) :
    table? (.ofNode root) = .ok table ↔ Names root table := by
  rcases root.lacks_or_exists "metadata" with lacks | ⟨metadata, found, notNull⟩
  · rw [table?_of_lacks mapping lacks, Except.ok.injEq]
    constructor
    · rintro rfl
      exact .nothing lacks
    -- Metadata that are lacking or null are no mapping, so they name no table.
    · rintro (_ | ⟨found, isMapping, _⟩)
      · rfl
      · cases isMapping.symm.trans (lacks _ found)
  · rw [table?_of_get? found notNull]
    by_cases isMapping : metadata.shape = .mapping
    · simp only [bind_eq_ok_iff, scalar?_eq_ok_iff (c := ⟨metadata, ["metadata"]⟩) isMapping,
        filter_ne_empty, Except.ok.injEq]
      constructor
      · rintro ⟨name, gives, rfl⟩
        exact .name found isMapping gives
      · rintro (lacks | ⟨found', _, gives⟩)
        · exact absurd lacks (Node.not_lacks found notNull)
        · cases found.symm.trans found'
          exact ⟨_, gives, rfl⟩
    · rw [scalar?_of_ne_mapping (c := ⟨metadata, ["metadata"]⟩) isMapping]
      constructor
      · rintro ⟨⟩
      · rintro (lacks | ⟨found', isMapping', _⟩)
        · exact absurd lacks (Node.not_lacks found notNull)
        · cases found.symm.trans found'
          exact absurd isMapping' isMapping

/-- There is no table where the metadata are no mapping or have a collection for a name. -/
lemma table?_eq_error_iff (mapping : root.shape = .mapping) {e : EnvelopeError} :
    table? (.ofNode root) = .error e ↔
      ∃ metadata, root.get? "metadata" = some metadata ∧
        (metadata.shape ≠ .null ∧ metadata.shape ≠ .mapping ∧
            e = .navigation (.mismatch ["metadata"] .mapping metadata.shape) ∨
          ∃ found, metadata.Nests "name" found ∧
            e = .navigation (.mismatch ["metadata", "name"] .scalar found)) := by
  rcases root.lacks_or_exists "metadata" with lacks | ⟨metadata, found, notNull⟩
  · rw [table?_of_lacks mapping lacks]
    constructor
    · rintro ⟨⟩
    · rintro ⟨metadata, found, ⟨notNull, _⟩ | ⟨_, nests, _⟩⟩
      · exact absurd lacks (Node.not_lacks found notNull)
      · cases nests.shape_eq.symm.trans (lacks _ found)
  · rw [table?_of_get? found notNull]
    by_cases isMapping : metadata.shape = .mapping
    · simp only [bind_eq_error_iff, reduceCtorEq, and_false, exists_false, or_false,
        scalar?_eq_error_iff (c := ⟨metadata, ["metadata"]⟩) isMapping]
      constructor
      · rintro ⟨shape, nests, rfl⟩
        exact ⟨metadata, found, .inr ⟨shape, nests, rfl⟩⟩
      · rintro ⟨_, found', ⟨_, flat, _⟩ | ⟨shape, nests, rfl⟩⟩
        all_goals cases found.symm.trans found'
        · exact absurd isMapping flat
        · exact ⟨shape, nests, rfl⟩
    · rw [scalar?_of_ne_mapping (c := ⟨metadata, ["metadata"]⟩) isMapping]
      constructor
      · rintro ⟨⟩
        exact ⟨metadata, found, .inl ⟨notNull, isMapping, rfl⟩⟩
      · rintro ⟨_, found', ⟨_, _, rfl⟩ | ⟨_, nests, _⟩⟩
        all_goals cases found.symm.trans found'
        · rfl
        · exact absurd nests.shape_eq isMapping

end Table

/-- A node is decoded when it is an envelope of a model. -/
lemma decode_eq_ok_iff {origin : Origin} {d : Document} :
    decode root origin = .ok d ↔
      ∃ table body, Opens root table body ∧
        d = ⟨body, ⟨table, some "v1", some "Model", some origin⟩⟩ := by
  by_cases mapping : root.shape = .mapping
  · rw [decode_of_mapping mapping]
    simp only [bind_eq_ok_iff, expect_eq_ok_iff mapping, table?_eq_ok_iff mapping, pure, Except.pure,
      Except.ok.injEq]
    constructor
    · rintro ⟨_, version, _, kind, table, names, rfl⟩
      exact ⟨table, _, ⟨mapping, version, kind, names, holds_iff.2 rfl⟩, rfl⟩
    · rintro ⟨table, body, opens, rfl⟩
      exact ⟨(), opens.version, (), opens.kind, table, opens.table, by rw [holds_iff.1 opens.body]⟩
  · constructor
    · intro ok
      rw [decode, if_pos mapping] at ok
      cases ok
    · rintro ⟨table, body, opens, rfl⟩
      exact absurd opens.mapping mapping

/-- A node that is not decoded is refused for the first thing that is wrong with it. -/
lemma decode_eq_error_iff {origin : Origin} {e : EnvelopeError} :
    decode root origin = .error e ↔ Refused root e := by
  by_cases mapping : root.shape = .mapping
  · rw [decode_of_mapping mapping]
    simp only [bind_eq_error_iff, expect_eq_ok_iff mapping, expect_eq_error_iff mapping,
      table?_eq_error_iff mapping, pure, Except.pure, reduceCtorEq, and_false, exists_false, or_false]
    -- The three checks are peeled off in their order; the ones that passed go with each later refusal.
    constructor
    · rintro ((⟨_, nests, rfl⟩ | ⟨_, gives, ne, rfl⟩) | ⟨_, version, later⟩)
      · exact .nestedVersion nests
      · exact .unknownVersion mapping gives ne
      rcases later with (⟨_, nests, rfl⟩ | ⟨_, gives, ne, rfl⟩) | ⟨_, kind, _, found, later⟩
      · exact .nestedKind version nests
      · exact .unknownKind version gives ne
      rcases later with ⟨notNull, flat, rfl⟩ | ⟨_, nests, rfl⟩
      · exact .flatMetadata version kind found notNull flat
      · exact .nestedName version kind found nests
    · intro refused
      cases refused with
      | notMapping flat => exact absurd mapping flat
      | nestedVersion nests => exact .inl (.inl ⟨_, nests, rfl⟩)
      | unknownVersion _ gives ne => exact .inl (.inr ⟨_, gives, ne, rfl⟩)
      | nestedKind version nests => exact .inr ⟨(), version, .inl (.inl ⟨_, nests, rfl⟩)⟩
      | unknownKind version gives ne => exact .inr ⟨(), version, .inl (.inr ⟨_, gives, ne, rfl⟩)⟩
      | flatMetadata version kind found notNull flat =>
        exact .inr ⟨(), version, .inr ⟨(), kind, _, found, .inl ⟨notNull, flat, rfl⟩⟩⟩
      | nestedName version kind found nests =>
        exact .inr ⟨(), version, .inr ⟨(), kind, _, found, .inr ⟨_, nests, rfl⟩⟩⟩
  · have failed : decode root origin = .error (.notMapping root.shape) := by
      rw [decode, if_pos mapping]
      rfl
    rw [failed]
    constructor
    · rintro ⟨⟩
      exact .notMapping mapping
    · intro refused
      cases refused with
      | notMapping => rfl
      | nestedVersion nests => exact absurd nests.shape_eq mapping
      | unknownVersion isMapping => exact absurd isMapping mapping
      | nestedKind version | unknownKind version | flatMetadata version | nestedName version =>
        exact absurd version.shape_eq mapping

/-! ### Wrapping -/

/-- Entries wrap a body and the name of its table: they are the entries of an envelope and others under
other keys, in any order, and the metadata are so too. -/
inductive Wraps (table : String) (body : Node) : List (Node × Node) → Prop where
  | intro {entries metadata extra extra' : List (Node × Node)} {i₁ i₂ i₃ i₄ i₅ i₆ i₇ i₈ i₉ : Info} :
    entries.Perm ([(.scalar i₁ "version", .scalar i₂ "v1"), (.scalar i₃ "kind", .scalar i₄ "Model"),
      (.scalar i₅ "metadata", .mapping i₆ metadata), (.scalar i₇ "spec", body)] ++ extra) →
    (∀ e ∈ extra, ∀ key ∈ ["version", "kind", "metadata", "spec"], e.1.text? ≠ some key) →
    metadata.Perm ((.scalar i₈ "name", .scalar i₉ table) :: extra') →
    (∀ e ∈ extra', e.1.text? ≠ some "name") →
    Wraps table body entries

/-- A body and the name of its table can be taken out of what they are wrapped in. -/
lemma Wraps.opens {table : String} {body : Node} {entries : List (Node × Node)}
    (wraps : Wraps table body entries) (named : table ≠ "") (notNull : body.shape ≠ .null)
    (info : Info) : Opens (.mapping info entries) (some table) (some body) := by
  obtain ⟨perm, others, perm', others'⟩ := wraps
  have apart : ∀ key ∈ ["version", "kind", "metadata", "spec"],
      ∀ k v : Node, (k, v) ∈ _ → k.text? ≠ some key :=
    fun key isKey k v mem => others (k, v) mem key isKey
  have version : (Node.mapping info entries).get? "version" = some (.scalar _ "v1") :=
    Node.get?_of_perm perm rfl (by simpa [Node.text?] using apart "version" (by decide))
  have kind : (Node.mapping info entries).get? "kind" = some (.scalar _ "Model") :=
    Node.get?_of_perm (perm.trans (@List.perm_middle _ _ [_] _)) rfl
      (by simpa [Node.text?] using apart "kind" (by decide))
  have metadata : (Node.mapping info entries).get? "metadata" = some (.mapping _ _) :=
    Node.get?_of_perm (perm.trans (@List.perm_middle _ _ [_, _] _)) rfl
      (by simpa [Node.text?] using apart "metadata" (by decide))
  have spec : (Node.mapping info entries).get? "spec" = some body :=
    Node.get?_of_perm (perm.trans (@List.perm_middle _ _ [_, _, _] _)) rfl
      (by simpa [Node.text?] using apart "spec" (by decide))
  have names := Names.name metadata rfl (.text (Node.get?_of_perm perm' rfl others'))
  rw [if_neg (by simpa using named)] at names
  exact ⟨rfl, .text version, .text kind, names, .body spec notNull⟩

end Envelope

/-- A node in the envelope format is decoded exactly when it is an envelope of a model, and otherwise the
first thing that is wrong with it is reported with its origin. So a body and the name of its table come
back from what they are wrapped in. A null node is a blank document in either format. -/
theorem decodeNode_envelope (root : Node) (origin : Origin) :
    (root.shape ≠ .null →
        (∀ d, decodeNode .envelope root origin = .ok d ↔
          ∃ table body, Envelope.Opens root table body ∧
            d = ⟨body, ⟨table, some "v1", some "Model", some origin⟩⟩) ∧
          ∀ e, decodeNode .envelope root origin = .error e ↔
            ∃ cause, Envelope.Refused root cause ∧ e = .ofEnvelope origin.label cause) ∧
      (∀ table body entries info, table ≠ "" → body.shape ≠ .null →
        Envelope.Wraps table body entries →
          decodeNode .envelope (.mapping info entries) origin =
            .ok ⟨some body, ⟨some table, some "v1", some "Model", some origin⟩⟩) ∧
      (root.shape = .null →
        ∀ f, decodeNode f root origin = .ok ⟨none, ⟨none, none, none, some origin⟩⟩) := by
  have enveloped {root : Node} (notNull : root.shape ≠ .null) :
      decodeNode .envelope root origin =
        (Envelope.decode root origin).mapError (.ofEnvelope origin.label) := by
    rw [decodeNode, Format.decode, Node.isNull, beq_false_of_ne notNull]
    rfl
  refine ⟨fun notNull => ⟨fun d => ?_, fun e => ?_⟩, ?_, ?_⟩
  · rw [enveloped notNull, mapError_eq_ok_iff, Envelope.decode_eq_ok_iff]
  · simp only [enveloped notNull, mapError_eq_error_iff, Envelope.decode_eq_error_iff]
  · intro table body entries info named notNull wraps
    have isMapping : (Node.mapping info entries).shape ≠ .null := nofun
    rw [enveloped isMapping, mapError_eq_ok_iff, Envelope.decode_eq_ok_iff]
    exact ⟨_, _, wraps.opens named notNull info, rfl⟩
  · intro null f
    cases root with
    | null => rfl
    | _ => cases null

/-- Where the documents of the run below come from. -/
def userOrigin : Origin :=
  ⟨"user.yaml", 0, .unknown⟩

/-- The body of a document about users. -/
def userBody : Node :=
  .mapping .bare [(.scalar .bare "user", .mapping .bare [(.scalar .bare "id!", .scalar .bare "string")])]

/-- The entries of an envelope of `userBody` out of the usual order, with a note among them. -/
def userEnvelope : List (Node × Node) :=
  [(.scalar .bare "spec", userBody), (.scalar .bare "note", .null .bare),
    (.scalar .bare "metadata", .mapping .bare [(.scalar .bare "name", .scalar .bare "user")]),
    (.scalar .bare "version", .scalar .bare "v1"), (.scalar .bare "kind", .scalar .bare "Model")]

/-- `userEnvelope` wraps `userBody`. -/
lemma userEnvelope_wraps : Envelope.Wraps "user" userBody userEnvelope := by
  let version : Node × Node := (.scalar .bare "version", .scalar .bare "v1")
  let kind : Node × Node := (.scalar .bare "kind", .scalar .bare "Model")
  let named : Node × Node := (.scalar .bare "name", .scalar .bare "user")
  let metadata : Node × Node := (.scalar .bare "metadata", .mapping .bare [named])
  let spec : Node × Node := (.scalar .bare "spec", userBody)
  let note : Node × Node := (.scalar .bare "note", .null .bare)
  have perm : userEnvelope.Perm ([version, kind, metadata, spec] ++ [note]) :=
    calc [spec, note, metadata] ++ [version, kind]
      List.Perm _ ([version, kind] ++ ([spec, note] ++ [metadata])) := List.perm_append_comm
      List.Perm _ ([version, kind] ++ ([metadata] ++ [spec, note])) :=
        List.perm_append_comm.append_left _
  refine .intro perm ?_ (.refl [named]) nofun
  simp [note, Node.text?]

/-- `userBody` and its table come back from `userEnvelope`, an empty mapping has no version, and a null
node is a blank document. -/
theorem decodeNode_envelope_user :
    decodeNode .envelope (.mapping .bare userEnvelope) userOrigin =
        .ok ⟨some userBody, ⟨some "user", some "v1", some "Model", some userOrigin⟩⟩ ∧
      decodeNode .envelope (.mapping .bare []) userOrigin =
        .error (.unknownVersion userOrigin.label "") ∧
      decodeNode .envelope (.null .bare) userOrigin =
        .ok ⟨none, ⟨none, none, none, some userOrigin⟩⟩ := by
  refine ⟨?_, ?_, ?_⟩
  · exact (decodeNode_envelope (.null .bare) userOrigin).2.1 "user" userBody userEnvelope .bare
      (by decide) nofun userEnvelope_wraps
  · apply (((decodeNode_envelope (.mapping .bare []) userOrigin).1 nofun).2 _).2
    exact ⟨_, .unknownVersion rfl (.nothing nofun) nofun, rfl⟩
  · exact (decodeNode_envelope (.null .bare) userOrigin).2.2 rfl .envelope

end RecordSchema
