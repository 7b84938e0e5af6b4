import Mathlib
import RecordSchema.Proofs.Outcome
import RecordSchema.Proofs.Source.Written

/-!
# The events of a text are well nested

While events are read, a stack of goals says what is still to come. Here it is written down what events
the goals ask for, and each step is shown to answer an event that, put in front of what is asked for
after it, is what was asked for before. Main statement: `exists_streamOf_of_ofText`, the events of a
text without aliases are those of some documents.
-/

namespace RecordSchema.Yaml

/-- An event that stands for another node. -/
def Event.isAlias : Event → Bool
  | .reference _ => true
  | _ => false

/-! ### What is asked for -/

section Asked

variable {k : List (Located Event) → Prop} {events : List (Located Event)}

/-- The events of a node, and then others. -/
def NodeThen (k : List (Located Event) → Prop) (events : List (Located Event)) : Prop :=
  ∃ (n : Node) (own rest : List (Located Event)), n.WrittenBy own ∧ k rest ∧ events = own ++ rest

/-- The events of some items and the end of a sequence, and then others. -/
def ItemsThen (k : List (Located Event) → Prop) (events : List (Located Event)) : Prop :=
  ∃ items own m rest, Node.ItemsWrittenBy items own ∧ k rest ∧
    events = own ++ ⟨.sequenceEnd, m⟩ :: rest

/-- The events of some entries and the end of a mapping, and then others. -/
def EntriesThen (k : List (Located Event) → Prop) (events : List (Located Event)) : Prop :=
  ∃ entries own m rest, Node.EntriesWrittenBy entries own ∧ k rest ∧
    events = own ++ ⟨.mappingEnd, m⟩ :: rest

/-- A scalar is a whole node, and stands for null if it is plain and spelled so. -/
lemma nodeThen_of_scalar {plain : Bool} {text : String} {anchor : Option String} {m : Mark}
    (rest : k events) : NodeThen k (⟨.scalar plain text anchor, m⟩ :: events) := by
  by_cases isNull : plain ∧ text ∈ ["", "~", "null", "Null", "NULL"]
  · obtain ⟨rfl, isNull⟩ := isNull
    exact ⟨.null ⟨"", "", .ofMark m⟩, [_], events, .null anchor isNull rfl, rest, rfl⟩
  · exact ⟨.scalar ⟨"", "", .ofMark m⟩ text, [_], events, .scalar plain anchor isNull rfl, rest, rfl⟩

/-- The start of a sequence makes a node of its items and its end. -/
lemma nodeThen_of_sequenceStart {anchor : Option String} {m : Mark} (below : ItemsThen k events) :
    NodeThen k (⟨.sequenceStart anchor, m⟩ :: events) := by
  obtain ⟨items, own, m', rest, items, asked, rfl⟩ := below
  refine ⟨.sequence ⟨"", "", .ofMark m⟩ _, _, rest, .sequence anchor m' rfl items, asked, ?_⟩
  simp

/-- The start of a mapping makes a node of its entries and its end. -/
lemma nodeThen_of_mappingStart {anchor : Option String} {m : Mark} (below : EntriesThen k events) :
    NodeThen k (⟨.mappingStart anchor, m⟩ :: events) := by
  obtain ⟨entries, own, m', rest, entries, asked, rfl⟩ := below
  refine ⟨.mapping ⟨"", "", .ofMark m⟩ _, _, rest, .mapping anchor m' rfl entries, asked, ?_⟩
  simp

/-- A sequence may end before any further item. -/
lemma itemsThen_of_end {m : Mark} (rest : k events) :
    ItemsThen k (⟨.sequenceEnd, m⟩ :: events) :=
  ⟨[], [], m, events, .nil, rest, rfl⟩

/-- A mapping may end before any further entry. -/
lemma entriesThen_of_end {m : Mark} (rest : k events) :
    EntriesThen k (⟨.mappingEnd, m⟩ :: events) :=
  ⟨[], [], m, events, .nil, rest, rfl⟩

/-- An item and what is left of a sequence after it. -/
lemma itemsThen_of_nodeThen (h : NodeThen (ItemsThen k) events) : ItemsThen k events := by
  obtain ⟨n, first, _, written, ⟨items, own, m, rest, others, asked, rfl⟩, rfl⟩ := h
  exact ⟨n :: items, first ++ own, m, rest, .cons written others, asked, by simp⟩

/-- A key, a value and what is left of a mapping after them. -/
lemma entriesThen_of_nodeThen (h : NodeThen (NodeThen (EntriesThen k)) events) :
    EntriesThen k events := by
  obtain ⟨key, first, _, written, ⟨value, second, _, written', below, rfl⟩, rfl⟩ := h
  obtain ⟨entries, own, m, rest, others, asked, rfl⟩ := below
  exact ⟨(key, value) :: entries, first ++ second ++ own, m, rest, .cons written written' others,
    asked, by simp⟩

end Asked

/-- What a goal asks for, given what is asked for after it. Below the goals of a document there are
none. -/
def Goal.Asks (k : List (Located Event) → Prop) : Goal → List (Located Event) → Prop
  | .documentStart _, events => ∃ docs, StreamOf docs events
  | .documentEnd, events => ∃ m rest docs, events = ⟨.documentEnd, m⟩ :: rest ∧ StreamOf docs rest
  | .documentContent, events | .node, events => NodeThen k events
  | .sequenceEntry, events | .indentlessEntry, events | .flowSequenceEntry _, events =>
    ItemsThen k events
  | .mappingKey, events | .flowMappingKey _, events | .pairEnd _, events => EntriesThen k events
  | .mappingValue, events | .flowMappingValue, events | .flowMappingNoValue, events
  | .pairValue, events => NodeThen (EntriesThen k) events
  | .pairKey, events => NodeThen (NodeThen (EntriesThen k)) events

/-- What goals ask for, the innermost first. -/
def Asked : List Goal → List (Located Event) → Prop
  | [], events => events = []
  | goal :: goals, events => goal.Asks (Asked goals) events

namespace EventReader

variable {s s' : EventReader} {e : Located Event} {events : List (Located Event)}

/-! ### One step -/

/-- Reading the content of a node answers the first event of a node. -/
lemma readContent_asked {block indentless : Bool} {p : Properties}
    (ok : s.readContent block indentless p = .ok (e, s')) (asked : Asked s'.goals events) :
    NodeThen (Asked s.goals) (e :: events) := by
  unfold readContent at ok
  -- By the kind of the token: a scalar is a whole node, and a collection begins one with entries to come.
  split at ok
  · cases ok
    exact nodeThen_of_scalar asked
  · cases ok
    exact nodeThen_of_sequenceStart asked
  · cases ok
    exact nodeThen_of_mappingStart asked
  · split at ok
    · cases ok
      exact nodeThen_of_sequenceStart asked
    · split at ok
      · cases ok
        exact nodeThen_of_sequenceStart asked
      · split at ok
        · cases ok
          exact nodeThen_of_mappingStart asked
        · split at ok
          · cases ok
            exact nodeThen_of_scalar asked
          · cases ok
  · cases ok

/-- Properties of a node change nothing about what is to come. -/
lemma goals_readProperties {p : Properties} (ok : s.readProperties = .ok (p, s')) :
    s'.goals = s.goals := by
  unfold readProperties at ok
  split at ok
  case h_1 =>
    obtain ⟨_, _, ok⟩ := bind_eq_ok_iff.1 ok
    cases ok
    rfl
  case h_2 =>
    cases ok
    rfl
  case h_3 =>
    obtain ⟨_, _, ok⟩ := bind_eq_ok_iff.1 ok
    cases ok
    rfl
  case h_4 =>
    obtain ⟨_, _, ok⟩ := bind_eq_ok_iff.1 ok
    cases ok
    rfl
  case h_5 =>
    cases ok
    rfl

/-- Reading a node that is no alias answers the first event of a node. -/
lemma readNode_asked {block indentless : Bool} (ok : s.readNode block indentless = .ok (e, s'))
    (own : e.value.isAlias = false) (asked : Asked s'.goals events) :
    NodeThen (Asked s.goals) (e :: events) := by
  unfold readNode at ok
  split at ok
  · split at ok
    · cases ok
      cases own
    · cases ok
  · split at ok
    · cases ok
    · rename_i properties
      have node := readContent_asked ok asked
      rwa [goals_readProperties properties] at node

/-- Reading a node that may be absent answers the first event of a node. -/
lemma readNodeUnless_asked {isAbsent : Token → Bool} {block indentless : Bool}
    (ok : s.readNodeUnless isAbsent block indentless = .ok (e, s'))
    (own : e.value.isAlias = false) (asked : Asked s'.goals events) :
    NodeThen (Asked s.goals) (e :: events) := by
  unfold readNodeUnless at ok
  split at ok
  · cases ok
    exact nodeThen_of_scalar asked
  · exact readNode_asked ok own asked

/-! ### The steps for collections -/

/-- An entry of a block sequence starts an item or ends the sequence. -/
lemma sequenceEntry_asked (ok : s.sequenceEntry = .ok (e, s')) (own : e.value.isAlias = false)
    (asked : Asked s'.goals events) : ItemsThen (Asked s.goals) (e :: events) := by
  unfold sequenceEntry at ok
  split at ok
  · cases ok
    exact itemsThen_of_end asked
  · exact itemsThen_of_nodeThen (readNodeUnless_asked ok own asked)
  · cases ok

/-- An entry of a sequence that is not indented starts an item or ends the sequence. -/
lemma indentlessEntry_asked (ok : s.indentlessEntry = .ok (e, s')) (own : e.value.isAlias = false)
    (asked : Asked s'.goals events) : ItemsThen (Asked s.goals) (e :: events) := by
  unfold indentlessEntry at ok
  split at ok
  · exact itemsThen_of_nodeThen (readNodeUnless_asked ok own asked)
  · cases ok
    exact itemsThen_of_end asked

/-- A key of a block mapping starts an entry or ends the mapping. -/
lemma mappingKey_asked (ok : s.mappingKey = .ok (e, s')) (own : e.value.isAlias = false)
    (asked : Asked s'.goals events) : EntriesThen (Asked s.goals) (e :: events) := by
  unfold mappingKey at ok
  split at ok
  · exact entriesThen_of_nodeThen (readNodeUnless_asked ok own asked)
  · cases ok
    exact entriesThen_of_nodeThen (nodeThen_of_scalar asked)
  · cases ok
    exact entriesThen_of_end asked
  · cases ok

/-- A value of a block mapping starts a node that the rest of the mapping follows. -/
lemma mappingValue_asked (ok : s.mappingValue = .ok (e, s')) (own : e.value.isAlias = false)
    (asked : Asked s'.goals events) : NodeThen (EntriesThen (Asked s.goals)) (e :: events) := by
  unfold mappingValue at ok
  split at ok
  · exact readNodeUnless_asked ok own asked
  · cases ok
    exact nodeThen_of_scalar asked

/-- A comma changes nothing about what is to come. -/
lemma goals_skipComma {first : Bool} (ok : s.skipComma first = .ok s') : s'.goals = s.goals := by
  unfold skipComma at ok
  split at ok
  · cases ok
    rfl
  · split at ok
    · cases ok
      rfl
    · cases ok

/-- An entry of a flow sequence starts an item or ends the sequence. -/
lemma flowSequenceEntry_asked {first : Bool} (ok : s.flowSequenceEntry first = .ok (e, s'))
    (own : e.value.isAlias = false) (asked : Asked s'.goals events) :
    ItemsThen (Asked s.goals) (e :: events) := by
  unfold flowSequenceEntry at ok
  split at ok
  · cases ok
    exact itemsThen_of_end asked
  · split at ok
    · cases ok
    · rename_i behind comma
      rw [← goals_skipComma comma]
      split at ok
      · cases ok
        exact itemsThen_of_end asked
      · cases ok
        exact itemsThen_of_nodeThen (nodeThen_of_mappingStart (entriesThen_of_nodeThen asked))
      · exact itemsThen_of_nodeThen (readNode_asked ok own asked)

/-- The key of a single pair starts a node, and the value and the end of its mapping follow. -/
lemma pairKey_asked (ok : s.pairKey = .ok (e, s')) (own : e.value.isAlias = false)
    (asked : Asked s'.goals events) :
    NodeThen (NodeThen (EntriesThen (Asked s.goals))) (e :: events) := by
  unfold pairKey at ok
  split at ok
  · cases ok
    exact nodeThen_of_scalar asked
  · exact readNode_asked ok own asked

/-- The value of a single pair starts a node, and the end of its mapping follows. -/
lemma pairValue_asked (ok : s.pairValue = .ok (e, s')) (own : e.value.isAlias = false)
    (asked : Asked s'.goals events) : NodeThen (EntriesThen (Asked s.goals)) (e :: events) := by
  unfold pairValue at ok
  split at ok
  · exact readNodeUnless_asked ok own asked
  · cases ok
    exact nodeThen_of_scalar asked

/-- A key of a flow mapping starts an entry or ends the mapping. -/
lemma flowMappingKey_asked {first : Bool} (ok : s.flowMappingKey first = .ok (e, s'))
    (own : e.value.isAlias = false) (asked : Asked s'.goals events) :
    EntriesThen (Asked s.goals) (e :: events) := by
  unfold flowMappingKey at ok
  split at ok
  · cases ok
    exact entriesThen_of_end asked
  · split at ok
    · cases ok
    · rename_i behind comma
      rw [← goals_skipComma comma]
      split at ok
      · cases ok
        exact entriesThen_of_end asked
      · exact entriesThen_of_nodeThen (readNodeUnless_asked ok own asked)
      · cases ok
        exact entriesThen_of_nodeThen (nodeThen_of_scalar asked)
      · exact entriesThen_of_nodeThen (readNode_asked ok own asked)

/-- A value of a flow mapping starts a node that the rest of the mapping follows. -/
lemma flowMappingValue_asked (ok : s.flowMappingValue = .ok (e, s'))
    (own : e.value.isAlias = false) (asked : Asked s'.goals events) :
    NodeThen (EntriesThen (Asked s.goals)) (e :: events) := by
  unfold flowMappingValue at ok
  dsimp only at ok
  split at ok
  · split at ok
    · cases ok
      exact nodeThen_of_scalar asked
    · exact readNode_asked ok own asked
  · cases ok
    exact nodeThen_of_scalar asked

/-! ### The steps for documents -/

/-- A document is started, and then its content and its end are asked for. -/
lemma streamOf_of_content {m : Mark} {goals : List Goal}
    (asked : NodeThen (Asked (.documentEnd :: goals)) events) :
    ∃ docs, StreamOf docs (⟨.documentStart, m⟩ :: events) := by
  obtain ⟨doc, own, _, written, ⟨m', rest, docs, rfl, others⟩, rfl⟩ := asked
  exact ⟨doc :: docs, .cons m m' written others⟩

/-- An explicit start of a document is the first event of some documents. -/
lemma startExplicit_asked (ok : s.startExplicit = .ok (e, s')) (asked : Asked s'.goals events) :
    ∃ docs, StreamOf docs (e :: events) := by
  unfold startExplicit at ok
  split at ok
  · cases ok
  · split at ok
    · cases ok
      exact streamOf_of_content asked
    · cases ok

/-- A step that answers an event has succeeded with it. -/
lemma map_some_eq_ok {x : Step} (ok : x.map some = .ok (some (e, s'))) : x = .ok (e, s') := by
  cases x with
  | error _ => cases ok
  | ok _ =>
    cases ok
    rfl

/-- A start of a document is the first event of some documents. -/
lemma startDocument_asked {implicit : Bool} (ok : s.startDocument implicit = .ok (some (e, s')))
    (asked : Asked s'.goals events) : ∃ docs, StreamOf docs (e :: events) := by
  unfold startDocument at ok
  dsimp only at ok
  split at ok
  · cases ok
  · cases ok
  · split at ok
    · exact startExplicit_asked (map_some_eq_ok ok) asked
    · cases map_some_eq_ok ok
      exact streamOf_of_content asked

/-- An end of a document comes before some documents. -/
lemma endDocument_asked (ok : s.endDocument = .ok (e, s')) (asked : Asked s'.goals events) :
    ∃ m rest docs, e :: events = ⟨.documentEnd, m⟩ :: rest ∧ StreamOf docs rest := by
  have answered : ∃ m ended, e = ⟨.documentEnd, m⟩ ∧ s'.goals = .documentStart ended :: s.goals := by
    unfold endDocument at ok
    dsimp only at ok
    split at ok
    · split at ok <;> cases ok
      exact ⟨_, _, rfl, rfl⟩
    · split at ok <;> cases ok
      exact ⟨_, _, rfl, rfl⟩
  obtain ⟨m, ended, rfl, goals⟩ := answered
  rw [goals] at asked
  obtain ⟨docs, others⟩ := asked
  exact ⟨m, events, docs, rfl, others⟩

/-! ### Runs -/

/-- A step answers an event that makes what is asked for after it what was asked for before. -/
lemma next_asked (ok : s.next = .ok (some (e, s'))) (own : e.value.isAlias = false)
    (asked : Asked s'.goals events) : Asked s.goals (e :: events) := by
  unfold next at ok
  split at ok
  case h_1 => cases ok
  case h_2 goal goals eq =>
    rw [eq]
    -- One lemma for each goal: what it asks for begins with the event, and goes on with the new goals.
    cases goal with
    | documentStart => exact startDocument_asked ok asked
    | documentContent => exact readNodeUnless_asked (map_some_eq_ok ok) own asked
    | documentEnd => exact endDocument_asked (map_some_eq_ok ok) asked
    | node => exact readNode_asked (map_some_eq_ok ok) own asked
    | sequenceEntry => exact sequenceEntry_asked (map_some_eq_ok ok) own asked
    | indentlessEntry => exact indentlessEntry_asked (map_some_eq_ok ok) own asked
    | mappingKey => exact mappingKey_asked (map_some_eq_ok ok) own asked
    | mappingValue => exact mappingValue_asked (map_some_eq_ok ok) own asked
    | flowSequenceEntry => exact flowSequenceEntry_asked (map_some_eq_ok ok) own asked
    | pairKey => exact pairKey_asked (map_some_eq_ok ok) own asked
    | pairValue => exact pairValue_asked (map_some_eq_ok ok) own asked
    | pairEnd =>
      cases map_some_eq_ok ok
      exact entriesThen_of_end asked
    | flowMappingKey => exact flowMappingKey_asked (map_some_eq_ok ok) own asked
    | flowMappingValue => exact flowMappingValue_asked (map_some_eq_ok ok) own asked
    | flowMappingNoValue =>
      cases map_some_eq_ok ok
      exact nodeThen_of_scalar asked

/-- Only where documents are asked for can there be no more events. -/
lemma asked_nil (ok : s.next = .ok none) : Asked s.goals [] := by
  unfold next at ok
  split at ok
  case h_1 eq =>
    rw [eq]
    rfl
  case h_2 goal goals eq =>
    rw [eq]
    have answered {x : Step} (ok : x.map some = .ok none) : False := by
      cases x <;> cases ok
    cases goal with
    | documentStart => exact ⟨[], .nil⟩
    | _ => exact (answered ok).elim

/-- The events of a run are what the goals ask for. -/
lemma run_asked {bound : Nat} (ok : run bound s = .ok events)
    (own : ∀ e ∈ events, e.value.isAlias = false) : Asked s.goals events := by
  induction bound generalizing s events with
  | zero => cases ok
  | succ bound ih =>
    unfold run at ok
    split at ok
    · cases ok
    · rename_i last
      cases ok
      exact asked_nil last
    · rename_i e after step
      cases later : run bound after with
      | error _ =>
        rw [later] at ok
        cases ok
      | ok rest =>
        rw [later] at ok
        cases ok
        rw [List.forall_mem_cons] at own
        exact next_asked step own.1 (ih later own.2)

end EventReader

/-- The events of a text without aliases are those of some documents. -/
lemma Event.exists_streamOf_of_ofText {text : List Char} {events : List (Located Event)}
    (ok : Event.ofText text = .ok events) (own : ∀ e ∈ events, e.value.isAlias = false) :
    ∃ docs, StreamOf docs events := by
  unfold Event.ofText at ok
  cases read : Token.ofText text with
  | error _ =>
    rw [read] at ok
    cases ok
  | ok tokens =>
    rw [read] at ok
    exact EventReader.run_asked ok own

end RecordSchema.Yaml
