import Mathlib
import RecordSchema.Proofs.Document.Comments
import RecordSchema.Proofs.Source.Nesting
import RecordSchema.Proofs.Source.Trailing

/-!
# From events to documents

The builder takes events one by one and keeps the collections that are open, but all that it does with
the events of a node is to put down one tree for the node. Main statements: `WrittenBy.exists_tree`, and
`documents_of_events`, the events of some documents give back these documents, and the documents of a
text without aliases are those that its events write down.
-/

namespace RecordSchema

open Yaml
open Yaml.Tree (Builder)

/-! ### What the builder does -/

namespace Yaml.Tree

/-- A plain scalar stands for null when it is spelled in one of five ways. -/
lemma isNullText_iff {text : String} :
    isNullText text ↔ text ∈ ["", "~", "null", "Null", "NULL"] := by
  simp [isNullText, or_assoc]

/-- Keys and values that have been put down in turn are paired again. -/
lemma pairs_flatMap (entries : List (Tree × Tree)) :
    pairs (entries.flatMap fun e => [e.1, e.2]) = entries := by
  induction entries with
  | nil => rfl
  | cons e rest ih => simp [pairs, ih]

namespace Builder

/-- What is put into an open collection is added to its children. -/
lemma foldl_put (c : OpenCollection) (rest : List OpenCollection) (root : Option Tree)
    (documents ts : List Tree) :
    ts.foldl put ⟨c :: rest, root, documents⟩ =
      ⟨{ c with children := ts.reverse ++ c.children } :: rest, root, documents⟩ := by
  induction ts generalizing c with
  | nil => rfl
  | cons t ts ih =>
    rw [List.foldl_cons, put, ih]
    simp

/-- A collection that is opened, filled and closed is put down as a whole. -/
lemma close_foldl_put (b : Builder) (isMapping : Bool) (site : Site) (ts : List Tree) :
    (ts.foldl put (b.enter isMapping site)).close =
      b.put (if isMapping then mapping site (pairs ts) else sequence site ts) := by
  obtain ⟨opened, root, documents⟩ := b
  rw [enter, foldl_put, close]
  simp [OpenCollection.close]

end Builder

end Yaml.Tree

/-! ### Nodes without comments behind them -/

namespace Node

mutual

/-- The node with the comments of a source above it, and so for all that is in it. -/
def withHeads (s : SourceLines) : Node → Node
  | null i => null (s.infoAt i.position)
  | scalar i text => scalar (s.infoAt i.position) text
  | sequence i items => sequence (s.infoAt i.position) (itemsWithHeads s items)
  | mapping i entries => mapping (s.infoAt i.position) (entriesWithHeads s entries)

/-- The items of a sequence with the comments above them. -/
def itemsWithHeads (s : SourceLines) : List Node → List Node
  | [] => []
  | n :: rest => n.withHeads s :: itemsWithHeads s rest

/-- The entries of a mapping with the comments above them. -/
def entriesWithHeads (s : SourceLines) : List (Node × Node) → List (Node × Node)
  | [] => []
  | (key, value) :: rest => (key.withHeads s, value.withHeads s) :: entriesWithHeads s rest

end

mutual

/-- The events of a node put down one tree, which stands for the node. -/
lemma WrittenBy.exists_tree {n : Node} {events : List (Located Event)} (h : n.WrittenBy events) :
    ∃ t, (∀ b, events.foldl Builder.feed b = b.put t) ∧ ∀ s, ofTree s t = n.withHeads s := by
  match n, h with
  | null _, .null _ isNull place =>
    refine ⟨_, fun b => rfl, fun s => ?_⟩
    rw [ofTree, if_pos, withHeads, place]
    rw [Bool.true_and]
    exact Tree.isNullText_iff.2 isNull
  | scalar _ _, .scalar _ _ notNull place =>
    refine ⟨_, fun b => rfl, fun s => ?_⟩
    rw [ofTree, if_neg, withHeads, place]
    rw [Bool.and_eq_true, Tree.isNullText_iff]
    exact notNull
  | sequence _ items, @WrittenBy.sequence _ _ m _ anchor _ place below =>
    obtain ⟨ts, feed, eq⟩ := below.exists_trees
    refine ⟨.sequence ⟨m, anchor⟩ ts, fun b => ?_, fun s => ?_⟩
    · rw [List.cons_append, List.foldl_cons, List.foldl_append, feed]
      exact Builder.close_foldl_put b false ⟨m, anchor⟩ ts
    · rw [ofTree, withHeads, eq, place]
  | mapping _ entries, @WrittenBy.mapping _ _ m _ anchor _ place below =>
    obtain ⟨ts, feed, eq⟩ := below.exists_trees
    refine ⟨.mapping ⟨m, anchor⟩ ts, fun b => ?_, fun s => ?_⟩
    -- A builder holds the nodes of a mapping in one row; they are paired when it is closed.
    · have closed := Builder.close_foldl_put b true ⟨m, anchor⟩ (ts.flatMap fun e => [e.1, e.2])
      rw [if_pos rfl, Tree.pairs_flatMap] at closed
      rw [List.cons_append, List.foldl_cons, List.foldl_append, feed]
      exact closed
    · rw [ofTree, withHeads, eq, place]

/-- The events of items put down one tree for each item. -/
lemma ItemsWrittenBy.exists_trees {items : List Node} {events : List (Located Event)}
    (h : ItemsWrittenBy items events) :
    ∃ ts, (∀ b, events.foldl Builder.feed b = ts.foldl Builder.put b) ∧
      ∀ s, ofItems s ts = itemsWithHeads s items := by
  match items, h with
  | [], .nil => exact ⟨[], fun _ => rfl, fun _ => rfl⟩
  | n :: rest, .cons first others =>
    obtain ⟨t, feed, eq⟩ := first.exists_tree
    obtain ⟨ts, feeds, eqs⟩ := others.exists_trees
    refine ⟨t :: ts, fun b => ?_, fun s => ?_⟩
    · rw [List.foldl_append, feed, feeds, List.foldl_cons]
    · rw [ofItems, itemsWithHeads, eq, eqs]

/-- The events of entries put down a tree for each key and one for each value. -/
lemma EntriesWrittenBy.exists_trees {entries : List (Node × Node)} {events : List (Located Event)}
    (h : EntriesWrittenBy entries events) :
    ∃ ts : List (Tree × Tree),
      (∀ b, events.foldl Builder.feed b = (ts.flatMap fun e => [e.1, e.2]).foldl Builder.put b) ∧
        ∀ s, ofEntries s ts = entriesWithHeads s entries := by
  match entries, h with
  | [], .nil => exact ⟨[], fun _ => rfl, fun _ => rfl⟩
  | (key, value) :: rest, .cons first second others =>
    obtain ⟨k, feedKey, eqKey⟩ := first.exists_tree
    obtain ⟨v, feedValue, eqValue⟩ := second.exists_tree
    obtain ⟨ts, feeds, eqs⟩ := others.exists_trees
    refine ⟨(k, v) :: ts, fun b => ?_, fun s => ?_⟩
    · rw [List.foldl_append, List.foldl_append, feedKey, feedValue, feeds]
      rfl
    · rw [ofEntries, entriesWithHeads, eqKey, eqValue, eqs]

end

end Node

/-- Each document that is fed to the builder is added to those it has, and nothing of it is left for the
next one. -/
lemma StreamOf.exists_trees {docs : List Node} {events : List (Located Event)}
    (h : StreamOf docs events) :
    ∃ ts : List Yaml.Tree,
      (∀ b, (events.foldl Builder.feed b).documents = ts.reverse ++ b.documents) ∧
        ∀ s, ts.map (Node.ofTree s) = docs.map (Node.withHeads s) := by
  induction h with
  | nil => exact ⟨[], fun _ => rfl, fun _ => rfl⟩
  | @cons doc docs events events' m m' written others ih =>
    obtain ⟨t, feed, eq⟩ := written.exists_tree
    obtain ⟨ts, feeds, eqs⟩ := ih
    refine ⟨t :: ts, fun b => ?_, fun s => ?_⟩
    · rw [List.cons_append, List.foldl_cons, List.foldl_append, List.foldl_cons, feed, feeds]
      simp [Builder.feed, Builder.put]
    · rw [List.map_cons, List.map_cons, eq, eqs]

/-- The document with the comments of a source, given by the places of its nodes. -/
def SourceLines.commented (s : SourceLines) (doc : Node) : Node :=
  s.attachTrailing (doc.withHeads s)

/-- The events of some documents give back these documents, with the comments of the source. -/
lemma documentsOf_eq_of_streamOf {docs : List Node} {events : List (Located Event)}
    (h : StreamOf docs events) (s : SourceLines) :
    documentsOf s events = docs.map s.commented := by
  obtain ⟨ts, feed, eq⟩ := h.exists_trees
  have built : Tree.ofEvents events = ts := by
    rw [Tree.ofEvents, feed]
    simp [Builder.start]
  have commented : ts.map (fun t => s.attachTrailing (Node.ofTree s t)) =
      (ts.map (Node.ofTree s)).map s.attachTrailing := by
    rw [List.map_map]
    rfl
  rw [documentsOf, built, commented, eq, List.map_map]
  rfl

/-! ### Comments apart -/

namespace Node

mutual

/-- The comments above a node are erased like all others. -/
lemma withoutComments_withHeads (s : SourceLines) (n : Node) :
    (n.withHeads s).withoutComments = n.withoutComments := by
  match n with
  | null _ => rfl
  | scalar _ _ => rfl
  | sequence _ items =>
    rw [withHeads, withoutComments, itemsWithoutComments_itemsWithHeads s items]
    rfl
  | mapping _ entries =>
    rw [withHeads, withoutComments, entriesWithoutComments_entriesWithHeads s entries]
    rfl

/-- The comments above items are erased as well. -/
lemma itemsWithoutComments_itemsWithHeads (s : SourceLines) (items : List Node) :
    itemsWithoutComments (itemsWithHeads s items) = itemsWithoutComments items := by
  match items with
  | [] => rfl
  | n :: rest =>
    rw [itemsWithHeads, itemsWithoutComments, itemsWithoutComments, withoutComments_withHeads s n,
      itemsWithoutComments_itemsWithHeads s rest]

/-- The comments above keys and values are erased as well. -/
lemma entriesWithoutComments_entriesWithHeads (s : SourceLines) (entries : List (Node × Node)) :
    entriesWithoutComments (entriesWithHeads s entries) = entriesWithoutComments entries := by
  match entries with
  | [] => rfl
  | (key, value) :: rest =>
    rw [entriesWithHeads, entriesWithoutComments, entriesWithoutComments,
      withoutComments_withHeads s key, withoutComments_withHeads s value,
      entriesWithoutComments_entriesWithHeads s rest]

end

variable {f : Nat → Info → Info}

mutual

/-- A change of nothing but comments makes no difference to the tree without comments. -/
lemma withoutComments_mapNumbered (keeps : ∀ n i, (f n i).withoutComments = i.withoutComments)
    (number : Nat) (n : Node) :
    (n.mapNumbered f number).1.withoutComments = n.withoutComments := by
  match n with
  | null _ => simp [mapNumbered, withoutComments, keeps]
  | scalar _ _ => simp [mapNumbered, withoutComments, keeps]
  | sequence _ items =>
    simp only [mapNumbered, withoutComments, keeps,
      itemsWithoutComments_mapNumbered keeps (number + 1) items]
  | mapping _ entries =>
    simp only [mapNumbered, withoutComments, keeps,
      entriesWithoutComments_mapNumbered keeps (number + 1) entries]

/-- Items keep all but their comments when a numbered change does. -/
lemma itemsWithoutComments_mapNumbered
    (keeps : ∀ n i, (f n i).withoutComments = i.withoutComments) (number : Nat)
    (items : List Node) :
    itemsWithoutComments (mapNumberedItems f number items).1 = itemsWithoutComments items := by
  match items with
  | [] => rfl
  | n :: rest =>
    simp only [mapNumberedItems, itemsWithoutComments, withoutComments_mapNumbered keeps number n,
      itemsWithoutComments_mapNumbered keeps _ rest]

/-- Entries keep all but their comments when a numbered change does. -/
lemma entriesWithoutComments_mapNumbered
    (keeps : ∀ n i, (f n i).withoutComments = i.withoutComments) (number : Nat)
    (entries : List (Node × Node)) :
    entriesWithoutComments (mapNumberedEntries f number entries).1 =
      entriesWithoutComments entries := by
  match entries with
  | [] => rfl
  | (key, value) :: rest =>
    simp only [mapNumberedEntries, entriesWithoutComments,
      withoutComments_mapNumbered keeps number key, withoutComments_mapNumbered keeps _ value,
      entriesWithoutComments_mapNumbered keeps _ rest]

end

end Node

/-- Giving a document the comments of a source changes nothing else in it. -/
lemma SourceLines.withoutComments_commented (s : SourceLines) (doc : Node) :
    (s.commented doc).withoutComments = doc.withoutComments := by
  have keeps (number : Nat) (i : Info) :
      (s.withTrailing (s.candidates (doc.withHeads s)) number i).withoutComments =
        i.withoutComments := by
    simp only [Info.withoutComments, position_withTrailing]
  rw [commented, attachTrailing, Node.withoutComments_mapNumbered keeps,
    Node.withoutComments_withHeads]

/-! ### Aliases -/

/-- The search for an alias finds one at an event that is one, and nowhere else. -/
lemma firstAlias?_eq_findSome? (events : List (Located Event)) :
    firstAlias? events =
      events.findSome? fun e => if e.value.isAlias then some e.mark.line else none := by
  rw [firstAlias?]
  congr 1
  funext e
  cases e.value <;> rfl

/-- Without aliases there is no first one. -/
lemma firstAlias?_eq_none {events : List (Located Event)}
    (own : ∀ e ∈ events, e.value.isAlias = false) : firstAlias? events = none := by
  rw [firstAlias?_eq_findSome?, List.findSome?_eq_none_iff]
  intro e mem
  simp [own e mem]

/-- The first alias is behind events that are none. -/
lemma firstAlias?_eq_some {before after : List (Located Event)} {e : Located Event}
    (own : ∀ earlier ∈ before, earlier.value.isAlias = false) (isAlias : e.value.isAlias) :
    firstAlias? (before ++ e :: after) = some e.mark.line := by
  have none := firstAlias?_eq_none own
  rw [firstAlias?_eq_findSome?] at none ⊢
  rw [List.findSome?_append, none]
  simp [isAlias]

/-- The events of some documents give back these documents, node by node and up to comments, and there
are such events for any documents. The events of a text without aliases are those of some documents,
which are then read; and with an alias nothing is read, and the first one is reported by its line. -/
theorem documents_of_events :
    (∀ docs events, StreamOf docs events → ∀ s : SourceLines,
      documentsOf s events = docs.map s.commented ∧
        (documentsOf s events).map Node.withoutComments = docs.map Node.withoutComments) ∧
    (∀ docs, ∃ events, StreamOf docs events) ∧
    ∀ text events, Event.ofText text.toList = .ok events →
      ((∀ e ∈ events, e.value.isAlias = false) → ∃ docs, StreamOf docs events ∧
        readDocuments text = .ok (docs.map (SourceLines.ofText text).commented)) ∧
      ∀ before e after, events = before ++ e :: after → e.value.isAlias →
        (∀ earlier ∈ before, earlier.value.isAlias = false) →
          readDocuments text = .error (.aliases e.mark.line) := by
  refine ⟨?inverse, exists_streamOf, ?reading⟩
  case inverse =>
    intro docs events written s
    have built := documentsOf_eq_of_streamOf written s
    refine ⟨built, ?_⟩
    rw [built, List.map_map]
    apply List.map_congr_left
    exact fun doc _ => s.withoutComments_commented doc
  case reading =>
    intro text events ok
    constructor
    · intro own
      -- The events of a text are well nested, so without aliases they are those of some documents.
      obtain ⟨docs, written⟩ := Event.exists_streamOf_of_ofText ok own
      refine ⟨docs, written, ?_⟩
      simp only [readDocuments, ok, firstAlias?_eq_none own, documentsOf_eq_of_streamOf written]
    · rintro before e after rfl isAlias own
      simp only [readDocuments, ok, firstAlias?_eq_some own isAlias]

/-- A mapping with a key that comes twice: first with null, then with the text that stands for null. -/
def nullDocument : Node :=
  .mapping ⟨"", "", ⟨1, 2, 1⟩⟩
    [(.scalar ⟨"", "", ⟨1, 1, 0⟩⟩ "a", .null ⟨"", "", ⟨1, 4, 3⟩⟩),
      (.scalar ⟨"", "", ⟨2, 1, 5⟩⟩ "a", .scalar ⟨"", "", ⟨2, 4, 8⟩⟩ "~")]

/-- The events of `a: ~` and, on the next line, `a: '~'`. -/
def nullEvents : List (Located Event) :=
  [⟨.documentStart, ⟨1, 1, 1⟩⟩, ⟨.mappingStart none, ⟨1, 1, 1⟩⟩, ⟨.scalar true "a" none, ⟨0, 1, 0⟩⟩,
    ⟨.scalar true "~" none, ⟨3, 1, 3⟩⟩, ⟨.scalar true "a" none, ⟨5, 2, 0⟩⟩,
    ⟨.scalar false "~" none, ⟨8, 2, 3⟩⟩, ⟨.mappingEnd, ⟨12, 3, 0⟩⟩, ⟨.documentEnd, ⟨12, 3, 0⟩⟩]

/-- The events write down a document with null. -/
lemma streamOf_nullEvents : StreamOf [nullDocument] nullEvents := by
  have key : (Node.scalar ⟨"", "", ⟨1, 1, 0⟩⟩ "a").WrittenBy [⟨.scalar true "a" none, ⟨0, 1, 0⟩⟩] :=
    .scalar true none (by decide) rfl
  have value : (Node.null ⟨"", "", ⟨1, 4, 3⟩⟩).WrittenBy [⟨.scalar true "~" none, ⟨3, 1, 3⟩⟩] :=
    .null none (by decide) rfl
  have key' : (Node.scalar ⟨"", "", ⟨2, 1, 5⟩⟩ "a").WrittenBy [⟨.scalar true "a" none, ⟨5, 2, 0⟩⟩] :=
    .scalar true none (by decide) rfl
  have value' : (Node.scalar ⟨"", "", ⟨2, 4, 8⟩⟩ "~").WrittenBy
      [⟨.scalar false "~" none, ⟨8, 2, 3⟩⟩] :=
    .scalar false none (by decide) rfl
  have entries := Node.EntriesWrittenBy.cons key value (.cons key' value' .nil)
  exact .cons ⟨1, 1, 1⟩ ⟨12, 3, 0⟩ (.mapping none ⟨12, 3, 0⟩ rfl entries) .nil

/-- The events of `nullEvents` give back `nullDocument`, and an alias is reported by its line. -/
theorem documents_of_events_null :
    (documentsOf (.ofText "a: ~\na: '~'\n") nullEvents).map Node.withoutComments =
        [nullDocument.withoutComments] ∧
      readDocuments "a: &b c\nd: *b\n" = .error (.aliases 2) := by
  refine ⟨(documents_of_events.1 _ _ streamOf_nullEvents _).2, ?_⟩
  have ok : Event.ofText "a: &b c\nd: *b\n".toList = .ok
      ([⟨.documentStart, ⟨1, 1, 1⟩⟩, ⟨.mappingStart none, ⟨1, 1, 1⟩⟩,
          ⟨.scalar true "a" none, ⟨0, 1, 0⟩⟩, ⟨.scalar true "c" (some "b"), ⟨6, 1, 6⟩⟩,
          ⟨.scalar true "d" none, ⟨8, 2, 0⟩⟩] ++
        ⟨.reference "b", ⟨11, 2, 3⟩⟩ :: [⟨.mappingEnd, ⟨14, 3, 0⟩⟩, ⟨.documentEnd, ⟨14, 3, 0⟩⟩]) := by
    decide +kernel
  exact (documents_of_events.2.2 _ _ ok).2 _ _ _ rfl rfl (by decide)

end RecordSchema
