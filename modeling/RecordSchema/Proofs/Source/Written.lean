import Mathlib
import RecordSchema.Source.Reading

/-!
# What events write down

The events of a node are that of a scalar, or the start of a collection, the events of all that is in
it, and an end; those of a document stand between its start and its end. Main statement:
`exists_streamOf`, there are events for any list of documents.
-/

namespace RecordSchema

open Yaml

namespace Node

mutual

/-- Events write down a node. The node stands where its own event does; the end of a collection may
stand anywhere, and anchors do not matter. A plain scalar without a text is null, and so is one with a
word for null. -/
inductive WrittenBy : Node → List (Located Event) → Prop where
  | null {i text m} (anchor : Option String) :
    text ∈ ["", "~", "null", "Null", "NULL"] →
    i.position = .ofMark m →
    WrittenBy (null i) [⟨.scalar true text anchor, m⟩]
  | scalar {i text m} (plain : Bool) (anchor : Option String) :
    ¬ (plain ∧ text ∈ ["", "~", "null", "Null", "NULL"]) →
    i.position = .ofMark m →
    WrittenBy (scalar i text) [⟨.scalar plain text anchor, m⟩]
  | sequence {i items m events} (anchor : Option String) (m' : Mark) :
    i.position = .ofMark m →
    ItemsWrittenBy items events →
    WrittenBy (sequence i items) (⟨.sequenceStart anchor, m⟩ :: events ++ [⟨.sequenceEnd, m'⟩])
  | mapping {i entries m events} (anchor : Option String) (m' : Mark) :
    i.position = .ofMark m →
    EntriesWrittenBy entries events →
    WrittenBy (mapping i entries) (⟨.mappingStart anchor, m⟩ :: events ++ [⟨.mappingEnd, m'⟩])

/-- Events write down the items of a sequence, one after the other. -/
inductive ItemsWrittenBy : List Node → List (Located Event) → Prop where
  | nil :
    ItemsWrittenBy [] []
  | cons {n rest events events'} :
    WrittenBy n events →
    ItemsWrittenBy rest events' →
    ItemsWrittenBy (n :: rest) (events ++ events')

/-- Events write down the entries of a mapping, each key before its value. -/
inductive EntriesWrittenBy : List (Node × Node) → List (Located Event) → Prop where
  | nil :
    EntriesWrittenBy [] []
  | cons {key value rest events events' events''} :
    WrittenBy key events →
    WrittenBy value events' →
    EntriesWrittenBy rest events'' →
    EntriesWrittenBy ((key, value) :: rest) (events ++ events' ++ events'')

end

end Node

/-- Events write down documents, each between its start and its end. -/
inductive StreamOf : List Node → List (Located Event) → Prop where
  | nil :
    StreamOf [] []
  | cons {doc docs events events'} (m m' : Mark) :
    doc.WrittenBy events →
    StreamOf docs events' →
    StreamOf (doc :: docs) (⟨.documentStart, m⟩ :: events ++ ⟨.documentEnd, m'⟩ :: events')

/-! ### Events for given nodes -/

/-- Every position is that of a mark. The column of the mark is one less, or the last one there is. -/
lemma Position.exists_mark (p : Position) : ∃ m, p = .ofMark m := by
  obtain ⟨line, column, offset⟩ := p
  refine ⟨⟨offset.toNat, line.toNat, column.toNat + (2 ^ 64 - 1)⟩, ?_⟩
  have wrapped : (column.toNat + (2 ^ 64 - 1) + 1).toUInt64 = column := by
    apply UInt64.toNat_inj.1
    rw [Nat.add_assoc, Nat.sub_add_cancel (by norm_num), Nat.toUInt64_eq, UInt64.toNat_ofNat',
      Nat.add_mod_right]
    exact Nat.mod_eq_of_lt column.toNat_lt
  rw [Position.ofMark, wrapped]
  simp

namespace Node

mutual

/-- Every node is written down by some events. -/
lemma exists_writtenBy (n : Node) : ∃ events, n.WrittenBy events := by
  obtain ⟨m, place⟩ := n.info.position.exists_mark
  match n with
  | null _ => exact ⟨_, .null none List.mem_cons_self place⟩
  | scalar _ text => exact ⟨_, .scalar false none (by simp) place⟩
  | sequence _ items =>
    obtain ⟨events, below⟩ := exists_itemsWrittenBy items
    exact ⟨_, .sequence none m place below⟩
  | mapping _ entries =>
    obtain ⟨events, below⟩ := exists_entriesWrittenBy entries
    exact ⟨_, .mapping none m place below⟩

/-- Items are written down by the events of each of them. -/
lemma exists_itemsWrittenBy (items : List Node) : ∃ events, ItemsWrittenBy items events := by
  match items with
  | [] => exact ⟨_, .nil⟩
  | n :: rest =>
    obtain ⟨_, first⟩ := exists_writtenBy n
    obtain ⟨_, others⟩ := exists_itemsWrittenBy rest
    exact ⟨_, .cons first others⟩

/-- Entries are written down by the events of their keys and values. -/
lemma exists_entriesWrittenBy (entries : List (Node × Node)) :
    ∃ events, EntriesWrittenBy entries events := by
  match entries with
  | [] => exact ⟨_, .nil⟩
  | (key, value) :: rest =>
    obtain ⟨_, first⟩ := exists_writtenBy key
    obtain ⟨_, second⟩ := exists_writtenBy value
    obtain ⟨_, others⟩ := exists_entriesWrittenBy rest
    exact ⟨_, .cons first second others⟩

end

end Node

/-- There are events for any list of documents. -/
lemma exists_streamOf (docs : List Node) : ∃ events, StreamOf docs events := by
  induction docs with
  | nil => exact ⟨_, .nil⟩
  | cons doc rest ih =>
    obtain ⟨_, first⟩ := doc.exists_writtenBy
    obtain ⟨_, others⟩ := ih
    exact ⟨_, .cons .start .start first others⟩

end RecordSchema
