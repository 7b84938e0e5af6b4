import Mathlib
import RecordSchema.Node

/-!
# The numbers of nodes

A walk that changes nodes by their numbers gives each node the number that it has in pre-order. Main
statement: `faces_mapNumbered`.
-/

namespace RecordSchema

/-- A node of a tree by itself: its depth, its shape and what it carries, without what lies in it. -/
structure Face where
  depth : Nat
  shape : Shape
  info : Info
deriving DecidableEq

namespace Face

/-- The face of a node at a depth. -/
def of (n : Nat × Node) : Face :=
  ⟨n.1, n.2.shape, n.2.info⟩

/-- The face with what it carries changed by its number. -/
def renumbered (f : Nat → Info → Info) (a : Face × Nat) : Face :=
  { a.1 with info := f a.2 a.1.info }

end Face

namespace Node

/-- The nodes of a tree in pre-order, each by itself. -/
def faces (n : Node) : List Face :=
  (n.preorder 0).map Face.of

mutual

/-- The nodes of a tree are changed by their numbers in pre-order, and the next number is the one
after the tree. -/
lemma map_of_mapNumbered (f : Nat → Info → Info) (number depth : Nat) (n : Node) :
    ((n.mapNumbered f number).1.preorder depth).map Face.of =
        (((n.preorder depth).map Face.of).zipIdx number).map (Face.renumbered f) ∧
      (n.mapNumbered f number).2 = number + (n.preorder depth).length := by
  match n with
  | null _ => exact ⟨rfl, rfl⟩
  | scalar _ _ => exact ⟨rfl, rfl⟩
  | sequence i items =>
    obtain ⟨below, next⟩ := map_of_mapNumberedItems f (number + 1) (depth + 1) items
    simp only [mapNumbered, preorder, List.map_cons, List.zipIdx_cons, below, next,
      List.length_cons]
    exact ⟨rfl, by omega⟩
  | mapping i entries =>
    obtain ⟨below, next⟩ := map_of_mapNumberedEntries f (number + 1) (depth + 1) entries
    simp only [mapNumbered, preorder, List.map_cons, List.zipIdx_cons, below, next,
      List.length_cons]
    exact ⟨rfl, by omega⟩

/-- So are the nodes in the items of a sequence. -/
lemma map_of_mapNumberedItems (f : Nat → Info → Info) (number depth : Nat) (items : List Node) :
    (preorderItems depth (mapNumberedItems f number items).1).map Face.of =
        (((preorderItems depth items).map Face.of).zipIdx number).map (Face.renumbered f) ∧
      (mapNumberedItems f number items).2 = number + (preorderItems depth items).length := by
  match items with
  | [] => exact ⟨rfl, rfl⟩
  | n :: rest =>
    obtain ⟨first, next⟩ := map_of_mapNumbered f number depth n
    obtain ⟨others, last⟩ := map_of_mapNumberedItems f (n.mapNumbered f number).2 depth rest
    -- the others are numbered from where the first tree ends
    rw [next] at others last
    simp only [mapNumberedItems, preorderItems, List.map_append, List.zipIdx_append, first, others,
      last, next, List.length_map, List.length_append, true_and]
    omega

/-- So are the nodes in the entries of a mapping. -/
lemma map_of_mapNumberedEntries (f : Nat → Info → Info) (number depth : Nat)
    (entries : List (Node × Node)) :
    (preorderEntries depth (mapNumberedEntries f number entries).1).map Face.of =
        (((preorderEntries depth entries).map Face.of).zipIdx number).map (Face.renumbered f) ∧
      (mapNumberedEntries f number entries).2 =
        number + (preorderEntries depth entries).length := by
  match entries with
  | [] => exact ⟨rfl, rfl⟩
  | (k, v) :: rest =>
    obtain ⟨key, next⟩ := map_of_mapNumbered f number depth k
    obtain ⟨value, next'⟩ := map_of_mapNumbered f (k.mapNumbered f number).2 depth v
    obtain ⟨others, last⟩ := map_of_mapNumberedEntries f
      (v.mapNumbered f (k.mapNumbered f number).2).2 depth rest
    rw [next', next] at others last
    rw [next] at value next'
    simp only [mapNumberedEntries, preorderEntries, List.map_append, List.zipIdx_append, key, value,
      others, last, next, next', List.length_map, List.length_append, ← Nat.add_assoc, and_self]

end

/-- A walk from 0 on changes each node of a tree by its number in pre-order. -/
lemma faces_mapNumbered (f : Nat → Info → Info) (n : Node) :
    (n.mapNumbered f 0).1.faces = n.faces.zipIdx.map (Face.renumbered f) :=
  (map_of_mapNumbered f 0 0 n).1

end Node

end RecordSchema
