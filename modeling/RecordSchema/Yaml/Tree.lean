import RecordSchema.Yaml.Event

/-!
# From events to trees

A tree has the scalars of a document as its leaves. The builder keeps the collections that are
open; an end closes the innermost one and puts it into the next.
-/

namespace RecordSchema.Yaml

/-- The place of a node, and its anchor. -/
structure Site where
  mark : Mark
  anchor : Option String
deriving DecidableEq, Repr

/-- The content of a document. -/
inductive Tree where
  | scalar (site : Site) (plain : Bool) (text : String)
  | reference (mark : Mark) (name : String)
  | sequence (site : Site) (items : List Tree)
  | mapping (site : Site) (entries : List (Tree × Tree))
deriving Repr

namespace Tree

/-- The content of a document that has none. -/
def absent : Tree :=
  scalar ⟨⟨0, 0, 0⟩, none⟩ true ""

/-- The plain scalars that stand for null. -/
def isNullText (text : String) : Bool :=
  text == "" || text == "~" || text == "null" || text == "Null" || text == "NULL"

/-! ### The builder -/

/-- A collection whose end has not come yet. -/
structure OpenCollection where
  isMapping : Bool
  site : Site
  /-- the children so far, the last one first -/
  children : List Tree
deriving Repr

/-- Children taken as keys and values in turn. -/
def pairs : List Tree → List (Tree × Tree)
  | k :: v :: rest => (k, v) :: pairs rest
  | _ => []

/-- The tree of a collection whose end has come. -/
def OpenCollection.close (c : OpenCollection) : Tree :=
  if c.isMapping then mapping c.site (pairs c.children.reverse)
  else sequence c.site c.children.reverse

/-- The state between two events. -/
structure Builder where
  /-- the open collections, the innermost first -/
  opened : List OpenCollection
  /-- the content of the current document -/
  root : Option Tree
  /-- the documents so far, the last one first -/
  documents : List Tree
deriving Repr

namespace Builder

/-- The state before the first event. -/
def start : Builder :=
  ⟨[], none, []⟩

/-- Puts a tree into the innermost open collection. -/
def put (b : Builder) (t : Tree) : Builder :=
  match b.opened with
  | c :: rest => { b with opened := { c with children := t :: c.children } :: rest }
  | [] => { b with root := some t }

/-- Opens a collection. -/
def enter (b : Builder) (isMapping : Bool) (site : Site) : Builder :=
  { b with opened := ⟨isMapping, site, []⟩ :: b.opened }

/-- Closes the innermost open collection. -/
def close (b : Builder) : Builder :=
  match b.opened with
  | c :: rest => { b with opened := rest }.put c.close
  | [] => b

/-- Takes an event. -/
def feed (b : Builder) (e : Located Event) : Builder :=
  match e.value with
  | .documentStart => { b with opened := [], root := none }
  | .documentEnd =>
    { opened := [], root := none, documents := b.root.getD absent :: b.documents }
  | .scalar plain text anchor => b.put (scalar ⟨e.mark, anchor⟩ plain text)
  | .reference name => b.put (reference e.mark name)
  | .sequenceStart anchor => b.enter false ⟨e.mark, anchor⟩
  | .mappingStart anchor => b.enter true ⟨e.mark, anchor⟩
  | .sequenceEnd | .mappingEnd => b.close

end Builder

/-- The documents of a sequence of events. -/
def ofEvents (events : List (Located Event)) : List Tree :=
  (events.foldl Builder.feed .start).documents.reverse

end Tree

end RecordSchema.Yaml
