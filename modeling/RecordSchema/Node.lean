import RecordSchema.Position

/-!
# Nodes

A document as an ordered tree of mappings, sequences and scalars that carries its comments. The
entries of a mapping are a list, so repeated keys are kept.
-/

namespace RecordSchema

/-- What every node carries besides its content. -/
structure Info where
  /-- comment lines directly above the node, with their markers -/
  head : String
  /-- the comment behind the node on its line, with its marker -/
  line : String
  position : Position
deriving DecidableEq, Repr, Inhabited

/-- A node without comments and without a place. -/
def Info.bare : Info :=
  ⟨"", "", .unknown⟩

/-- A node of a document. -/
inductive Node where
  | null (info : Info)
  | scalar (info : Info) (text : String)
  | sequence (info : Info) (items : List Node)
  | mapping (info : Info) (entries : List (Node × Node))
deriving Inhabited, Repr

/-- The shapes that a node can have. -/
inductive Shape where
  | null
  | scalar
  | sequence
  | mapping
deriving DecidableEq, Repr

/-- The name of a shape. -/
def Shape.name : Shape → String
  | null => "null"
  | scalar => "scalar"
  | sequence => "sequence"
  | mapping => "mapping"

namespace Node

/-- What the node carries besides its content. -/
def info : Node → Info
  | null i | scalar i _ | sequence i _ | mapping i _ => i

/-- The shape of the node. -/
def shape : Node → Shape
  | null _ => .null
  | scalar _ _ => .scalar
  | sequence _ _ => .sequence
  | mapping _ _ => .mapping

/-- The node is null. -/
def isNull (n : Node) : Bool :=
  n.shape == .null

/-- The text of a scalar. -/
def text? : Node → Option String
  | scalar _ text => some text
  | _ => none

/-- The items of a sequence. -/
def items? : Node → Option (List Node)
  | sequence _ items => some items
  | _ => none

/-- The entries of a mapping. -/
def entries? : Node → Option (List (Node × Node))
  | mapping _ entries => some entries
  | _ => none

/-- The value of the first entry whose key is the given scalar. -/
def get? (n : Node) (key : String) : Option Node :=
  n.entries?.bind fun entries =>
    (entries.find? fun entry => entry.1.text? == some key).map Prod.snd

/-! ### Walks -/

mutual

/-- The nodes of a tree with their depths, each before its children. -/
def preorder (depth : Nat) : Node → List (Nat × Node)
  | null i => [(depth, null i)]
  | scalar i text => [(depth, scalar i text)]
  | sequence i items => (depth, sequence i items) :: preorderItems (depth + 1) items
  | mapping i entries => (depth, mapping i entries) :: preorderEntries (depth + 1) entries

/-- The nodes of a list of trees. -/
def preorderItems (depth : Nat) : List Node → List (Nat × Node)
  | [] => []
  | n :: rest => preorder depth n ++ preorderItems depth rest

/-- The nodes of a list of entries, each key before its value. -/
def preorderEntries (depth : Nat) : List (Node × Node) → List (Nat × Node)
  | [] => []
  | (k, v) :: rest => preorder depth k ++ preorder depth v ++ preorderEntries depth rest

end

mutual

/-- Changes what each node carries, given its number in the order of `preorder`, and answers the
number of the node after the tree. -/
def mapNumbered (f : Nat → Info → Info) (number : Nat) : Node → Node × Nat
  | null i => (null (f number i), number + 1)
  | scalar i text => (scalar (f number i) text, number + 1)
  | sequence i items =>
    let (items, next) := mapNumberedItems f (number + 1) items
    (sequence (f number i) items, next)
  | mapping i entries =>
    let (entries, next) := mapNumberedEntries f (number + 1) entries
    (mapping (f number i) entries, next)

/-- Changes a list of trees. -/
def mapNumberedItems (f : Nat → Info → Info) (number : Nat) : List Node → List Node × Nat
  | [] => ([], number)
  | n :: rest =>
    let (n, next) := mapNumbered f number n
    let (rest, next) := mapNumberedItems f next rest
    (n :: rest, next)

/-- Changes a list of entries. -/
def mapNumberedEntries (f : Nat → Info → Info) (number : Nat) :
    List (Node × Node) → List (Node × Node) × Nat
  | [] => ([], number)
  | (k, v) :: rest =>
    let (k, next) := mapNumbered f number k
    let (v, next) := mapNumbered f next v
    let (rest, next) := mapNumberedEntries f next rest
    ((k, v) :: rest, next)

end

end Node

end RecordSchema
