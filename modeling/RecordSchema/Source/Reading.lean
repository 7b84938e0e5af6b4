import RecordSchema.Source.Lines
import RecordSchema.Yaml.Tree

/-!
# Reading documents

The documents of a YAML text as trees of nodes with their comments. The comment behind the content
of a line goes to one of the nodes that start on the line and are null, scalar or flow collections:
to the shallowest, and among several to the last. Aliases are refused.
-/

namespace RecordSchema

open Yaml

/-- Why a text cannot be read. -/
inductive ReadError where
  | malformed (cause : SyntaxError)
  | aliases (line : Nat)
deriving DecidableEq, Repr

/-- The wording of an error. -/
def ReadError.message : ReadError → String
  | malformed cause => cause.message
  | aliases line => "aliases are not supported (line " ++ toString line ++ ")"

/-! ### Nodes with head comments -/

mutual

/-- The node for a tree. -/
def Node.ofTree (s : SourceLines) : Tree → Node
  | .scalar site plain text =>
    let info := s.infoAt (.ofMark site.mark)
    if plain && Tree.isNullText text then .null info else .scalar info text
  | .reference mark _ => .null (s.infoAt (.ofMark mark))
  | .sequence site items => .sequence (s.infoAt (.ofMark site.mark)) (Node.ofItems s items)
  | .mapping site entries => .mapping (s.infoAt (.ofMark site.mark)) (Node.ofEntries s entries)

/-- The nodes for a list of trees. -/
def Node.ofItems (s : SourceLines) : List Tree → List Node
  | [] => []
  | t :: rest => Node.ofTree s t :: Node.ofItems s rest

/-- The entries for a list of entries. -/
def Node.ofEntries (s : SourceLines) : List (Tree × Tree) → List (Node × Node)
  | [] => []
  | (k, v) :: rest => (Node.ofTree s k, Node.ofTree s v) :: Node.ofEntries s rest

end

/-! ### Comments behind content -/

/-- A node that may take the comment of its line. -/
structure Candidate where
  number : Nat
  depth : Nat
  line : Nat
deriving DecidableEq, Repr

/-- The node is null, scalar or a flow collection. -/
def SourceLines.takesComment (s : SourceLines) (n : Node) : Bool :=
  match n.shape with
  | .null | .scalar => true
  | .sequence | .mapping => s.startsFlow n.info.position

/-- The nodes of a tree that may take comments, numbered as in `preorder`. -/
def SourceLines.candidates (s : SourceLines) (root : Node) : List Candidate :=
  (root.preorder 0).zipIdx.filterMap fun ((depth, n), number) =>
    if s.takesComment n then some ⟨number, depth, n.info.position.line.toNat⟩ else none

/-- The better of two candidates for a line: the shallower, or else the later. -/
def Candidate.better (best : Option Candidate) (c : Candidate) : Option Candidate :=
  match best with
  | none => some c
  | some b => if c.depth ≤ b.depth then some c else some b

/-- The candidate that takes the comment of a line. -/
def Candidate.winner? (candidates : List Candidate) (line : Nat) : Option Candidate :=
  (candidates.filter (·.line == line)).foldl better none

/-- What a node carries once the comments are given out. -/
def SourceLines.withTrailing (s : SourceLines) (candidates : List Candidate) (number : Nat)
    (i : Info) : Info :=
  let line := i.position.line.toNat
  match Candidate.winner? candidates line with
  | some c =>
    if c.number = number then
      match s.trailingComment? line with
      | some comment => { i with line := comment }
      | none => i
    else
      i
  | none => i

/-- Gives the comments behind content to the nodes of a tree. -/
def SourceLines.attachTrailing (s : SourceLines) (root : Node) : Node :=
  (root.mapNumbered (s.withTrailing (s.candidates root)) 0).1

/-! ### Documents -/

/-- The line of the first alias. -/
def firstAlias? (events : List (Located Event)) : Option Nat :=
  events.findSome? fun e =>
    match e.value with
    | .reference _ => some e.mark.line
    | _ => none

/-- The documents that events write down. -/
def documentsOf (s : SourceLines) (events : List (Located Event)) : List Node :=
  (Tree.ofEvents events).map fun t => s.attachTrailing (Node.ofTree s t)

/-- The documents of a text. A text without content holds none. -/
def readDocuments (text : String) : Except ReadError (List Node) :=
  match Event.ofText text.toList with
  | .error cause => .error (.malformed cause)
  | .ok events =>
    match firstAlias? events with
    | some line => .error (.aliases line)
    | none => .ok (documentsOf (.ofText text) events)

end RecordSchema
