import RecordSchema.Node
import RecordSchema.Text.Split

/-!
# Cursors

A cursor stands on a node and knows the keys that lead to it from where it started.
-/

namespace RecordSchema

/-- Why a step through a tree fails, and where. -/
inductive NavigationError where
  | notFound (path : List String)
  | mismatch (path : List String) (expected found : Shape)
deriving DecidableEq, Repr

/-- A path as text. -/
def pathText (path : List String) : String :=
  "/".intercalate path

/-- The wording of an error. -/
def NavigationError.message : NavigationError → String
  | notFound path => "Node not found at path: " ++ pathText path
  | mismatch path expected found =>
    "Type mismatch at '" ++ pathText path ++ "': expected " ++ expected.name ++ ", found " ++
      found.name

/-- A place in a tree. -/
structure Cursor where
  node : Node
  path : List String
deriving Repr

namespace Cursor

/-- A cursor on a node where it starts. -/
def ofNode (n : Node) : Cursor :=
  ⟨n, []⟩

/-- Steps to the value of a key. -/
def child (c : Cursor) (key : String) : Except NavigationError Cursor :=
  if c.node.shape = .mapping then
    match c.node.get? key with
    | some value => .ok ⟨value, c.path ++ [key]⟩
    | none => .error (.notFound (c.path ++ [key]))
  else
    .error (.mismatch c.path .mapping c.node.shape)

/-- Steps to the value of a key that may be missing. -/
def child? (c : Cursor) (key : String) : Except NavigationError (Option Cursor) :=
  match c.child key with
  | .ok next => .ok (some next)
  | .error (.notFound _) => .ok none
  | .error e => .error e

/-- The keys of a path between its slashes. -/
def segments (path : String) : List String :=
  (Text.chunks (· == '/') path.toList).map String.ofList

/-- Steps along several keys. -/
def descend (c : Cursor) : List String → Except NavigationError Cursor
  | [] => .ok c
  | key :: rest =>
    match c.child key with
    | .ok next => next.descend rest
    | .error e => .error e

/-- Steps along a path of keys between slashes. -/
def navigate (c : Cursor) (path : String) : Except NavigationError Cursor :=
  c.descend (segments path)

/-- The text of the scalar under the cursor. -/
def scalar (c : Cursor) : Except NavigationError String :=
  match c.node.text? with
  | some text => .ok text
  | none => .error (.mismatch c.path .scalar c.node.shape)

end Cursor

end RecordSchema
