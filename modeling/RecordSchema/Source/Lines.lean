import RecordSchema.Node
import RecordSchema.Text.Blank
import RecordSchema.Text.Line

/-!
# Comments in a source

Comments are no part of the tree that a text writes down, so they are looked up in the lines of the
text. The head comment of a node is the block of comment lines directly above it; a comment behind
content belongs to one of the nodes that start on its line.
-/

namespace RecordSchema

open Text

/-- The lines of a source. -/
abbrev SourceLines := List (List Char)

/-- The lines of a text. -/
def SourceLines.ofText (text : String) : SourceLines :=
  lines text.toList

/-- A line that holds a comment and nothing else. -/
def isCommentLine (line : List Char) : Bool :=
  (trimStart line).head? == some '#'

/-- The quoting in force between two characters of a line. -/
inductive Quoting where
  | none
  | single
  | double
  | escaped
deriving DecidableEq, Repr

/-- A quote opens a quoted scalar only at the start of a token. -/
def startsToken (prev : Option Char) : Bool :=
  prev.all fun c => Text.isBlank c || c == '[' || c == '{' || c == ',' || c == ':'

/-- The rest of a line from the `#` on that opens a comment: one at the start or after white space,
outside of quoted scalars. -/
def commentFrom (quoting : Quoting) (prev : Option Char) : List Char → Option (List Char)
  | [] => Option.none
  | c :: rest =>
    match quoting with
    | .escaped => commentFrom .double (some c) rest
    | .double =>
      if c = '\\' then commentFrom .escaped (some c) rest
      else if c = '"' then commentFrom .none (some c) rest
      else commentFrom .double (some c) rest
    | .single =>
      if c = '\'' then
        match rest with
        | '\'' :: rest => commentFrom .single (some c) rest
        | rest => commentFrom .none (some c) rest
      else
        commentFrom .single (some c) rest
    | .none =>
      if c = '#' ∧ prev.all Text.isBlank then some (c :: rest)
      else if c = '"' ∧ startsToken prev then commentFrom .double (some c) rest
      else if c = '\'' ∧ startsToken prev then commentFrom .single (some c) rest
      else commentFrom .none (some c) rest

/-- The comment in a line, from its `#` on. -/
def commentIn (line : List Char) : Option (List Char) :=
  commentFrom .none none line

namespace SourceLines

/-- The line with a number that counts from 1. -/
def line? (s : SourceLines) : Nat → Option (List Char)
  | 0 => none
  | n + 1 => s[n]?

/-- The characters of a line up to a position are white space and indicators of block
collections. -/
def isFirstOnLine (s : SourceLines) (p : Position) : Bool :=
  (s.line? p.line.toNat).any fun line =>
    (line.take (p.column.toNat - 1)).all fun c => Text.isBlank c || c == '-' || c == '?'

/-- The comment lines directly above the line after the `n`-th, trimmed, from top to bottom. -/
def commentBlock (s : SourceLines) : Nat → List (List Char)
  | 0 => []
  | n + 1 =>
    match s[n]? with
    | some line => if isCommentLine line then commentBlock s n ++ [trim line] else []
    | none => []

/-- The block of comment lines directly above a line. -/
def headComment (s : SourceLines) (line : Nat) : String :=
  String.ofList (joinWith ['\n'] (s.commentBlock (line - 1)))

/-- The comment behind the content of a line. -/
def trailingComment? (s : SourceLines) (line : Nat) : Option String :=
  (s.line? line).bind fun text =>
    if isCommentLine text then none
    else (commentIn text).map fun comment => String.ofList (trimEnd comment)

/-- A flow collection starts at a position. -/
def startsFlow (s : SourceLines) (p : Position) : Bool :=
  (s.line? p.line.toNat).any fun text =>
    text[p.column.toNat - 1]?.any fun c => c == '[' || c == '{'

/-- What a node at a position carries before the comments behind content are given out. -/
def infoAt (s : SourceLines) (p : Position) : Info :=
  ⟨if s.isFirstOnLine p then s.headComment p.line.toNat else "", "", p⟩

end SourceLines

end RecordSchema
