import RecordSchema.Document
import RecordSchema.Json.Model

/-!
# Nodes and documents as JSON

Writing and reading document trees and documents. Empty comments are left out.
-/

namespace RecordSchema

open Json

/-! ### Positions -/

/-- A position. -/
def Position.toJson (p : Position) : Json :=
  .object [("line", .count p.line), ("column", .count p.column), ("offset", .count p.offset)]

/-- Reads a position. -/
def Position.ofJson? (j : Json) : Option Position := do
  let line ← (← j.required 3 0 "line").count?
  let column ← (← j.required 3 1 "column").count?
  let offset ← (← j.required 3 2 "offset").count?
  return ⟨line, column, offset⟩

/-- An origin. -/
def Origin.toJson (o : Origin) : Json :=
  .object [("source", .string o.source), ("index", .count o.index),
    ("position", o.position.toJson)]

/-- Reads an origin. -/
def Origin.ofJson? (j : Json) : Option Origin := do
  let source ← (← j.required 3 0 "source").string?
  let index ← (← j.required 3 1 "index").count?
  let position ← Position.ofJson? (← j.required 3 2 "position")
  return ⟨source, index, position⟩

/-! ### Nodes -/

/-- A field for a comment, which is left out if it is empty. -/
def commentField (name comment : String) : List (String × Json) :=
  if comment = "" then [] else [(name, .string comment)]

/-- A node whose content is written down already. -/
def Info.toJsonWith (i : Info) (kind : Json) : Json :=
  .object ([("kind", kind)] ++ commentField "head_comment" i.head ++
    commentField "line_comment" i.line ++ [("position", i.position.toJson)])

mutual

/-- A node with its content as a variant. -/
def Node.toJson : Node → Json
  | .null i => i.toJsonWith (.string "Null")
  | .scalar i text => i.toJsonWith (.object [("Scalar", .string text)])
  | .sequence i items => i.toJsonWith (.object [("Sequence", .array (Node.toJsonItems items))])
  | .mapping i entries =>
    i.toJsonWith (.object [("Mapping", .array (Node.toJsonEntries entries))])

/-- The items of a sequence. -/
def Node.toJsonItems : List Node → List Json
  | [] => []
  | n :: rest => n.toJson :: Node.toJsonItems rest

/-- The entries of a mapping. -/
def Node.toJsonEntries : List (Node × Node) → List Json
  | [] => []
  | (k, v) :: rest =>
    .object [("key", k.toJson), ("value", v.toJson)] :: Node.toJsonEntries rest

end

/-- Reads what a node carries besides its content. -/
def Info.ofJson? (j : Json) : Option Info := do
  let head ← j.defaulted 4 1 "head_comment" "" string?
  let line ← j.defaulted 4 2 "line_comment" "" string?
  let position ← j.defaulted 4 3 "position" .unknown Position.ofJson?
  return ⟨head, line, position⟩

mutual

/-- Reads a node. -/
def Node.ofJson? (j : Json) : Option Node :=
  match _hkind : j.required 4 0 "kind" with
  | none => none
  | some kind =>
    match Info.ofJson? j with
    | none => none
    | some info =>
      match _hvariant : kind.variant? with
      | some ("Null", content) => if holdsNothing content then some (.null info) else none
      | some ("Scalar", some (.string text)) => some (.scalar info text)
      | some ("Sequence", some (.array items)) => (Node.ofJsonItems? items).map (.sequence info)
      | some ("Mapping", some (.array entries)) =>
        (Node.ofJsonEntries? entries).map (.mapping info)
      | _ => none
termination_by sizeOf j
decreasing_by
  all_goals
    have h₁ := sizeOf_required _hkind
    have h₂ := sizeOf_variant _hvariant
    simp only [array.sizeOf_spec] at h₂
    omega

/-- Reads the items of a sequence. -/
def Node.ofJsonItems? (items : List Json) : Option (List Node) :=
  match items with
  | [] => some []
  | j :: rest =>
    match Node.ofJson? j, Node.ofJsonItems? rest with
    | some n, some rest => some (n :: rest)
    | _, _ => none
termination_by sizeOf items

/-- Reads the entries of a mapping. -/
def Node.ofJsonEntries? (entries : List Json) : Option (List (Node × Node)) :=
  match entries with
  | [] => some []
  | j :: rest =>
    match _hkey : j.required 2 0 "key", _hvalue : j.required 2 1 "value" with
    | some key, some value =>
      match Node.ofJson? key, Node.ofJson? value, Node.ofJsonEntries? rest with
      | some k, some v, some rest => some ((k, v) :: rest)
      | _, _, _ => none
    | _, _ => none
termination_by sizeOf entries
decreasing_by
  · have := sizeOf_required _hkey
    simp only [List.cons.sizeOf_spec]
    omega
  · have := sizeOf_required _hvalue
    simp only [List.cons.sizeOf_spec]
    omega
  · simp only [List.cons.sizeOf_spec]
    omega

end

/-! ### Documents -/

/-- What is known about a document. -/
def Metadata.toJson (m : Metadata) : Json :=
  .object [("table", .ofOption m.table), ("version", .ofOption m.version),
    ("kind", .ofOption m.kind),
    ("source", match m.source with | some o => o.toJson | none => .null)]

/-- Reads what is known about a document. -/
def Metadata.ofJson? (j : Json) : Option Metadata := do
  let table ← j.optional 4 0 "table" string?
  let version ← j.optional 4 1 "version" string?
  let kind ← j.optional 4 2 "kind" string?
  let source ← j.optional 4 3 "source" Origin.ofJson?
  return ⟨table, version, kind, source⟩

/-- A document; a missing body is null. -/
def Document.toJson (d : Document) : Json :=
  .object [("root", match d.root with | some n => n.toJson | none => .null),
    ("metadata", d.metadata.toJson)]

/-- Reads a document. -/
def Document.ofJson? (j : Json) : Option Document := do
  let root ← j.optional 2 0 "root" Node.ofJson?
  let metadata ← Metadata.ofJson? (← j.required 2 1 "metadata")
  return ⟨root, metadata⟩

end RecordSchema
