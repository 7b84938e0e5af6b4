import RecordSchema.Yaml.SyntaxError

/-!
# The values of a form

The values of a form are trees whose leaves are scalars and references to anchors. Anchors have
numbers. A number says how many names were known where the anchor stands; so an anchor that repeats
a name may share its number with the next new name, and then the later one counts for both. A
reference is followed only where a value is asked for, so it may stand inside its own anchor as long
as nobody reads it.
-/

namespace RecordSchema.Form

/-- A value of a form. -/
inductive Value where
  | scalar (anchor : Option Nat) (tag : Option String) (plain : Bool) (text : String)
  | sequence (anchor : Option Nat) (items : List Value)
  | mapping (anchor : Option Nat) (entries : List (Value × Value))
  | reference (number : Nat)
deriving Repr

namespace Value

/-- A value that is left out. -/
def absent : Value :=
  scalar none none true ""

/-- A value with the number of its anchor, if it has one. -/
def underAnchor (anchor : Option Nat) (v : Value) : List (Nat × Value) :=
  match anchor with
  | some number => [(number, v)]
  | none => []

mutual

/-- The values with anchors in the order in which they begin, with their numbers. -/
def anchored : Value → List (Nat × Value)
  | scalar anchor tag plain text => underAnchor anchor (scalar anchor tag plain text)
  | sequence anchor items => underAnchor anchor (sequence anchor items) ++ anchoredItems items
  | mapping anchor entries => underAnchor anchor (mapping anchor entries) ++ anchoredEntries entries
  | reference _ => []

/-- The values with anchors in a list of items. -/
def anchoredItems : List Value → List (Nat × Value)
  | [] => []
  | v :: rest => v.anchored ++ anchoredItems rest

/-- The values with anchors in a list of entries. -/
def anchoredEntries : List (Value × Value) → List (Nat × Value)
  | [] => []
  | (k, v) :: rest => k.anchored ++ v.anchored ++ anchoredEntries rest

end

end Value

end RecordSchema.Form

namespace RecordSchema

/-- A form: its value, and the values with anchors, the last one first. -/
structure Form where
  root : Form.Value
  anchors : List (Nat × Form.Value)
deriving Repr

/-- Why a text is not the form that is asked for. -/
inductive FormError where
  | controlCharacter
  | malformed (cause : Yaml.SyntaxError)
  | severalDocuments
  | wrongShape
  | missingField
  | repeatedField
  | unknownField
deriving DecidableEq, Repr

/-- The wording of an error. -/
def FormError.message : FormError → String
  | controlCharacter => "control characters are not allowed"
  | malformed cause => cause.message
  | severalDocuments => "there is more than one document"
  | wrongShape => "a value has another shape"
  | missingField => "a field is missing"
  | repeatedField => "a field is repeated"
  | unknownField => "a field is not known"

namespace Form

/-- The form that has a value. -/
def ofValue (root : Value) : Form :=
  ⟨root, root.anchored.reverse⟩

/-- The value that a reference stands for, and every other value itself. -/
def resolve (f : Form) : Value → Value
  | .reference number => (f.anchors.lookup number).getD (.reference number)
  | v => v

/-! ### Reading values -/

/-- The text of a scalar. -/
def text (f : Form) (v : Value) : Except FormError String :=
  match f.resolve v with
  | .scalar _ _ _ text => .ok text
  | _ => .error .wrongShape

/-- The words that stand for null. -/
def isNullWord (text : String) : Bool :=
  text == "~" || text == "null" || text == "Null" || text == "NULL"

/-- The tag of null. -/
def nullTag : String :=
  "tag:yaml.org,2002:null"

/-- The text of a scalar, which may be null. Only a plain scalar can be null; with another tag than
that of null it is not, and with that tag it has to be. -/
def text? (f : Form) (v : Value) : Except FormError (Option String) :=
  match f.resolve v with
  | .scalar _ tag plain text =>
    if !plain then .ok (some text)
    else
      match tag with
      | none => .ok (if text == "" || isNullWord text then none else some text)
      | some tag =>
        if tag ≠ nullTag then .ok (some text)
        else if isNullWord text then .ok none
        else .error .wrongShape
  | _ => .error .wrongShape

/-- The items of a list. -/
def items (f : Form) (v : Value) : Except FormError (List Value) :=
  match f.resolve v with
  | .sequence _ items => .ok items
  | .scalar _ _ true "" => .ok []
  | _ => .error .wrongShape

/-- The entries of a mapping, whose keys are texts. -/
def entries (f : Form) (v : Value) : Except FormError (List (String × Value)) :=
  match f.resolve v with
  | .mapping _ entries => entries.mapM fun (k, v) => (f.text k).map (·, v)
  | .scalar _ _ true "" => .ok []
  | _ => .error .wrongShape

/-- The entries of a record: none of the known fields is repeated. -/
def record (f : Form) (v : Value) (known : List String) :
    Except FormError (List (String × Value)) := do
  let fields ← f.entries v
  let found := (fields.map Prod.fst).filter known.contains
  if found.eraseDups.length = found.length then return fields else throw .repeatedField

/-- A field of a record that stands for a default where it is missing. -/
def fieldOr {α : Type} (fields : List (String × Value)) (name : String) (default : α)
    (read : Value → Except FormError α) : Except FormError α :=
  match fields.lookup name with
  | some v => read v
  | none => .ok default

/-- A list of texts. -/
def texts (f : Form) (v : Value) : Except FormError (List String) := do
  (← f.items v).mapM f.text

end Form

end RecordSchema
