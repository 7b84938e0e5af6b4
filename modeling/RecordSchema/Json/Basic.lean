/-!
# JSON values

JSON values with exact decimal numbers, and the parts that records and variants are read from. A
record is an object of its fields or an array of them in order; a variant is a string, or an object
with one field. Main statement: a part of a value is smaller than the value.
-/

namespace RecordSchema

/-- A JSON value. A number is its digits and how many of them follow the decimal point. -/
inductive Json where
  | null
  | bool (value : Bool)
  | number (digits : Int) (places : Nat)
  | string (value : String)
  | array (items : List Json)
  | object (fields : List (String × Json))
deriving Inhabited, Repr

namespace Json

/-- The number of a count. -/
def count (n : UInt64) : Json :=
  number n.toNat 0

/-- A count: a number without places that fits 64 bits. -/
def count? : Json → Option UInt64
  | number (.ofNat n) 0 => if n < UInt64.size then some (.ofNat n) else none
  | _ => none

/-- A string. -/
def string? : Json → Option String
  | string s => some s
  | _ => none

/-- A value that may be null. -/
def nullable {α : Type} (read : Json → Option α) : Json → Option (Option α)
  | null => some none
  | j => (read j).map some

/-- The value of the first field of a name. -/
def lookup (name : String) : List (String × Json) → Option Json
  | [] => none
  | (n, v) :: rest => if n = name then some v else lookup name rest

/-- A field of a record that has so many fields, by its number and its name. The outer option is
empty if the value is no such record, and the inner one if the field is missing. -/
def field? (size index : Nat) (name : String) : Json → Option (Option Json)
  | object fields => some (lookup name fields)
  | array items => if items.length ≤ size then some items[index]? else none
  | _ => none

/-- A field that may not be missing. -/
def required (size index : Nat) (name : String) (j : Json) : Option Json :=
  (j.field? size index name).join

/-- A field that stands for a default value where it is missing. -/
def defaulted {α : Type} (size index : Nat) (name : String) (default : α)
    (read : Json → Option α) (j : Json) : Option α :=
  match j.field? size index name with
  | none => none
  | some none => some default
  | some (some v) => read v

/-- A field that may be null, and missing from an object. -/
def optional {α : Type} (size index : Nat) (name : String) (read : Json → Option α)
    (j : Json) : Option (Option α) :=
  match j.field? size index name, j with
  | some (some v), _ => nullable read v
  | some none, object _ => some none
  | _, _ => none

/-- A variant: its name, and what it holds. A string is a variant that holds nothing. -/
def variant? : Json → Option (String × Option Json)
  | string s => some (s, none)
  | object [(name, value)] => some (name, some value)
  | _ => none

/-- A variant that holds nothing, or null. -/
def holdsNothing (content : Option Json) : Bool :=
  match content with
  | none | some null => true
  | _ => false

/-- The items of an array, each of which is read. -/
def list? {α : Type} (read : Json → Option α) : Json → Option (List α)
  | array items => items.mapM read
  | _ => none

/-! ### Sizes -/

/-- The value of a field is smaller than the fields. -/
theorem sizeOf_lookup {name : String} {fields : List (String × Json)} {v : Json}
    (h : lookup name fields = some v) : sizeOf v < sizeOf fields := by
  induction fields with
  | nil => simp [lookup] at h
  | cons f rest ih =>
    obtain ⟨n, w⟩ := f
    simp only [lookup] at h
    split at h
    · obtain rfl := Option.some.inj h
      simp only [List.cons.sizeOf_spec, Prod.mk.sizeOf_spec]
      omega
    · have := ih h
      simp only [List.cons.sizeOf_spec]
      omega

/-- A field of a record is smaller than the record. -/
theorem sizeOf_required {size index : Nat} {name : String} {j v : Json}
    (h : j.required size index name = some v) : sizeOf v < sizeOf j := by
  cases j with
  | object fields =>
    have := sizeOf_lookup (h : lookup name fields = some v)
    simp only [object.sizeOf_spec]
    omega
  | array items =>
    simp only [required, field?] at h
    split at h
    · have hmem := List.mem_of_getElem? (h : items[index]? = some v)
      have := List.sizeOf_lt_of_mem hmem
      simp only [array.sizeOf_spec]
      omega
    · simp at h
  | _ => simp [required, field?] at h

/-- What a variant holds is smaller than the variant. -/
theorem sizeOf_variant {j v : Json} {name : String} (h : j.variant? = some (name, some v)) :
    sizeOf v < sizeOf j := by
  unfold variant? at h
  split at h
  · simp at h
  · simp only [Option.some.injEq, Prod.mk.injEq] at h
    obtain ⟨-, rfl⟩ := h
    simp only [object.sizeOf_spec, List.cons.sizeOf_spec, Prod.mk.sizeOf_spec]
    omega
  · simp at h

end Json

end RecordSchema
