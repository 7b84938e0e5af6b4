/-!
# Conflicting names

The names that repeat an earlier one, once for each time that they do.
-/

namespace RecordSchema

/-- The names that repeat an earlier one or one of those seen before. -/
def repeatedAfter (seen : List String) : List String → List String
  | [] => []
  | name :: rest =>
    if seen.contains name then name :: repeatedAfter seen rest
    else repeatedAfter (name :: seen) rest

/-- The names of the items that have an earlier item of the same name. -/
def repeatedNames {α : Type} (name : α → String) (items : List α) : List String :=
  repeatedAfter [] (items.map name)

end RecordSchema
