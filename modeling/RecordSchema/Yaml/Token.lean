import RecordSchema.Yaml.Input

/-!
# Tokens

The indicators, scalars, properties and markers of a text, with explicit starts and ends of block
collections.
-/

namespace RecordSchema.Yaml

/-- A token of YAML text. -/
inductive Token where
  | streamEnd
  | versionDirective
  | tagDirective (handle : String)
  | documentStart
  | documentEnd
  | blockSequenceStart
  | blockMappingStart
  | blockEnd
  | flowSequenceStart
  | flowSequenceEnd
  | flowMappingStart
  | flowMappingEnd
  | blockEntry
  | flowEntry
  | key
  | value
  | reference (name : String)
  | anchor (name : String)
  | tag (handle : String)
  | scalar (plain : Bool) (text : String)
deriving DecidableEq, Repr

/-- An anchor or a tag. -/
def Token.isProperty : Token → Bool
  | anchor _ | tag _ => true
  | _ => false

end RecordSchema.Yaml
