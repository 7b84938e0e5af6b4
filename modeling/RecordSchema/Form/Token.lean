import RecordSchema.Form.Tag

/-!
# Tokens of a form

The indicators, scalars, properties and markers of a form, with explicit starts and ends of block
collections.
-/

namespace RecordSchema.Form

/-- A token of a form. -/
inductive Token where
  | streamEnd
  | directive (declared : Directive)
  | documentStart
  | documentEnd
  | blockSequenceStart
  | blockMappingStart
  | blockEnd
  | flowSequenceStart
  | flowSequenceEnd
  | flowMappingStart
  | flowMappingEnd
  | blockEntry
  | flowEntry
  | key
  | value
  | reference (name : String)
  | anchor (name : String)
  | tag (tag : Tag)
  | scalar (plain : Bool) (text : String)
deriving DecidableEq, Repr

end RecordSchema.Form
