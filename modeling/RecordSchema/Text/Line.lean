import RecordSchema.Text.Split

/-!
# Lines of a text

A line ends at a line feed, which takes one carriage return before it along. What follows the last
line feed is a line only if it is not empty.
-/

namespace RecordSchema.Text

/-- A line without the carriage return before its line feed. -/
def dropReturn (line : List Char) : List Char :=
  if line.getLast? = some '\r' then line.dropLast else line

/-- The lines among the pieces between line feeds: all but the last piece were ended by one. -/
def closeLines : List (List Char) → List (List Char)
  | [] => []
  | [last] => if last.isEmpty then [] else [last]
  | line :: rest => dropReturn line :: closeLines rest

/-- The lines of a text. -/
def lines (s : List Char) : List (List Char) :=
  closeLines (pieces (· == '\n') s)

end RecordSchema.Text
