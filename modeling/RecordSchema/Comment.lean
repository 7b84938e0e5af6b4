import RecordSchema.Text.Blank
import RecordSchema.Text.Line

/-!
# Comment text

A comment loses its markers and becomes one line of words.
-/

namespace RecordSchema.Comment

open Text

/-- The words of one line of a comment, without the markers at its ends. -/
def lineWords (line : List Char) : List (List Char) :=
  words (trimWhere (· == '#') (trim line))

/-- The characters of `normalize`. -/
def normalizeChars (comment : List Char) : List Char :=
  joinWith [' '] ((lines comment).flatMap lineWords)

/-- The words of a comment, joined by single spaces. -/
def normalize (comment : String) : String :=
  String.ofList (normalizeChars comment.toList)

/-- The first of some comments that holds words. -/
def first (comments : List String) : String :=
  ((comments.map normalize).find? (· != "")).getD ""

end RecordSchema.Comment
