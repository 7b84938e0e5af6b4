import RecordSchema.Text.Interval
import RecordSchema.Text.Split

/-!
# White space

The characters with the Unicode property White_Space, trimming, and the words between them.
-/

namespace RecordSchema.Text

/-- Characters with the property White_Space. -/
def whiteSpace : Intervals :=
  [(0x9, 0xD), (0x20, 0x20), (0x85, 0x85), (0xA0, 0xA0), (0x1680, 0x1680), (0x2000, 0x200A),
   (0x2028, 0x2029), (0x202F, 0x202F), (0x205F, 0x205F), (0x3000, 0x3000)]

/-- A white-space character. -/
def isBlank (c : Char) : Bool :=
  whiteSpace.contains c

/-- The text from its first character on that fails the test. -/
def trimStartWhere (p : Char → Bool) (s : List Char) : List Char :=
  s.dropWhile p

/-- The text up to its last character that fails the test. -/
def trimEndWhere (p : Char → Bool) (s : List Char) : List Char :=
  (s.reverse.dropWhile p).reverse

/-- The text without the characters at its two ends that pass the test. -/
def trimWhere (p : Char → Bool) (s : List Char) : List Char :=
  trimEndWhere p (trimStartWhere p s)

/-- The text without leading white space. -/
def trimStart : List Char → List Char :=
  trimStartWhere isBlank

/-- The text without trailing white space. -/
def trimEnd : List Char → List Char :=
  trimEndWhere isBlank

/-- The text without leading and trailing white space. -/
def trim : List Char → List Char :=
  trimWhere isBlank

/-- The words of a text: its chunks between white space. -/
def words : List Char → List (List Char) :=
  chunks isBlank

end RecordSchema.Text
