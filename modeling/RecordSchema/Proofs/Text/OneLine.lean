import Mathlib
import RecordSchema.Proofs.Text.Caseless
import RecordSchema.Proofs.Text.CommentWords

/-!
# Texts of one line

Which texts hold no line feed: comments, because they hold no white space but spaces, identifiers, and the
keys of fields, because changing case makes no line feeds and a name with a line feed would not become
an identifier. Main statements: `isOneLine_first` for comments, and `isOneLine_snake` for keys.
-/

namespace RecordSchema

namespace Text

/-- The text has no line feed in it. -/
def IsOneLine (s : String) : Prop :=
  '\n' ∉ s.toList

/-- Whether a text is one line can be decided. -/
instance (s : String) : Decidable (IsOneLine s) :=
  inferInstanceAs (Decidable ('\n' ∉ s.toList))

/-- Two texts are one line together when each of them is. -/
@[simp]
lemma isOneLine_append {a b : String} : IsOneLine (a ++ b) ↔ IsOneLine a ∧ IsOneLine b := by
  simp [IsOneLine]

/-- The empty text has no line break. -/
@[simp]
lemma isOneLine_empty : IsOneLine "" := by
  simp [IsOneLine]

/-- A line feed has no case. -/
lemma isCaseless_newline : IsCaseless '\n' :=
  isCaseless_of_ascii (by decide) (by decide) (by decide)

end Text

/-! ### Comments -/

namespace Comment

/-- A comment that has been normalized is one line. -/
lemma isOneLine_normalize (comment : String) : Text.IsOneLine (normalize comment) := by
  intro mem
  have space := (isSpaced_normalize comment).space '\n' mem (by decide)
  exact absurd space (by decide)

/-- The first comment with words is one line, like every normalized comment. -/
lemma isOneLine_first (comments : List String) : Text.IsOneLine (first comments) := by
  unfold first
  cases found : (comments.map normalize).find? (· != "") with
  | none => exact Text.isOneLine_empty
  | some comment =>
    obtain ⟨_, _, rfl⟩ := List.mem_map.1 (List.mem_of_find?_eq_some found)
    exact isOneLine_normalize _

end Comment

/-! ### Names -/

/-- An identifier has no line break. -/
lemma Go.isOneLine_of_isIdentifier {name : String} (h : isIdentifier name) :
    Text.IsOneLine name := by
  intro mem
  exact absurd (isIdentifierRest_of_mem h mem) (by decide)

namespace Name

/-- The key of a field whose name becomes an identifier is one line. -/
lemma isOneLine_snake {name : String} (named : Go.isIdentifier (pascal name)) :
    Text.IsOneLine (snake name) := by
  intro mem
  have holds := isIdentifierRest_of_mem_snake named Text.isCaseless_newline mem (by decide)
  exact absurd holds (by decide)

end Name

end RecordSchema
