/-!
# Splitting text at separators

`pieces` cuts a text at every separating character and keeps the empty pieces; `chunks` keeps only
the pieces that hold something, and `joinWith` puts texts together again. Main statement: a
separator between two texts cuts them apart, so the pieces of the whole are those of its parts.
-/

namespace RecordSchema.Text

/-- The pieces of a text between its separators; a text without separators is one piece. -/
def pieces (isSeparator : Char → Bool) : List Char → List (List Char)
  | [] => [[]]
  | c :: rest =>
    if isSeparator c then
      [] :: pieces isSeparator rest
    else
      match pieces isSeparator rest with
      | [] => [[c]]
      | piece :: more => (c :: piece) :: more

/-- The pieces that are not empty. -/
def chunks (isSeparator : Char → Bool) (s : List Char) : List (List Char) :=
  (pieces isSeparator s).filter (!·.isEmpty)

/-- Texts joined by a separator. -/
def joinWith (separator : List Char) : List (List Char) → List Char
  | [] => []
  | [s] => s
  | s :: rest => s ++ separator ++ joinWith separator rest

/-- There is always a piece. -/
theorem pieces_ne_nil (p : Char → Bool) (s : List Char) : pieces p s ≠ [] := by
  cases s with
  | nil => simp [pieces]
  | cons c rest =>
    simp only [pieces]
    split
    · simp
    · split <;> simp

/-- A separator cuts a text into two that are split on their own. -/
theorem pieces_append_cons {p : Char → Bool} {c : Char} (hc : p c = true) (a b : List Char) :
    pieces p (a ++ c :: b) = pieces p a ++ pieces p b := by
  induction a with
  | nil => simp [pieces, hc]
  | cons d rest ih =>
    simp only [List.cons_append, pieces, ih]
    split
    · rfl
    · cases h : pieces p rest with
      | nil => exact absurd h (pieces_ne_nil p rest)
      | cons piece more => rfl

/-- The chunks around a separator are those of its two sides. -/
theorem chunks_append_cons {p : Char → Bool} {c : Char} (hc : p c = true) (a b : List Char) :
    chunks p (a ++ c :: b) = chunks p a ++ chunks p b := by
  simp [chunks, pieces_append_cons hc]

end RecordSchema.Text
