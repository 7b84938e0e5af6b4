/-!
# Intervals of code points

A character class of the Unicode standard is given by the closed intervals of code points that
make it up.
-/

namespace RecordSchema.Text

/-- Closed intervals of code points, in ascending order. -/
abbrev Intervals := List (Nat × Nat)

/-- A character belongs to a class when one of its intervals holds the code point. -/
def Intervals.contains (t : Intervals) (c : Char) : Bool :=
  t.any fun r => decide (r.1 ≤ c.toNat) && decide (c.toNat ≤ r.2)

end RecordSchema.Text
