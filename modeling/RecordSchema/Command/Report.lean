import RecordSchema.Text.Split

/-!
# Reports of failures

A failure is reported by what could not be done and the chain of its causes. Causes are indented;
several of them are numbered from zero.
-/

namespace RecordSchema.Command

/-- What could not be done, and why. -/
structure Report where
  message : String
  causes : List String
deriving DecidableEq, Repr

namespace Report

/-- The lines of a text with a margin before the first one, and another before the others. -/
def indented (first rest text : String) : String :=
  first ++ ("\n" ++ rest).intercalate ((Text.pieces (· == '\n') text.toList).map String.ofList)

/-- A cause with its number. -/
def numbered (n : Nat) (cause : String) : String :=
  let number := toString n
  indented (String.ofList (List.replicate (5 - number.length) ' ') ++ number ++ ": ") "       "
    cause

/-- The lines of the causes. -/
def causeLines : List String → List String
  | [] => []
  | [cause] => ["", "Caused by:", indented "    " "    " cause]
  | causes => ["", "Caused by:"] ++ causes.zipIdx.map fun (cause, n) => numbered n cause

/-- The text of a report. -/
def text (r : Report) : String :=
  "\n".intercalate (("Error: " ++ r.message) :: causeLines r.causes) ++ "\n"

end Report

end RecordSchema.Command
