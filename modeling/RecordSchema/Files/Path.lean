import RecordSchema.Text.Split

/-!
# Paths

Paths are texts whose segments stand between slashes. A path that begins with a slash starts at the
root, any other at the working directory.
-/

namespace RecordSchema.Path

open Text

/-- The texts between the slashes of a path. -/
def pieces (path : String) : List String :=
  (Text.pieces (· == '/') path.toList).map String.ofList

/-- The path starts at the root. -/
def isAbsolute (path : String) : Bool :=
  path.toList.head? == some '/'

/-- The path of something inside a directory. An absolute path stands for itself. -/
def join (directory path : String) : String :=
  if isAbsolute path || directory == "" then path
  else if directory.toList.getLast? = some '/' then directory ++ path
  else directory ++ "/" ++ path

/-- The segments that say something: not empty and not `.`. -/
def names (path : String) : List String :=
  (pieces path).filter fun s => s != "" && s != "."

/-- The last name on a path, unless it leads to a directory above. -/
def fileName? (path : String) : Option String :=
  (names path).getLast?.filter (· != "..")

/-- The names that lead from the root to where some segments lead from a directory, if every segment
but the last one is a directory. -/
def resolve (here : List String) : List String → List String
  | [] => here
  | segment :: rest =>
    if segment = "" ∨ segment = "." then resolve here rest
    else if segment = ".." then resolve here.dropLast rest
    else resolve (here ++ [segment]) rest

/-- A path of names. -/
def ofNames (absolute : Bool) (names : List String) : String :=
  (if absolute then "/" else "") ++ "/".intercalate names

/-- The names of the directories that contain what some names lead to, the nearest first. -/
def parents (names : List String) : List (List String) :=
  match names with
  | [] => []
  | n :: rest => (parents rest).map (n :: ·) ++ [[]]

/-- The paths of the directories that contain what a path leads to, the nearest first. The
directory where every path starts is not among them. -/
def ancestors (path : String) : List String :=
  ((parents (names path)).filter (!·.isEmpty)).map (ofNames (isAbsolute path))

end RecordSchema.Path
