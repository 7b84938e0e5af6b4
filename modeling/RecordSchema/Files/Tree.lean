import RecordSchema.Files.Path

/-!
# File trees

A file tree as a value: what stands at each location, a location being the names that lead to it
from the root. Reading answers a text or the reason why there is none; writing answers the tree
after it. Main statement: writing a file changes nothing else.
-/

namespace RecordSchema

/-- Why a file cannot be read or written. -/
inductive FileError where
  | notFound
  | exists
  | notDirectory
  | isDirectory
  | notText
  | emptyPath
deriving DecidableEq, Repr

/-- The wording of the operating system. -/
def FileError.message : FileError → String
  | notFound => "No such file or directory (os error 2)"
  | .exists => "File exists (os error 17)"
  | notDirectory => "Not a directory (os error 20)"
  | isDirectory => "Is a directory (os error 21)"
  | notText => "stream did not contain valid UTF-8"
  | emptyPath => "cannot make an empty path absolute"

/-- What stands at a location. -/
inductive FileEntry where
  | text (content : String)
  | binary (content : List UInt8)
  | directory
deriving DecidableEq, Repr

/-- The file that holds some bytes. -/
def FileEntry.ofBytes (bytes : List UInt8) : FileEntry :=
  match String.fromUTF8? (ByteArray.mk bytes.toArray) with
  | some content => .text content
  | none => .binary bytes

/-- The names that lead from the root to a location. -/
abbrev Location := List String

/-- What stands where, and the working directory. The root is a directory. -/
structure FileTree where
  entries : List (Location × FileEntry)
  working : Location
deriving DecidableEq, Repr

namespace FileTree

/-- What stands at a location. -/
def lookup (t : FileTree) : Location → Option FileEntry
  | [] => some .directory
  | location => t.entries.lookup location

/-- Puts something at a location. -/
def put (t : FileTree) (location : Location) (e : FileEntry) : FileTree :=
  { t with entries := (location, e) :: t.entries.filter (·.1 != location) }

/-- Follows the segments of a path from a location. Only a directory leads further. -/
def follow (t : FileTree) (here : Location) : List String → Except FileError Location
  | [] => .ok here
  | segment :: rest =>
    match t.lookup here with
    | some .directory =>
      if segment = "" ∨ segment = "." then t.follow here rest
      else if segment = ".." then t.follow here.dropLast rest
      else t.follow (here ++ [segment]) rest
    | some _ => .error .notDirectory
    | none => .error .notFound

/-- The location where a path starts. -/
def startOf (t : FileTree) (path : String) : Location :=
  if Path.isAbsolute path then [] else t.working

/-- The location that a path leads to. -/
def locate (t : FileTree) (path : String) : Except FileError Location :=
  if path = "" then .error .notFound else t.follow (t.startOf path) (Path.pieces path)

/-- What a path leads to. -/
def find (t : FileTree) (path : String) : Except FileError FileEntry :=
  match t.locate path with
  | .error e => .error e
  | .ok location =>
    match t.lookup location with
    | some e => .ok e
    | none => .error .notFound

/-- A path leads to a directory. -/
def isDirectory (t : FileTree) (path : String) : Bool :=
  match t.find path with
  | .ok .directory => true
  | _ => false

/-- The text of a file. -/
def read (t : FileTree) (path : String) : Except FileError String :=
  match t.find path with
  | .ok (.text content) => .ok content
  | .ok (.binary _) => .error .notText
  | .ok .directory => .error .isDirectory
  | .error e => .error e

/-- The text of a file, written over what was there. -/
def write (t : FileTree) (path content : String) : Except FileError FileTree :=
  match t.locate path with
  | .error e => .error e
  | .ok location =>
    match t.lookup location with
    | some .directory => .error .isDirectory
    | _ => .ok (t.put location (.text content))

/-- The segments of a path without those behind its last name. -/
def trimSegments (segments : List String) : List String :=
  (segments.reverse.dropWhile (· == "")).reverse

/-- A new directory in one that is there. -/
def makeDirectory (t : FileTree) (path : String) : Except FileError FileTree :=
  if path = "" then .error .notFound
  else
    let segments := trimSegments (Path.pieces path)
    match segments.getLast? with
    | none => .error .exists
    | some last =>
      match t.follow (t.startOf path) (segments.dropLast ++ ["."]) with
      | .error e => .error e
      | .ok parent =>
        if last = "." ∨ last = ".." then .error .exists
        else
          match t.lookup (parent ++ [last]) with
          | some _ => .error .exists
          | none => .ok (t.put (parent ++ [last]) .directory)

/-- A directory and, where they are missing, the directories that contain it, which are given from
the nearest on. The tree after it is answered in any case. -/
def makeDirectoriesIn (t : FileTree) (path : String) : List String → FileTree × Option FileError
  | [] =>
    match t.makeDirectory path with
    | .ok t => (t, none)
    | .error e => (t, if t.isDirectory path then none else some e)
  | parent :: above =>
    match t.makeDirectory path with
    | .ok t => (t, none)
    | .error .notFound =>
      match t.makeDirectoriesIn parent above with
      | (t, some e) => (t, some e)
      | (t, none) =>
        match t.makeDirectory path with
        | .ok t => (t, none)
        | .error e => (t, if t.isDirectory path then none else some e)
    | .error e => (t, if t.isDirectory path then none else some e)

/-- A directory with all directories that contain it. The empty path needs none. -/
def makeDirectories (t : FileTree) (path : String) : FileTree × Option FileError :=
  if path = "" then (t, none) else t.makeDirectoriesIn path (Path.ancestors path)

/-! ### Building trees -/

/-- The directory at a location and those that contain it. -/
def withDirectory (t : FileTree) (location : Location) : FileTree :=
  (List.range location.length).foldl
    (fun t n =>
      let part := location.take (n + 1)
      if (t.lookup part).isNone then t.put part .directory else t) t

/-- Puts something where a path leads, in directories made for it. -/
def withEntry (t : FileTree) (path : String) (e : FileEntry) : FileTree :=
  let location := Path.resolve (t.startOf path) (Path.pieces path)
  (t.withDirectory location.dropLast).put location e

/-- A tree that is empty but for its working directory. -/
def ofWorking (working : Location) : FileTree :=
  withDirectory ⟨[], working⟩ working

/-- What stands in a tree and not in an earlier one, the oldest first. -/
def since (t before : FileTree) : List (Location × FileEntry) :=
  (t.entries.filter fun (location, e) => before.lookup location != some e).reverse

/-- The path of a location below the working directory. -/
def pathBelow? (t : FileTree) (location : Location) : Option String :=
  if t.working.isPrefixOf location then
    some ("/".intercalate (location.drop t.working.length))
  else
    none

/-! ### Laws -/

/-- What was put at a location stands there. -/
theorem lookup_put_self (t : FileTree) {location : Location} (e : FileEntry)
    (h : location ≠ []) : (t.put location e).lookup location = some e := by
  cases location with
  | nil => exact absurd rfl h
  | cons => simp [lookup, put]

/-- Putting something at a location changes no other. -/
theorem lookup_put_ne (t : FileTree) {location other : Location} (e : FileEntry)
    (h : other ≠ location) : (t.put location e).lookup other = t.lookup other := by
  cases other with
  | nil => rfl
  | cons name rest =>
    have hb : ((name :: rest : Location) == location) = false := by simpa using h
    simp only [lookup, put, List.lookup_cons, hb]
    induction t.entries with
    | nil => rfl
    | cons x xs ih =>
      obtain ⟨l, v⟩ := x
      by_cases hl : l = location
      · subst hl
        simp only [List.filter_cons, bne_self_eq_false, Bool.false_eq_true, ↓reduceIte,
          List.lookup_cons, hb]
        exact ih
      · have : (l != location) = true := by simpa using hl
        simp only [List.filter_cons, this, ↓reduceIte, List.lookup_cons]
        split
        · rfl
        · exact ih

end FileTree

end RecordSchema
