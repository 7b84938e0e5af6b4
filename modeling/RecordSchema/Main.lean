import RecordSchema.Command.Run

/-!
# The program

A run is a function of the files that it reads. The program looks at those files, runs, and writes
down what the run has changed. Files that would be written are looked at as well, because a
directory in their place makes the run fail.
-/

namespace RecordSchema.Program

open Command

/-- The files that a request reads, as far as the files that are known tell. -/
def inputs (t : FileTree) (r : Request) : List String :=
  let resources :=
    if t.isDirectory r.source then
      match loadManifest t r.source with
      | .ok m => m.paths r.source
      | .error _ => []
    else
      []
  r.settings.toList ++ [r.source, Path.join r.source Manifest.fileName] ++ resources

/-- The path of a location. -/
def absolutePath (location : Location) : String :=
  Path.ofNames true location

/-- The code of the operating system for a directory where a file is expected. -/
def isDirectoryCode : UInt32 :=
  21

/-- Looks at what a path leads to. -/
def observe (t : FileTree) (path : String) : IO FileTree := do
  if path == "" then return t
  try
    return t.withEntry path (.ofBytes (← IO.FS.readBinFile path).toList)
  catch
    | .inappropriateType _ code _ =>
      return if code == isDirectoryCode then t.withEntry path .directory else t
    | _ => return t

/-- Looks at the files that a command line needs: the schema, then its manifest, then the resources
of the manifest, and last the files that would be written. -/
def observeAll (t : FileTree) (arguments : List String) : IO FileTree := do
  match Invocation.ofArguments arguments with
  | .ok (.run request) =>
    let mut t := t
    for _ in [0:3] do
      t ← (inputs t request).foldlM observe t
    let changes := (run t arguments).tree.since t
    (changes.map fun c => absolutePath c.1).foldlM observe t
  | _ => return t

/-- Writes down a change. -/
def writeChange (location : Location) : FileEntry → IO Unit
  | .text content => IO.FS.writeFile (absolutePath location) content
  | .binary content => IO.FS.writeBinFile (absolutePath location) ⟨content.toArray⟩
  | .directory => IO.FS.createDirAll (absolutePath location)

end RecordSchema.Program

open RecordSchema in
/-- Runs the program in the working directory. -/
def main (arguments : List String) : IO UInt32 := do
  let working := Path.names (← IO.currentDir).toString
  let t ← Program.observeAll (.ofWorking working) arguments
  let outcome := Command.run t arguments
  for (location, e) in outcome.tree.since t do
    Program.writeChange location e
  IO.print outcome.output
  IO.eprint outcome.errors
  return outcome.code.toUInt32
