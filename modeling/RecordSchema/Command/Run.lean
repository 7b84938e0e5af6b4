import RecordSchema.Batch
import RecordSchema.Command.Arguments
import RecordSchema.Command.Report
import RecordSchema.Go.Generator
import RecordSchema.Json.Model
import RecordSchema.Json.Pretty
import RecordSchema.Loading
import RecordSchema.Model.Dump
import RecordSchema.Settings

/-!
# Running commands

A run reads files from a tree and answers the tree after it, what it prints, and its exit code: 0
for success, 1 for a failure, which is reported, and 2 for a command line that cannot be
understood. Settings are read before anything else; a schema is loaded, parsed and linked before
anything is printed.
-/

namespace RecordSchema.Command

/-- What a run leaves behind. -/
structure Outcome where
  code : Nat
  /-- what is printed -/
  output : String
  /-- what is printed about a failure -/
  errors : String
  tree : FileTree
deriving DecidableEq, Repr

/-- What a run prints, or the report of its failure. -/
abbrev Printed := Except Report String

/-! ### Failures -/

/-- The messages of a cause that is a file error, and of the file error. -/
def Report.ofFile (context message : String) (cause : FileError) : Report :=
  ⟨context, [message, cause.message]⟩

/-- The report of a schema that cannot be loaded. -/
def Report.ofLoad (source : String) (e : LoadError) : Report :=
  let context := "failed to load " ++ source
  match e with
  | .unreadable _ cause => .ofFile context e.message cause
  | _ => ⟨context, [e.message]⟩

/-- The report of a schema with problems. -/
def Report.ofDiagnostics (source : String) (ds : List Diagnostic) : Report :=
  ⟨"schema " ++ source ++ " is invalid", [Diagnostic.messageOfList ds]⟩

/-- The report of sources that cannot be generated. -/
def Report.ofGenerate (e : Go.GenerateError) : Report :=
  let context := "failed to generate Go sources"
  match e with
  | .unwritable _ cause => .ofFile context e.message cause
  | _ => ⟨context, [e.message]⟩

/-! ### Stages -/

/-- Reads the settings of a run. -/
def readSettings (t : FileTree) : Option String → Except Report Settings
  | none => .ok .unset
  | some path =>
    match t.read path with
    | .error cause => .error ⟨"failed to read config " ++ path, [cause.message]⟩
    | .ok text =>
      (Settings.ofText text).mapError fun cause => ⟨"invalid config " ++ path, [cause.message]⟩

/-- The packages of a schema. -/
def compile (t : FileTree) (f : Format) (source : String) : Except Report (List Package) := do
  let documents ← (loadSchema f t source).mapError (.ofLoad source)
  (packagesOf documents).mapError (.ofDiagnostics source)

/-! ### Actions -/

/-- The line that says what a package declares. -/
def summaryLine (p : Package) : String :=
  "package " ++ p.name ++ ": " ++ toString p.enums.length ++ " enums, " ++
    toString p.structures.length ++ " structures\n"

/-- What a check prints. -/
def summary (packages : List Package) : String :=
  String.join (packages.map summaryLine) ++ "ok: " ++ toString packages.length ++ " packages\n"

/-- The linker for the types that Go has and those of the settings. -/
def inspectionLinker (s : Settings) : Linker :=
  ⟨Go.builtinTypes.extend s.typeMap, Name.protoPascal⟩

/-- What an inspection prints. -/
def inspection (json : Bool) (packages : List Package) : String :=
  if json then (Json.array (packages.map Package.toJson)).pretty ++ "\n"
  else "\n\n".intercalate (packages.map Package.dump) ++ "\n"

/-- The generator of a run. The output directory of the command line counts before that of the
settings, and the working directory where neither names one. -/
def generatorOf (t : FileTree) (out : Option String) (s : Settings) : Go.Generator :=
  let out := (out.or s.out).getD "."
  let g := (Go.Generator.into out t.working.getLast?).withTypes s.typeMap
  { g with package := s.package, imports := g.imports.extend s.imports }

/-- Generates sources and prints their paths. -/
def generate (t : FileTree) (out : Option String) (s : Settings) (packages : List Package) :
    FileTree × Printed :=
  let (t, written) := (generatorOf t out s).run packages t
  (t, (written.mapError Report.ofGenerate).map fun paths =>
    String.join (paths.map (· ++ "\n")))

/-- Does what is asked with the packages of a schema. -/
def perform (t : FileTree) (s : Settings) (packages : List Package) : Action → FileTree × Printed
  | .check => (t, .ok (summary packages))
  | .inspect json link =>
    let packages := if link then (inspectionLinker s).link packages else packages
    (t, .ok (inspection json packages))
  | .generate out => generate t out s packages

/-- Serves a request. -/
def serve (t : FileTree) (r : Request) : FileTree × Printed :=
  match readSettings t r.settings with
  | .error report => (t, .error report)
  | .ok s =>
    match compile t r.format r.source with
    | .error report => (t, .error report)
    | .ok packages => perform t s packages r.action

/-! ### Runs -/

/-- The name and the version of the program. -/
def versionLine : String :=
  "schemac 0.1.0\n"

/-- What the program can be asked for. -/
def helpText : String :=
  "Compile YAML schema models into typed packages and Go sources\n\n" ++
  "Usage: schemac [OPTIONS] <COMMAND>\n\n" ++
  "Commands:\n" ++
  "  check    Parse a schema and report its packages or diagnostics\n" ++
  "  inspect  Print the package IR\n" ++
  "  gogo     Generate Go sources\n" ++
  "  help     Print this message or the help of the given subcommand(s)\n\n" ++
  "Options:\n" ++
  "  -c, --config <CONFIG>  Path to configuration file\n" ++
  "      --bare             Read documents without the version/kind envelope\n" ++
  "  -v, --verbose...       Increase log verbosity (-v info, -vv debug, -vvv trace)\n" ++
  "  -h, --help             Print help\n" ++
  "  -V, --version          Print version\n"

/-- Runs a command line on a tree. -/
def run (t : FileTree) (arguments : List String) : Outcome :=
  match Invocation.ofArguments arguments with
  | .error e => ⟨2, "", e.message, t⟩
  | .ok .help => ⟨0, helpText, "", t⟩
  | .ok .version => ⟨0, versionLine, "", t⟩
  | .ok (.run request) =>
    match serve t request with
    | (t, .ok output) => ⟨0, output, "", t⟩
    | (t, .error report) => ⟨1, "", report.text, t⟩

end RecordSchema.Command
