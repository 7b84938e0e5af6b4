import RecordSchema.Files.Tree
import RecordSchema.Manifest
import RecordSchema.Source.Reading
import RecordSchema.Text.Quoted

/-!
# Loading schemas

A schema is a YAML file or a directory with a manifest. Every YAML document becomes one schema
document; the first failure ends the loading.
-/

namespace RecordSchema

/-- Why a schema cannot be loaded. -/
inductive LoadError where
  | unreadable (path : String) (cause : FileError)
  | malformed (source : String) (cause : ReadError)
  | unknownVersion (source version : String)
  | unknownKind (source kind : String)
  | notMapping (source : String) (found : Shape)
  | wrongEnvelope (source : String) (cause : NavigationError)
  | badManifest (path : String) (cause : FormError)
  | remote (source : String)
deriving DecidableEq, Repr

namespace LoadError

/-- The wording of a cause inside an envelope. -/
def envelopeMessage (source cause : String) : String :=
  "invalid document envelope in " ++ source ++ ": " ++ cause

/-- The wording of an error. -/
def message : LoadError → String
  | unreadable path cause => "failed to read " ++ path ++ ": " ++ cause.message
  | malformed source cause => "YAML syntax error in " ++ source ++ ": " ++ cause.message
  | unknownVersion source version =>
    "unknown version in " ++ source ++ ": " ++ Text.quoted version
  | unknownKind source kind => "unknown resource kind in " ++ source ++ ": " ++ Text.quoted kind
  | notMapping source found =>
    envelopeMessage source ("expected a mapping, found " ++ found.name)
  | wrongEnvelope source cause => envelopeMessage source cause.message
  | badManifest path cause => "invalid manifest " ++ path ++ ": " ++ cause.message
  | remote source => "remote sources are not supported: " ++ source

/-- An error inside an envelope as one of a source. -/
def ofEnvelope (source : String) : EnvelopeError → LoadError
  | .notMapping found => notMapping source found
  | .navigation cause => wrongEnvelope source cause
  | .unknownVersion version => unknownVersion source version
  | .unknownKind kind => unknownKind source kind

/-- An error of a manifest. -/
def ofManifest (path : String) : ManifestError → LoadError
  | .malformed cause => badManifest path cause
  | .unknownVersion version => unknownVersion path version
  | .unknownKind kind => unknownKind path kind

end LoadError

/-- The document of a node from an origin. -/
def decodeNode (f : Format) (root : Node) (origin : Origin) : Except LoadError Document :=
  (f.decode root origin).mapError (.ofEnvelope origin.label)

/-- The documents of the nodes of a source that is named, counted from a number. -/
def decodeAll (f : Format) (source : String) (index : Nat) :
    List Node → Except LoadError (List Document)
  | [] => .ok []
  | root :: rest =>
    match decodeNode f root ⟨source, index.toUInt64, root.info.position⟩ with
    | .error e => .error e
    | .ok d => (decodeAll f source (index + 1) rest).map (d :: ·)

/-- The documents of a text. -/
def loadText (f : Format) (source text : String) : Except LoadError (List Document) :=
  match readDocuments text with
  | .error cause => .error (.malformed source cause)
  | .ok nodes => decodeAll f source 0 nodes

/-- The documents of a file. -/
def loadFile (f : Format) (t : FileTree) (path : String) : Except LoadError (List Document) :=
  match t.read path with
  | .error cause => .error (.unreadable path cause)
  | .ok text => loadText f path text

/-- The documents of some files, one file after the other. -/
def loadFiles (f : Format) (t : FileTree) : List String → Except LoadError (List Document)
  | [] => .ok []
  | path :: rest =>
    match loadFile f t path with
    | .error e => .error e
    | .ok documents => (loadFiles f t rest).map (documents ++ ·)

/-- The manifest of a directory. -/
def loadManifest (t : FileTree) (directory : String) : Except LoadError Manifest :=
  let path := Path.join directory Manifest.fileName
  match t.read path with
  | .error cause => .error (.unreadable path cause)
  | .ok text => (Manifest.ofText text).mapError (.ofManifest path)

/-- The documents of a schema directory. -/
def loadDirectory (f : Format) (t : FileTree) (directory : String) :
    Except LoadError (List Document) :=
  match loadManifest t directory with
  | .error e => .error e
  | .ok m => loadFiles f t (m.paths directory)

/-- The documents of a file or of a schema directory. -/
def loadPath (f : Format) (t : FileTree) (path : String) : Except LoadError (List Document) :=
  if t.isDirectory path then loadDirectory f t path else loadFile f t path

/-- A source that has to be fetched. -/
def isRemote (source : String) : Bool :=
  "http://".toList.isPrefixOf source.toList || "https://".toList.isPrefixOf source.toList

/-- The documents of a schema. -/
def loadSchema (f : Format) (t : FileTree) (source : String) :
    Except LoadError (List Document) :=
  if isRemote source then .error (.remote source) else loadPath f t source

end RecordSchema
