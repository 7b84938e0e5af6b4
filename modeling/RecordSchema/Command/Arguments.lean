import RecordSchema.Envelope

/-!
# Command lines

A command line is a verb with its source, and options before or behind the verb. An option has a
long name, a short one or both; short names may stand together behind one dash. The value of an
option follows it, or stands behind an equals sign. Behind `--` everything is an operand. Options
that both the program and its verbs know may be given once on each side of the verb, and the inner
one counts.
-/

namespace RecordSchema.Command

/-- What the program can do with a schema. -/
inductive Verb where
  | check
  | inspect
  | generate
deriving DecidableEq, Repr

/-- The verb of a word. -/
def Verb.ofWord? : String → Option Verb
  | "check" => some check
  | "inspect" => some inspect
  | "gogo" => some generate
  | _ => none

/-- The options. -/
inductive Switch where
  | config
  | bare
  | verbose
  | json
  | link
  | out
  | help
  | version
deriving DecidableEq, Repr

namespace Switch

/-- The option of a long name. -/
def ofLong? : String → Option Switch
  | "config" => some config
  | "bare" => some bare
  | "verbose" => some verbose
  | "json" => some json
  | "link" => some link
  | "out" => some out
  | "help" => some help
  | "version" => some version
  | _ => none

/-- The option of a short name. -/
def ofShort? : Char → Option Switch
  | 'c' => some config
  | 'v' => some verbose
  | 'o' => some out
  | 'h' => some help
  | 'V' => some version
  | _ => none

/-- The option can stand at this place: before any verb, or behind the given one. -/
def fits : Switch → Option Verb → Bool
  | config, _ | bare, _ | verbose, _ | help, _ => true
  | version, verb => verb.isNone
  | json, verb | link, verb => verb = some .inspect
  | out, verb => verb = some .generate

/-- The option has a value, a path. -/
def takesPath : Switch → Bool
  | config | out => true
  | _ => false

/-- The option can be repeated. -/
def isRepeatable : Switch → Bool
  | verbose => true
  | _ => false

end Switch

/-- Why a command line cannot be understood. -/
inductive ArgumentError where
  | unknown (argument : String)
  | repeated (argument : String)
  | missingValue (argument : String)
  | needlessValue (argument : String)
  | missingVerb
  | missingSource
deriving DecidableEq, Repr

/-- The wording of an error. -/
def ArgumentError.message : ArgumentError → String
  | unknown argument => "error: unexpected argument '" ++ argument ++ "' found\n"
  | repeated argument => "error: the argument '" ++ argument ++ "' cannot be used multiple times\n"
  | missingValue argument => "error: a value is required for '" ++ argument ++ "'\n"
  | needlessValue argument => "error: unexpected value for '" ++ argument ++ "' found\n"
  | missingVerb => "error: a command is required\n"
  | missingSource => "error: the following required arguments were not provided:\n  <SOURCE>\n"

/-- What is to be done. -/
inductive Action where
  | check
  | inspect (json link : Bool)
  | generate (out : Option String)
deriving DecidableEq, Repr

/-- A command line that has been understood. -/
structure Request where
  action : Action
  source : String
  format : Format
  /-- the path of the settings -/
  settings : Option String
deriving DecidableEq, Repr

/-- What a command line asks for. -/
inductive Invocation where
  | help
  | version
  | run (request : Request)
deriving DecidableEq, Repr

/-- An option with its value, which is empty if the option has none. -/
abbrev Setting := Switch × String

/-- What has been read of a command line. -/
structure Reading where
  verb : Option Verb
  /-- the options before the verb -/
  outer : List Setting
  /-- the options on the side of the verb that is being read -/
  inner : List Setting
  operands : List String
deriving DecidableEq, Repr

/-- The outcome of a step: the line asks for help or for the version and nothing else counts, or
reading goes on. -/
inductive Progress (α : Type) where
  | done (invocation : Invocation)
  | more (state : α)
deriving DecidableEq, Repr

namespace Reading

/-- Nothing has been read. -/
def start : Reading :=
  ⟨none, [], [], []⟩

/-- Notes an option that was written in some way. -/
def give (r : Reading) (argument : String) (switch : Switch) (value : String) :
    Except ArgumentError Reading :=
  if !switch.isRepeatable && r.inner.any (·.1 = switch) then .error (.repeated argument)
  else if switch.takesPath && value == "" then .error (.missingValue argument)
  else .ok { r with inner := r.inner ++ [(switch, value)] }

/-- Notes an operand. A verb has one. -/
def operand (r : Reading) (argument : String) : Except ArgumentError Reading :=
  if r.verb.isNone || !r.operands.isEmpty then .error (.unknown argument)
  else .ok { r with operands := [argument] }

/-- Notes the verb. -/
def begin (r : Reading) (verb : Verb) : Reading :=
  ⟨some verb, r.inner, [], []⟩

/-- The option of a name, if it can stand here. -/
def known (r : Reading) (argument : String) (switch : Option Switch) :
    Except ArgumentError Switch :=
  match switch with
  | some s => if s.fits r.verb then .ok s else .error (.unknown argument)
  | none => .error (.unknown argument)

/-- Reads an option without a value. -/
def flag (r : Reading) (argument : String) (switch : Switch) :
    Except ArgumentError (Progress Reading) :=
  match switch with
  | .help => .ok (.done .help)
  | .version => .ok (.done .version)
  | switch => (r.give argument switch "").map .more

/-- Reads a long option, behind whose name a value may stand. Where the value has to follow, the
option is answered with the state. -/
def long (r : Reading) (argument name : String) (value : Option String) :
    Except ArgumentError (Progress (Reading × Option Switch)) := do
  let switch ← r.known argument (Switch.ofLong? name)
  match value with
  | some value =>
    if switch.takesPath then return .more (← r.give argument switch value, none)
    else throw (.needlessValue argument)
  | none =>
    if switch.takesPath then return .more (r, some switch)
    else
      match ← r.flag argument switch with
      | .done i => return .done i
      | .more r => return .more (r, none)

/-- Reads short options. What follows one that has a value is its value. -/
def short (r : Reading) (argument : String) :
    List Char → Except ArgumentError (Progress (Reading × Option Switch))
  | [] => .ok (.more (r, none))
  | c :: rest => do
    let switch ← r.known argument (Switch.ofShort? c)
    if switch.takesPath then
      match rest with
      | [] => return .more (r, some switch)
      | '=' :: value => return .more (← r.give argument switch (String.ofList value), none)
      | value => return .more (← r.give argument switch (String.ofList value), none)
    else
      match ← r.flag argument switch with
      | .done i => return .done i
      | .more r => r.short argument rest

/-- Operands up to the end of the line. -/
def rest (r : Reading) : List String → Except ArgumentError Reading
  | [] => .ok r
  | argument :: more => do (← r.operand argument).rest more

/-- The words behind the word for help name at most one command. -/
def helpOn : List String → Except ArgumentError Invocation
  | [] => .ok .help
  | [word] =>
    if (Verb.ofWord? word).isSome || word == "help" then .ok .help else .error (.unknown word)
  | _ :: word :: _ => .error (.unknown word)

end Reading

/-- The ways in which an argument can be read. -/
inductive Argument where
  | escape
  | long (name : String) (value : Option String)
  | short (names : List Char)
  | word
deriving DecidableEq, Repr

/-- A long option ends before its first equals sign. -/
def Argument.ofLong (text : List Char) : Argument :=
  let name := String.ofList (text.takeWhile (· != '='))
  match text.dropWhile (· != '=') with
  | [] => .long name none
  | _ :: value => .long name (some (String.ofList value))

/-- How an argument reads. A dash alone is a word. -/
def Argument.ofString (argument : String) : Argument :=
  match argument.toList with
  | ['-', '-'] => .escape
  | '-' :: '-' :: text => .ofLong text
  | '-' :: c :: text => .short (c :: text)
  | _ => .word

/-- Reads the arguments of a line. An option may be waiting for its value. -/
def readArguments (r : Reading) (waiting : Option Switch) :
    List String → Except ArgumentError (Progress Reading)
  | [] => if waiting.isSome then .error (.missingValue "") else .ok (.more r)
  | argument :: rest =>
    match Argument.ofString argument, waiting with
    | .word, some switch => do readArguments (← r.give argument switch argument) none rest
    | _, some _ => .error (.missingValue argument)
    | .escape, none => (r.rest rest).map .more
    | .long name value, none => do
      match ← r.long argument name value with
      | .done i => return .done i
      | .more (r, waiting) => readArguments r waiting rest
    | .short names, none => do
      match ← r.short argument names with
      | .done i => return .done i
      | .more (r, waiting) => readArguments r waiting rest
    | .word, none =>
      match r.verb, Verb.ofWord? argument with
      | some _, _ => do readArguments (← r.operand argument) none rest
      | none, some verb => readArguments (r.begin verb) none rest
      | none, none =>
        if argument == "help" then (Reading.helpOn rest).map .done else .error (.unknown argument)

namespace Reading

/-- The value of an option that may stand on both sides of the verb. -/
def value? (r : Reading) (switch : Switch) : Option String :=
  (r.inner.lookup switch).or (r.outer.lookup switch)

/-- An option was given. -/
def has (r : Reading) (switch : Switch) : Bool :=
  (r.value? switch).isSome

/-- What a verb is to do. -/
def action (r : Reading) : Verb → Action
  | .check => .check
  | .inspect => .inspect (r.has .json) (r.has .link)
  | .generate => .generate (r.value? .out)

/-- The request of a line that has been read. -/
def request (r : Reading) : Except ArgumentError Request :=
  match r.verb, r.operands with
  | none, _ => .error .missingVerb
  | some _, [] => .error .missingSource
  | some verb, source :: _ =>
    .ok ⟨r.action verb, source, if r.has .bare then .bare else .envelope, r.value? .config⟩

end Reading

/-- What a command line asks for. -/
def Invocation.ofArguments (arguments : List String) : Except ArgumentError Invocation := do
  match ← readArguments .start none arguments with
  | .done i => return i
  | .more r => return .run (← r.request)

end RecordSchema.Command
