/-
The command line. Options that all commands share may stand in front of the name of the command or
behind it; what a command itself takes stands behind its name. An option that takes a value has it
behind an equals sign or in the next word. Words are taken one after the other, and a parameter is
entered only when something follows it, so that an unknown word is refused before a bad value in
front of it is.
-/
namespace Dialogue

/-! ## Commands -/

/-- What a simulation is to do. -/
structure SimulateOptions where
  /-- A flow file, or a folder with flow files. -/
  flow : String
  /-- The tenant whose flows run, unless it is that of the first flow. -/
  tenant : Option String := none
  user : String := "simulator"
  planTier : Option String := none
  tags : List String := []
  /-- Whether a server answers for the `ai` and `ai_router` nodes. -/
  ollama : Bool := false
deriving DecidableEq, Repr

/-- The commands. -/
inductive Command where
  | simulate (options : SimulateOptions)
  | validate (file : String)
  | schema (folder : String)
deriving DecidableEq, Repr

/-- A command together with the options that all commands share. -/
structure Invocation where
  envFile : Option String := none
  logLevel : Option String := none
  command : Command
deriving DecidableEq, Repr

/-- What a command line that leads to no command comes to. -/
inductive Usage where
  | help
  | version
  /-- There was nothing at all, which calls for help too. -/
  | nothing
  | noCommand
  | unknownCommand
  | missingArgument
  | unknownArgument
  /-- Something was given twice. -/
  | repeated
  /-- A value is missing or empty. -/
  | badValue
  /-- A value was given to something that takes none. -/
  | needlessValue
deriving DecidableEq, Repr

/-- The exit status of the program. Asking for help or for the version is no error. -/
def Usage.status : Usage → Nat
  | .help | .version => 0
  | _ => 2

/-- What is said of a command line that leads to no command. -/
def Usage.message : Usage → String
  | .help | .version => ""
  | .nothing | .noCommand => "a command is missing"
  | .unknownCommand => "there is no such command"
  | .missingArgument => "an argument is missing"
  | .unknownArgument => "unexpected argument"
  | .repeated => "an argument was given twice"
  | .badValue => "a value is missing"
  | .needlessValue => "a value was given where none is taken"

/-- What is printed for the version. -/
def versionText : String := "convoflow 0.2.0"

/-- What is printed for help. -/
def helpText : List String :=
  ["Run conversational flows: trigger, branch, ask and resume", "",
    "Usage: convoflow [--env-file <path>] [--log-level <level>] <command>", "",
    "Commands:",
    "  simulate --flow <path>  Chat with flows on stdin/stdout",
    "    [--tenant <id>] [--user <id>] [--plan-tier <tier>] [--tag <tag>]... [--ollama]",
    "  validate <file>         Check a flow file for structural problems",
    "  schema [--out <folder>] Emit JSON-Schema for flow files"]

/-- The lines that are printed. Those of an error are no output of the program. -/
def Usage.output : Usage → List String
  | .help => helpText
  | .version => [versionText]
  | _ => []

namespace CommandLine

/-! ## Parameters -/

/-- What can be given on the command line. -/
inductive Parameter where
  | envFile
  | logLevel
  | flow
  | tenant
  | user
  | planTier
  | tag
  | ollama
  | out
  | file
deriving DecidableEq, Repr

/-- The kinds of parameters. -/
inductive ParameterKind where
  /-- It is there or not. -/
  | flag
  | text
  /-- Texts, one each time. -/
  | texts
  /-- A path, which must not be empty. -/
  | path
deriving DecidableEq, Repr

namespace Parameter

/-- The kind of a parameter. -/
def kind : Parameter → ParameterKind
  | .envFile | .flow | .out | .file => .path
  | .logLevel | .tenant | .user | .planTier => .text
  | .tag => .texts
  | .ollama => .flag

/-- The name of an option, without its dashes. -/
def name : Parameter → String
  | .envFile => "env-file"
  | .logLevel => "log-level"
  | .flow => "flow"
  | .tenant => "tenant"
  | .user => "user"
  | .planTier => "plan-tier"
  | .tag => "tag"
  | .ollama => "ollama"
  | .out => "out"
  | .file => "file"

end Parameter

/-- The parts of the command line: in front of the name of the command, or behind a certain one. -/
inductive Part where
  | front
  | simulate
  | validate
  | schema
deriving DecidableEq, Repr

namespace Part

/-- The part behind the name of a command. -/
def ofName? (word : String) : Option Part :=
  if word = "simulate" then some .simulate
  else if word = "validate" then some .validate
  else if word = "schema" then some .schema
  else none

/-- The options that all commands share. -/
def shared : List Parameter := [.envFile, .logLevel]

/-- The options of a part. -/
def options : Part → List Parameter
  | .front | .validate => shared
  | .simulate => [.flow, .tenant, .user, .planTier, .tag, .ollama] ++ shared
  | .schema => .out :: shared

/-- What a plain word stands for. -/
def plain? : Part → Option Parameter
  | .validate => some .file
  | _ => none

/-- What must be given. -/
def required : Part → List Parameter
  | .simulate => [.flow]
  | .validate => [.file]
  | _ => []

end Part

/-- Whether a word is the name of a command, the one for help included. -/
def isCommandName (word : String) : Bool :=
  word == "help" || (Part.ofName? word).isSome

/-! ## Words -/

/-- The forms of words. -/
inductive Word where
  /-- Two dashes alone: only plain words follow. -/
  | dashes
  | option (name : String) (value : Option String)
  /-- A dash and characters; the first of them decides. -/
  | short (c : Char)
  | plain (word : String)
deriving DecidableEq, Repr

/-- The name of an option, and the value behind an equals sign. -/
def Word.ofOption (cs : List Char) : Word :=
  let name := cs.takeWhile (· ≠ '=')
  let value := match cs.drop name.length with
    | _ :: value => some (String.ofList value)
    | [] => none
  .option (String.ofList name) value

/-- The form of a word. -/
def Word.ofText (s : String) : Word :=
  match s.toList with
  | ['-', '-'] => .dashes
  | '-' :: '-' :: cs => .ofOption cs
  | '-' :: c :: _ => .short c
  | _ => .plain s

/-! ## Reading -/

/-- What was read of a part. -/
structure Reading where
  part : Part
  given : List (Parameter × String) := []
  /-- The parameter that was read last and is not entered yet; it may wait for its value. -/
  pending : Option (Parameter × Option String) := none
  /-- Whether only plain words follow. -/
  onlyPlain : Bool := false
deriving DecidableEq, Repr

namespace Reading

/-- The value of a parameter. -/
def value? (r : Reading) (p : Parameter) : Option String :=
  r.given.lookup p

/-- Whether a parameter was entered. -/
def has (r : Reading) (p : Parameter) : Bool :=
  (r.value? p).isSome

/-- Enters a parameter. -/
def enter (r : Reading) (p : Parameter) (value : String) : Except Usage Reading :=
  if p.kind ≠ .texts ∧ r.has p then .error .repeated
  else if p.kind = .path ∧ value.isEmpty then .error .badValue
  else .ok { r with given := r.given ++ [(p, value)] }

/-- Enters the parameter that was read last. -/
def settle (r : Reading) : Except Usage Reading :=
  match r.pending with
  | none => .ok r
  | some (_, none) => .error .badValue
  | some (p, some value) => { r with pending := none }.enter p value

/-- Whether the parameter that was read last waits for its value. -/
def awaitsValue (r : Reading) : Bool :=
  r.pending.any fun p => p.2.isNone

/-- Answers a request for help or for the version. -/
def asked (r : Reading) (answer : Usage) (value : Option String) : Except Usage Reading := do
  if value.isSome then .error .needlessValue
  let _ ← r.settle
  .error answer

/-- Takes an option. -/
def takeOption (r : Reading) (name : String) (value : Option String) : Except Usage Reading :=
  match r.part.options.find? (·.name == name) with
  | some p =>
    match p.kind, value with
    | .flag, some _ => .error .needlessValue
    | .flag, none => do (← r.settle).enter p ""
    | _, some v => do (← r.settle).enter p v
    | _, none => do return { ← r.settle with pending := some (p, none) }
  | none =>
    if name = "help" then r.asked .help value
    else if name = "version" ∧ r.part = .front then r.asked .version value
    else .error .unknownArgument

/-- Takes a word behind a single dash. -/
def takeShort (r : Reading) (c : Char) : Except Usage Reading :=
  if c = 'h' then r.asked .help none
  else if c = 'V' ∧ r.part = .front then r.asked .version none
  else .error .unknownArgument

/-- What is said of a plain word that is not expected. -/
def unexpected (r : Reading) (word : String) : Usage :=
  if r.part ≠ .front ∨ (r.onlyPlain ∧ isCommandName word) then .unknownArgument
  else .unknownCommand

/-- Whether a parameter was read, entered or not. -/
def seen (r : Reading) (p : Parameter) : Bool :=
  r.has p || r.pending.any fun q => q.1 == p

/-- Takes a plain word that is no value of an option. -/
def takePlain (r : Reading) (word : String) : Except Usage Reading :=
  match r.part.plain?.filter fun p => !r.seen p with
  | some p => do return { ← r.settle with pending := some (p, some word) }
  | none => .error (r.unexpected word)

/-- Takes a word. -/
def take (r : Reading) (word : String) : Except Usage Reading :=
  if r.onlyPlain then r.takePlain word
  else
    match Word.ofText word with
    | .dashes => .ok { r with onlyPlain := true }
    | .option name value => r.takeOption name value
    | .short c => r.takeShort c
    | .plain word =>
      match r.pending with
      | some (p, none) => .ok { r with pending := some (p, some word) }
      | _ => r.takePlain word

/-- The end of a part: everything is entered, and nothing is missing. -/
def finish (r : Reading) : Except Usage Reading := do
  let r ← r.settle
  if r.part.required.all r.has then .ok r else .error .missingArgument

/-- The command of a part. -/
def command? (r : Reading) : Option Command :=
  match r.part with
  | .front => none
  | .simulate => do
    let flow ← r.value? .flow
    return .simulate {
      flow
      tenant := r.value? .tenant
      user := (r.value? .user).getD "simulator"
      planTier := r.value? .planTier
      tags := (r.given.filter (·.1 == .tag)).map (·.2)
      ollama := r.has .ollama }
  | .validate => (r.value? .file).map .validate
  | .schema => some (.schema ((r.value? .out).getD "schemas"))

end Reading

/-- What asking for help about a command comes to. -/
def helpAbout : List String → Usage
  | [] => .help
  | [word] => if isCommandName word then .help else .unknownCommand
  | _ => .unknownCommand

/-- Puts the two parts of a command line together. What is given behind the name of the command
counts before what is given in front of it. -/
def join (front behind : Reading) : Except Usage Invocation :=
  let value? (p : Parameter) : Option String := (behind.value? p).or (front.value? p)
  match behind.command? with
  | some command => .ok ⟨value? .envFile, value? .logLevel, command⟩
  | none => .error .missingArgument

/-- Reads words up to the name of the command, and then what follows it. -/
def readFrom (r : Reading) : List String → Except Usage Invocation
  | [] => do
    let r ← r.settle
    .error (if r.given.isEmpty then .nothing else .noCommand)
  | word :: words =>
    if r.onlyPlain ∨ r.awaitsValue ∨ !isCommandName word then do
      readFrom (← r.take word) words
    else
      match Part.ofName? word with
      | none => .error (helpAbout words)
      | some part => do
        let behind ← (← words.foldlM Reading.take { part }).finish
        join (← r.settle) behind

/-- Reads a command line. -/
def read (words : List String) : Except Usage Invocation :=
  readFrom { part := .front } words

end CommandLine

end Dialogue
