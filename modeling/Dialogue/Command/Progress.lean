/-
Commands at work. A command prints lines and changes files; it ends at once, or it is a simulation,
which goes on with every line of its input.
-/
import Dialogue.Command.Check
import Dialogue.Command.Simulation
import Dialogue.Flow.Schema
import Dialogue.Logging.Setup
import Dialogue.Settings.Dotenv

namespace Dialogue

/-- Why a command fails. -/
inductive CommandError where
  | logging (error : LoggingError)
  | settings (error : SettingsError)
  | simulation (error : SimulationError)
  | check (error : CheckError)
  | schema (error : Schema.WriteError)
deriving DecidableEq, Repr

/-- The wording of an error. -/
def CommandError.message : CommandError → String
  | .logging e => e.message
  | .settings e => e.message
  | .simulation e => e.message
  | .check e => e.message
  | .schema e => e.message

/-- How things stand with a command. -/
inductive CommandState where
  | finished
  | failed (error : CommandError)
  /-- It goes on with the next line of its input. -/
  | waiting (simulation : Simulation)

/-- A command at work. -/
structure Progress where
  files : FileTree
  /-- The lines printed so far. -/
  output : List String := []
  state : CommandState := .finished
  /-- Logging, if it was set up. -/
  logging : Option Logging := none

/-- What a command finds around it. -/
structure Surroundings where
  files : FileTree := {}
  environment : Environment := []
  now : Instant := .epoch
  send : Transport := Ollama.unreachable

namespace Progress

/-- The command fails. -/
def fail (p : Progress) (e : CommandError) : Progress :=
  { p with state := .failed e }

/-- Prints lines. -/
def print (p : Progress) (lines : List String) : Progress :=
  { p with output := p.output ++ lines }

/-- Logs an event, if logging was set up. -/
def log (p : Progress) (now : Instant) (e : FlowEvent) : Progress :=
  match p.logging with
  | some l => { p with files := l.log now e p.files }
  | none => p

/-- Takes one line of input. -/
def take (now : Instant) (p : Progress) (line : String) : Progress :=
  match p.state with
  | .waiting s =>
    let r := s.take now line
    let p := { p with state := .waiting r.next }.print r.output
    match r.event with
    | some e => p.log now e
    | none => p
  | _ => p

/-- Lets time pass. -/
def wait (p : Progress) (millis : Nat) : Progress :=
  match p.state with
  | .waiting s => { p with state := .waiting { s with store := s.store.advance millis } }
  | _ => p

/-- The end of the input. -/
def close (p : Progress) : Progress :=
  match p.state with
  | .waiting _ => { p with state := .finished }
  | _ => p

/-- Takes all the input. -/
def takeAll (now : Instant) (p : Progress) (input : String) : Progress :=
  ((Text.lines input).foldl (take now) p).close

/-- The error with which the command failed. -/
def failure? (p : Progress) : Option CommandError :=
  match p.state with
  | .failed e => some e
  | _ => none

/-- Starts a command. -/
def start (p : Progress) (s : Surroundings) (config : RunSettings) : Command → Progress
  | .simulate o =>
    match Simulation.start s.now p.files config s.send o with
    | .ok simulation => { p with state := .waiting simulation }.print [simulation.greeting]
    | .error e => p.fail (.simulation e)
  | .validate file =>
    match Flow.checkFile s.now p.files file with
    | (lines, .ok ()) => p.print lines
    | (lines, .error e) => (p.print lines).fail (.check e)
  | .schema folder =>
    match Schema.write s.now p.files folder with
    | .ok (path, files) => { p with files }.print ["Schema written to " ++ path]
    | .error e => p.fail (.schema e)

end Progress

namespace Invocation

/-- The look-up of settings. -/
def lookup (i : Invocation) (s : Surroundings) : Lookup :=
  SettingsSource.lookup (.environment i.envFile)
    (Dotenv.openSource s.environment s.files i.envFile).1

/-- The settings of logging, the level on the command line counting first. -/
def logConfig (i : Invocation) (s : Surroundings) : LogSettings :=
  let c := LogSettings.load (i.lookup s)
  { c with level := i.logLevel.getD c.level }

/-- Reads the settings and starts the command. -/
def startFrom (i : Invocation) (s : Surroundings) (p : Progress) : Progress :=
  match RunSettings.load (i.lookup s) with
  | .ok config => p.start s config i.command
  | .error e => p.fail (.settings e)

/-- Starts the command without logging. -/
def start (i : Invocation) (s : Surroundings) : Progress :=
  i.startFrom s { files := s.files }

/-- Sets up logging and starts the command. -/
def startLogging (i : Invocation) (s : Surroundings) : Progress :=
  match Logging.setUp none (i.logConfig s) s.files with
  | (.ok logging, files) => i.startFrom s { files, logging := some logging }
  | (.error e, files) => ({ files : Progress }).fail (.logging e)

end Invocation

end Dialogue
