/-
Setting up logging, which is done once. With a folder, flow events are written to a file in it, one
on a line and a new file for every day.
-/
import Dialogue.Files.Tree
import Dialogue.Json.Printer
import Dialogue.Logging.FlowEvent
import Dialogue.Settings.Load

namespace Dialogue

/-- Why logging was not set up. -/
inductive LoggingError where
  | badLevel (level : String)
  | noFolder (folder : String)
  /-- It had been set up before. -/
  | repeated
deriving DecidableEq, Repr

/-- The wording of an error. -/
def LoggingError.message : LoggingError → String
  | .badLevel level => "invalid log level " ++ ticked level
  | .noFolder folder => "could not create log dir " ++ folder
  | .repeated => "tracing already initialised"

/-- Logging that was set up. -/
structure Logging where
  filter : LogFilter
  /-- The folder for log files; without one, logs go to the terminal. -/
  folder : Option String := none
deriving DecidableEq, Repr

namespace Logging

/-- The files with the folder for log files. -/
def makeFolder (c : LogSettings) (t : FileTree) : Except LoggingError FileTree :=
  match c.folder with
  | some folder =>
    match t.makeFolder folder with
    | .ok t => .ok t
    | .error _ => .error (.noFolder folder)
  | none => .ok t

/-- Sets up logging, given what was set up before. The filter is read first, and the folder is made
even if logging had been set up. -/
def setUp (before : Option Logging) (c : LogSettings) (t : FileTree) :
    Except LoggingError Logging × FileTree :=
  match LogFilter.ofText? c.level with
  | none => (.error (.badLevel c.level), t)
  | some filter =>
    match makeFolder c t with
    | .error e => (.error e, t)
    | .ok t =>
      match before with
      | some _ => (.error .repeated, t)
      | none => (.ok ⟨filter, c.folder⟩, t)

/-- The beginning of the names of files with flow events. -/
def eventFile : String := "convoflow-events.json"

/-- The file for the flow events of a day. -/
def eventPath (folder : String) (now : Instant) : String :=
  joinPath folder (eventFile ++ "." ++ String.ofList (Instant.dateChars now.date))

/-- The files after an event was logged. -/
def log (l : Logging) (now : Instant) (e : FlowEvent) (t : FileTree) : FileTree :=
  match l.folder with
  | some folder =>
    if e.passes l.filter then
      ((t.extend (eventPath folder now) ((e.toJson now).compact ++ "\n")).toOption).getD t
    else t
  | none => t

end Logging

end Dialogue
