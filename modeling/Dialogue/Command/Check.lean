/-
Checking a flow file: its issues, one on a line, and a verdict.
-/
import Dialogue.Flow.File
import Dialogue.Validation.Basic

namespace Dialogue

/-- Why a check fails. -/
inductive CheckError where
  | unloadable (error : FlowFileError)
  /-- The flow has that many severe issues. -/
  | faulty (flowId : String) (errors : Nat)
deriving DecidableEq, Repr

/-- The wording of an error. -/
def CheckError.message : CheckError → String
  | .unloadable e => e.message
  | .faulty flowId errors => "flow " ++ ticked flowId ++ " has " ++ toString errors ++ " error(s)"

namespace Flow

/-- The line for an issue. -/
def issueLine (i : Issue) : String :=
  i.severity.name ++ ": " ++ i.message

/-- What is said of a flow without severe issues. -/
def approval (f : Flow) (issues : List Issue) : String :=
  if issues.isEmpty then "✅ Flow " ++ ticked f.id ++ " is valid."
  else
    "Flow " ++ ticked f.id ++ " is usable with " ++ toString (warningsOf issues).length ++
    " warning(s)."

/-- The lines for a flow, and whether it may be used. -/
def check (f : Flow) : List String × Except CheckError Unit :=
  let issues := f.validate
  let errors := errorsOf issues
  if errors.isEmpty then (issues.map issueLine ++ [f.approval issues], .ok ())
  else (issues.map issueLine, .error (.faulty f.id errors.length))

/-- Checks the flow of a file. -/
def checkFile (now : Instant) (t : FileTree) (path : String) :
    List String × Except CheckError Unit :=
  match load now t path with
  | .ok f => f.check
  | .error e => ([], .error (.unloadable e))

end Flow

end Dialogue
