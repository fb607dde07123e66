/-
Where settings come from: the environment of the process, or a table of their own. Copies of a
source of the first kind share the environment; copies of the second kind go separate ways.
-/
import Dialogue.Document.Error
import Dialogue.Table
import Dialogue.Text.Basic

namespace Dialogue

/-- Variables and their values. -/
abbrev Environment := Table String

/-- Why a setting is refused. -/
inductive SettingsError where
  | invalidValue (key value : String)
  | backend (reason : String)
deriving DecidableEq, Repr

/-- The wording of an error. -/
def SettingsError.message : SettingsError → String
  | .invalidValue key value => "invalid value " ++ ticked value ++ " for " ++ ticked key
  | .backend reason => reason

/-- A source of settings. -/
inductive SettingsSource where
  /-- The environment, into which a file may have been read. -/
  | environment (file : Option String)
  | table (entries : Table String)
deriving DecidableEq, Repr

namespace SettingsSource

/-- The value of a setting as it stands. -/
def rawValue? (s : SettingsSource) (env : Environment) (key : String) : Option String :=
  match s with
  | .environment _ => env.get? key
  | .table entries => entries.get? key

/-- The value of a setting without blanks around it. A blank value is none. -/
def value? (s : SettingsSource) (env : Environment) (key : String) : Option String :=
  ((s.rawValue? env key).map Text.trim).filter fun v => !v.isEmpty

/-- Whether a variable may have that name. -/
def isVariableName (key : String) : Bool :=
  !key.isEmpty && key.toList.all fun c => c != '=' && c != '\x00'

/-- Gives a setting a value. -/
def set (s : SettingsSource) (env : Environment) (key value : String) :
    Except SettingsError (SettingsSource × Environment) :=
  match s with
  | .environment file =>
    if isVariableName key then .ok (.environment file, env.insert key value)
    else .error (.backend ("invalid variable name " ++ ticked key))
  | .table entries => .ok (.table (entries.insert key value), env)

/-- Removes a setting. -/
def delete (s : SettingsSource) (env : Environment) (key : String) :
    SettingsSource × Environment :=
  match s with
  | .environment file => (.environment file, env.erase key)
  | .table entries => (.table (entries.erase key), env)

/-- What is shown of a source. -/
def describe : SettingsSource → String
  | .environment (some file) => "EnvConfigManager(" ++ file ++ ")"
  | .environment none => "EnvConfigManager"
  | .table entries => "MapConfigManager(" ++ toString entries.length ++ " entries)"

end SettingsSource

end Dialogue
