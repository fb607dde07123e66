/-
Settings of runs and of logging from their sources. A value that makes no sense is refused; the
settings are looked at in a fixed order, and the first refusal counts.
-/
import Dialogue.Number.Basic
import Dialogue.Settings.Run
import Dialogue.Settings.Source
import Dialogue.Text.Basic

namespace Dialogue

/-- The names of settings. -/
inductive SettingsKey where
  | suspensionTtl
  | premiumTiers
  | redisUrl
  | ollamaUrl
  | ollamaModel
  | logLevel
  | logFolder
deriving DecidableEq, Repr

/-- All settings. -/
def SettingsKey.all : List SettingsKey :=
  [.suspensionTtl, .premiumTiers, .redisUrl, .ollamaUrl, .ollamaModel, .logLevel, .logFolder]

/-- The variable that holds a setting. -/
def SettingsKey.name : SettingsKey → String
  | .suspensionTtl => "FLOW_SUSPENSION_TTL_SECS"
  | .premiumTiers => "FLOW_PREMIUM_TIERS"
  | .redisUrl => "REDIS_URL"
  | .ollamaUrl => "OLLAMA_URL"
  | .ollamaModel => "OLLAMA_MODEL"
  | .logLevel => "LOG_LEVEL"
  | .logFolder => "LOG_DIR"

/-- A look-up of settings. -/
abbrev Lookup := SettingsKey → Option String

/-- The look-up in a source. -/
def SettingsSource.lookup (s : SettingsSource) (env : Environment) : Lookup :=
  fun key => s.value? env key.name

/-- A positive number of 64 bits in decimal, with or without a plus sign. -/
def readSeconds? (s : String) : Option Nat :=
  let ds := match s.toList with
    | '+' :: ds => ds
    | ds => ds
  if ds.isEmpty ∨ !ds.all Char.isDigit then none
  else
    let n := ds.foldl (fun n d => 10 * n + (d.toNat - '0'.toNat)) 0
    if 0 < n ∧ n < Number.wordLimit then some n else none

namespace RunSettings

/-- Refuses the value of a setting. -/
def refuse {α : Type} (key : SettingsKey) (value : String) : Except SettingsError α :=
  .error (.invalidValue key.name value)

/-- The settings of runs. -/
def load (lookup : Lookup) : Except SettingsError RunSettings := do
  let c : RunSettings := {}
  let c ← match lookup .suspensionTtl with
    | some s =>
      match readSeconds? s with
      | some n => pure (c.withLifetime (1000 * n))
      | none => refuse .suspensionTtl s
    | none => pure c
  let c := match lookup .premiumTiers with
    | some s => c.withTiers (Text.pieces ',' s)
    | none => c
  let c ← match lookup .ollamaUrl with
    | some s =>
      match Url.parse? s with
      | some u => pure { c with ollamaUrl := some u }
      | none => refuse .ollamaUrl s
    | none => pure c
  return { c with redisUrl := lookup .redisUrl, ollamaModel := lookup .ollamaModel }

end RunSettings

/-- The settings of logging. -/
structure LogSettings where
  /-- Which events are logged. -/
  level : String := "info"
  /-- The folder for log files; without one, logs go to the terminal. -/
  folder : Option String := none
deriving DecidableEq, Repr

/-- The settings of logging. -/
def LogSettings.load (lookup : Lookup) : LogSettings where
  level := (lookup .logLevel).getD "info"
  folder := lookup .logFolder

end Dialogue
