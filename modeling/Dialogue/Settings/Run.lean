/-
The settings of a run: how long suspensions live, which plans are premium, and where the services
are found.
-/
import Dialogue.Suspension.Store
import Dialogue.Text.Lowercase
import Dialogue.Url.Parser

namespace Dialogue

/-- What runs and services need to know. -/
structure RunSettings where
  /-- The lifetime of a suspension in milliseconds. -/
  suspensionTtl : Nat := SuspensionStore.defaultTtl
  /-- The premium plans, in the form in which plans are compared. -/
  premiumTiers : List String := ["pro", "enterprise"]
  redisUrl : Option String := none
  ollamaUrl : Option Url := none
  ollamaModel : Option String := none
deriving DecidableEq, Repr

namespace RunSettings

/-- The plans in the form in which they are compared, blank ones left out. -/
def normalTiers (tiers : List String) : List String :=
  (tiers.map Text.normalize).filter fun t => !t.isEmpty

/-- The settings with other premium plans. -/
def withTiers (c : RunSettings) (tiers : List String) : RunSettings :=
  { c with premiumTiers := normalTiers tiers }

/-- The settings with another lifetime. -/
def withLifetime (c : RunSettings) (millis : Nat) : RunSettings :=
  { c with suspensionTtl := millis }

/-- Whether a plan is premium. -/
def isPremium (c : RunSettings) (tier : String) : Bool :=
  c.premiumTiers.contains (Text.normalize tier)

end RunSettings

end Dialogue
