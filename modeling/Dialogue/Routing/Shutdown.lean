/-
What else happens while messages are answered: flows come and go, and the desk may be shut down. A
shutdown forgets the flows and then the locks, part after part of the table, and does not ask whether
anybody has a handle of a lock.
-/
import Dialogue.Routing.Traffic

namespace Dialogue

/-- What may happen next. -/
inductive Act (n : Nat) where
  /-- A message takes its next step. -/
  | advance (i : Fin n)
  | register (f : Flow)
  | remove (id : String)
  /-- A shutdown forgets the flows. -/
  | forgetFlows
  /-- A shutdown forgets the locks in a part of the table. -/
  | forgetLocks (part : String → Bool)

namespace Traffic

variable {n : Nat}

/-- What becomes of the desk, if this can happen next. -/
def act (t : Traffic n) : Act n → Option (Traffic n)
  | .advance i => t.advance i
  | .register f => some { t with registry := t.registry.register f }
  | .remove id => some { t with registry := t.registry.remove id }
  | .forgetFlows => some { t with registry := t.registry.clear }
  | .forgetLocks part => some { t with locks := t.locks.filter fun e => !part e.1 }

/-- What becomes of the desk when one thing happens after another. -/
def perform (t : Traffic n) : List (Act n) → Option (Traffic n)
  | [] => some t
  | a :: acts =>
    match t.act a with
    | some t => t.perform acts
    | none => none

end Traffic

end Dialogue
