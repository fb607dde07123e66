/-
The desk at which messages are answered one after another: a registry of flows and a store of
suspensions. Flows come and go between messages, and every message is answered in full before the
next one is taken.
-/
import Dialogue.Routing.Route

namespace Dialogue

/-- A message as it comes to the desk, with those who take part in answering it. -/
structure Visit where
  context : RunContext
  partners : Partners

/-- The key under which the suspension of the visit's sender is kept. -/
def Visit.key (v : Visit) : String :=
  storeKey v.context.message.tenantId v.context.message.userId

/-- What came of a message: the report of the flow that engaged, if one did, and what was seen of
its handling. -/
structure Exchange where
  report : Option Report := none
  log : Log := {}
deriving DecidableEq, Repr

/-- Routes a visit among the flows of a registry. -/
def Visit.process (v : Visit) (r : Registry) (s : SuspensionStore) : Exchange × SuspensionStore :=
  let (report, w) := (r.process v.context).run v.partners { store := s }
  (⟨report, w.log⟩, w.store)

/-- Hands a visit to one flow. -/
def Visit.receive (v : Visit) (f : Flow) (s : SuspensionStore) : Exchange × SuspensionStore :=
  let (report, w) := (f.receive v.context).run v.partners { store := s }
  (⟨some report, w.log⟩, w.store)

/-- A registry and a store. -/
structure Desk where
  registry : Registry := {}
  store : SuspensionStore := {}
deriving DecidableEq, Repr

namespace Desk

/-- What happens at a desk. -/
inductive Event where
  | register (f : Flow)
  | remove (id : String)
  /-- A message is routed among the flows that are registered. -/
  | message (v : Visit)
  /-- A message is handed to one flow, whether or not that flow is registered. -/
  | execute (f : Flow) (v : Visit)

/-- Deals with one event. Nothing is said when flows come and go. -/
def handle (d : Desk) : Event → Exchange × Desk
  | .register f => ({}, { d with registry := d.registry.register f })
  | .remove id => ({}, { d with registry := d.registry.remove id })
  | .message v =>
    let (x, store) := v.process d.registry d.store
    (x, { d with store })
  | .execute f v =>
    let (x, store) := v.receive f d.store
    (x, { d with store })

/-- Deals with events one after another. -/
def run (d : Desk) : List Event → List Exchange × Desk
  | [] => ([], d)
  | e :: es =>
    let (x, d) := d.handle e
    let (xs, d) := d.run es
    (x :: xs, d)

end Desk

end Dialogue
