/-
Routing: which flow gets to see a message. The flow in which the sender is parked comes first; if
there is none, or it does not engage, the first of the tenant's active flows with a matching
trigger does.
-/
import Dialogue.Routing.Registry
import Dialogue.Run.Turn

namespace Dialogue

/-- The first flow with a trigger for the message, run from that trigger. -/
def routeByTrigger (flows : List Flow) (c : RunContext) : Program (Option Report) :=
  match flows.find? fun f => (f.triggerFor c.message.body).isSome with
  | some f => do return some (← f.receive c)
  | none => return none

/-- Gives up a suspension in a flow that is no longer active. -/
def discardSuspension (c : RunContext) (flowId : String) : Program Unit := do
  Program.warn (.suspendedFlowGone flowId)
  match ← Program.request (.dropState c.message.tenantId c.message.userId) with
  | .ok () => return ()
  | .error e => Program.tolerate (.cacheWrite e)

/-- Routes a message among the active flows of its tenant. -/
def route (flows : List Flow) (c : RunContext) : Program (Option Report) := do
  match ← Program.request (.readState c.message.tenantId c.message.userId) with
  | .error e =>
    Program.tolerate (.cacheRead e)
    routeByTrigger flows c
  | .ok none => routeByTrigger flows c
  | .ok (some state) =>
    match flows.find? (·.id == state.flowId) with
    | some f =>
      let report ← f.receive c
      if report.outcome = .notEngaged then routeByTrigger flows c else return some report
    | none =>
      discardSuspension c state.flowId
      routeByTrigger flows c

/-- Handles a message: the report of the flow that engaged, or nothing. -/
def Registry.process (r : Registry) (c : RunContext) : Program (Option Report) :=
  route (r.activeFlows c.message.tenantId) c

end Dialogue
