/-
One message in one flow: the run parked in this flow is resumed, or else a matching trigger starts
a run, or else nothing happens.
-/
import Dialogue.Run.Walk

namespace Dialogue

/-- The first trigger whose keyword is the message, compared in normal form; a blank keyword
matches nothing. -/
def Flow.triggerFor (f : Flow) (body : String) : Option Node :=
  let body := Text.normalize body
  f.nodes.find? fun n =>
    match n.role with
    | .trigger keyword =>
      let keyword := Text.normalize keyword
      !keyword.isEmpty && keyword == body
    | _ => false

/-- The node behind which the sender's run goes on, if it is parked in this flow. A suspension
found here is used up, even if its node is gone. -/
def Flow.resumption (f : Flow) (c : RunContext) : Program (Option Node) := do
  let m := c.message
  match ← Program.request (.readState m.tenantId m.userId) with
  | .error e =>
    Program.tolerate (.cacheRead e)
    return none
  | .ok none => return none
  | .ok (some state) =>
    if state.flowId != f.id then return none
    match ← Program.request (.dropState m.tenantId m.userId) with
    | .ok () => pure ()
    | .error e => Program.tolerate (.cacheWrite e)
    match f.node? state.currentNodeId with
    | some n => return some n
    | none =>
      Program.warn (.suspendedNodeGone state.currentNodeId)
      return none

/-- How a walk ended. -/
def Walk.outcome (w : Walk) : Option DeliveryError → Outcome
  | some e => .failed (RunError.reply e).message
  | none =>
    match w.suspendedAt with
    | some id => .suspended id
    | none => .completed

/-- The report of a walk. -/
def Walk.report (w : Walk) (f : Flow) (resumed : Bool) (failure : Option DeliveryError) : Report where
  flowId := f.id
  outcome := w.outcome failure
  resumed := resumed
  records := w.records
  replies := w.replies
  elapsedMs := 0

/-- Handles a message in a flow. -/
def Flow.receive (f : Flow) (c : RunContext) : Program Report := do
  let walkContext : WalkContext := ⟨f, .ofFlow f, c⟩
  match ← f.resumption c with
  | some node => finish true (← walkFromSuspension walkContext node)
  | none =>
    match f.triggerFor c.message.body with
    | some trigger => finish false (← walkFromTrigger walkContext trigger)
    | none => return .notEngaged f.id 0
where
  finish (resumed : Bool) (result : Option DeliveryError × Walk) : Program Report := do
    match result.1 with
    | some e => Program.warn (.runFailed (.reply e))
    | none => pure ()
    return result.2.report f resumed result.1

end Dialogue
