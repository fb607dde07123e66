/-
Flow events: one entry in the log for every message in which a flow engaged. They have a target of
their own, so that a filter can tell them from everything else.
-/
import Dialogue.Logging.Filter
import Dialogue.Message
import Dialogue.Run.Report

namespace Dialogue

/-- What became of a message in a flow, and whose message it was. -/
structure FlowEvent where
  report : Report
  tenantId : String
  userId : String
deriving DecidableEq, Repr

namespace FlowEvent

/-- The event of a report. A flow that did not engage has none. -/
def ofReport? (m : Message) (r : Report) : Option FlowEvent :=
  if r.engaged then some ⟨r, m.tenantId, m.userId⟩ else none

/-- The target of flow events. -/
def target : String := "flow_event"

/-- The fields of an event. -/
def fields (e : FlowEvent) : List (String × Json) :=
  [("flow_id", .text e.report.flowId), ("tenant_id", .text e.tenantId),
    ("outcome", .text e.report.outcome.label), ("resumed", .bool e.report.resumed),
    ("nodes", .ofNat e.report.records.length), ("replies", .ofNat e.report.replies),
    ("elapsed_ms", .ofNat e.report.elapsedMs)]

/-- What a filter is asked about an event. -/
def point (e : FlowEvent) : LogPoint where
  target := target
  level := .info
  fields := e.fields.map (·.1)

/-- The pieces of work during which an event is logged: that on the message, and within it that on
the flow. -/
def spans (e : FlowEvent) : List LogSpan :=
  let sender := [("tenant_id", e.tenantId), ("user_id", e.userId)]
  [⟨"convoflow::flow::manager", "process_message", sender⟩,
    ⟨"convoflow::engine", "execute_flow", ("flow_id", e.report.flowId) :: sender⟩]

/-- Whether a filter lets an event through. -/
def passes (e : FlowEvent) (f : LogFilter) : Bool :=
  f.allows e.spans e.point

/-- An event as a value, with the time of the entry. -/
def toJson (e : FlowEvent) (now : Instant) : Json :=
  .object [("timestamp", now.toJson), ("level", .text e.point.level.name.toUpper),
    ("fields", .object e.fields), ("target", .text target)]

end FlowEvent

end Dialogue
