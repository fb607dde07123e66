/-
Suspensions: where a parked run waits for the next message of its sender.
-/
import Dialogue.Document.Record
import Dialogue.Flow.Encode

namespace Dialogue

/-- The place at which a run is parked. -/
structure Suspension where
  flowId : String
  /-- The node that waits for input. -/
  currentNodeId : String
  tenantId : String
  userId : String
  suspendedAt : Instant
deriving DecidableEq, Repr

/-- The key under which the suspension of a sender is kept. -/
def storeKey (tenantId userId : String) : String :=
  "flow_state:" ++ tenantId ++ ":" ++ userId

/-- A suspension as a value. -/
def Suspension.toJson (s : Suspension) : Json :=
  .object [("flowId", .text s.flowId), ("currentNodeId", .text s.currentNodeId),
    ("tenantId", .text s.tenantId), ("userId", .text s.userId),
    ("suspendedAt", s.suspendedAt.toJson)]

/-- Suspensions from documents; `now` is the time of one that gives none. -/
def Suspension.decode (now : Instant) : Decoder Suspension :=
  (Shape.build Suspension.mk
    |>.required "flowId" .text
    |>.required "currentNodeId" .text
    |>.required "tenantId" .text
    |>.required "userId" .text
    |>.withDefault "suspendedAt" .instant now).decoder "struct ExecutionState"

end Dialogue
