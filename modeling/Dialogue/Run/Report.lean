/-
Reports: what became of one message in one flow, with a record for every node whose handler ran.
-/
import Dialogue.Flow.Decode
import Dialogue.Flow.Encode

namespace Dialogue

/-- How a run ended. -/
inductive Outcome where
  /-- No run was resumed and no trigger matched. -/
  | notEngaged
  | completed
  /-- Parked at a node that waits for input. -/
  | suspended (nodeId : String)
  /-- Broken off for an error. -/
  | failed (reason : String)
deriving DecidableEq, Repr

/-- The name of an outcome. -/
def Outcome.label : Outcome → String
  | .notEngaged => "not_engaged"
  | .completed => "completed"
  | .suspended _ => "suspended"
  | .failed _ => "failed"

/-- How the handler of a node ended. -/
inductive RecordStatus where
  | continued
  | suspended
  | failed
deriving DecidableEq, Repr

/-- The name of a status. -/
def RecordStatus.name : RecordStatus → String
  | .continued => "continued"
  | .suspended => "suspended"
  | .failed => "failed"

/-- One handler that ran. -/
structure RunRecord where
  nodeId : String
  nodeType : NodeType
  startedAt : Instant
  finishedAt : Instant
  status : RecordStatus
deriving DecidableEq, Repr

/-- What became of a message in a flow. -/
structure Report where
  flowId : String
  outcome : Outcome
  /-- Whether a parked run was continued. -/
  resumed : Bool
  records : List RunRecord
  /-- The number of replies that were delivered. -/
  replies : Nat
  elapsedMs : Nat
deriving DecidableEq, Repr

namespace Report

/-- The report of a flow that had nothing to do with the message. -/
def notEngaged (flowId : String) (elapsedMs : Nat) : Report where
  flowId := flowId
  outcome := .notEngaged
  resumed := false
  records := []
  replies := 0
  elapsedMs := elapsedMs

/-- Whether a run took place and no reply failed. -/
def engaged (r : Report) : Bool :=
  match r.outcome with
  | .completed => true
  | .suspended _ => true
  | _ => false

/-- The ids of the nodes in the order in which their handlers ran. -/
def visited (r : Report) : List String :=
  r.records.map (·.nodeId)

end Report

/-! ## As values -/

/-- An outcome as a value: its name under `status`, next to what it carries. -/
def Outcome.toJson (o : Outcome) : Json :=
  .object (("status", .text o.label) ::
    match o with
    | .suspended nodeId => [("node_id", .text nodeId)]
    | .failed reason => [("reason", .text reason)]
    | _ => [])

/-- The outcomes, before it is known what they carry. -/
inductive OutcomeTag where
  | notEngaged
  | completed
  | suspended
  | failed
deriving DecidableEq, Repr

namespace OutcomeTag

/-- The tags by their names. -/
def named : List (String × OutcomeTag) :=
  [("not_engaged", notEngaged), ("completed", completed), ("suspended", suspended),
    ("failed", failed)]

/-- A tag, which must be a text. -/
def decode : Doc → Decoded OutcomeTag
  | .text s => Decoder.named named s
  | d => d.unexpected "variant identifier"

/-- An outcome without anything to carry, from what was given besides the tag. -/
def bare (o : Outcome) : Doc → Decoded Outcome
  | .list [] _ => .ok o
  | .list items _ => mismatch (.wrongLength items.length "0 elements in sequence")
  | _ => .ok o

/-- An outcome that carries a text, from what was given besides the tag. -/
def carrying (make : String → Outcome) (variant field : String) (d : Doc) : Decoded Outcome :=
  match d with
  | .list (_ :: b :: rest) _ =>
    mismatch (.wrongLength (b :: rest).length.succ "1 element in sequence")
  | d =>
    ((Shape.build make).required field .text).decoder
      ("struct variant ExecutionOutcome::" ++ variant) .value d

/-- The outcome of a tag and of what was given besides it. -/
def complete (t : OutcomeTag) (rest : Doc) : Decoded Outcome :=
  match t with
  | notEngaged => bare .notEngaged rest
  | completed => bare .completed rest
  | suspended => carrying .suspended "Suspended" "node_id" rest
  | failed => carrying .failed "Failed" "reason" rest

/-- Splits members into the tag and the others. Every member is looked at, whatever its name. -/
def split : List (Doc × Doc) → Option Fault → Option OutcomeTag → List (Doc × Doc) →
    Decoded (Option OutcomeTag × List (Doc × Doc))
  | [], ending, tag, others => (unlessFault ending).map fun _ => (tag, others.reverse)
  | (k, v) :: rest, ending, tag, others => do
    let name ← k.toText
    if name = "status" then
      match tag with
      | some _ => mismatch (.repeatedField "status")
      | none => split rest ending (some (← decode v)) others
    else
      let _ ← v.toJson
      split rest ending tag ((k, v) :: others)

end OutcomeTag

/-- Outcomes from documents: a record with a `status`, or a list that starts with it. -/
def Outcome.decode : Decoder Outcome := fun _ d =>
  match d with
  | .record members ending => do
    let (tag, others) ← OutcomeTag.split members ending none []
    match tag with
    | some t => t.complete (.record others none)
    | none => mismatch (.missingField "status")
  | .list [] ending => do
    unlessFault ending
    mismatch (.missingField "status")
  | .list (first :: rest) ending => do
    let t ← OutcomeTag.decode first
    let _ ← Doc.toItems rest ending
    t.complete (.list rest none)
  | d => d.unexpected "internally tagged enum ExecutionOutcome"

/-- Statuses from documents. -/
def RecordStatus.decode : Decoder RecordStatus :=
  .choice [("continued", .continued), ("suspended", .suspended), ("failed", .failed)]

/-- A record as a value. -/
def RunRecord.toJson (r : RunRecord) : Json :=
  .object [("nodeId", .text r.nodeId), ("nodeType", .text r.nodeType.name),
    ("startedAt", r.startedAt.toJson), ("finishedAt", r.finishedAt.toJson),
    ("status", .text r.status.name)]

/-- Records from documents. -/
def RunRecord.decode : Decoder RunRecord :=
  (Shape.build RunRecord.mk
    |>.required "nodeId" .text
    |>.required "nodeType" NodeType.decode
    |>.required "startedAt" .instant
    |>.required "finishedAt" .instant
    |>.required "status" RecordStatus.decode).decoder "struct NodeRecord"

/-- A report as a value. -/
def Report.toJson (r : Report) : Json :=
  .object [("flowId", .text r.flowId), ("outcome", r.outcome.toJson),
    ("resumed", .bool r.resumed), ("records", .array (r.records.map (·.toJson))),
    ("replies", .ofNat r.replies), ("elapsedMs", .ofNat r.elapsedMs)]

/-- Reports from documents. -/
def Report.decode : Decoder Report :=
  (Shape.build Report.mk
    |>.required "flowId" .text
    |>.required "outcome" Outcome.decode
    |>.required "resumed" .flag
    |>.required "records" (.list RunRecord.decode)
    |>.required "replies" (.count "usize")
    |>.required "elapsedMs" (.count "u64")).decoder "struct ExecutionReport"

end Dialogue
