/-
Flows from documents. A node is read in two steps: first its id, its type and whatever it has as
data, then the data as the type asks for. Members that no type knows are passed over everywhere,
so the state that an editor keeps in its files does no harm.
-/
import Dialogue.Document.Record
import Dialogue.Document.Value
import Dialogue.Flow.Basic

namespace Dialogue

/-- The types of nodes by their names. -/
def NodeType.decode : Decoder NodeType :=
  .choice (NodeType.all.map fun t => (t.name, t))

/-- A node before its data are looked at. -/
structure NodeForm where
  id : String
  type : NodeType
  data : Json


/-- The fields of a raw node. -/
def NodeForm.shape : Shape NodeForm :=
  Shape.build NodeForm.mk
    |>.required "id" .text
    |>.required "type" NodeType.decode
    |>.withDefault "data" .any .null

/-- Raw nodes from documents. -/
def NodeForm.decode : Decoder NodeForm :=
  NodeForm.shape.decoder "struct RawNode"

/-- A raw node as a value. -/
def NodeForm.toJson (n : NodeForm) : Json :=
  .object [("id", .text n.id), ("type", .text n.type.name), ("data", n.data)]

/-- Conditions from documents. -/
def Condition.decode : Decoder Condition := fun o d =>
  (Decoder.text o d).map .ofName

/-- Router options from documents. -/
def Choice.decode : Decoder Choice :=
  (Shape.build Choice.mk
    |>.withDefault "label" .text ""
    |>.optional "description" .text).decoder "struct RouterOption"

/-- A decoder for data with a single text. -/
def singleText (recordName fieldName : String) : Decoder String :=
  (Shape.build id |>.withDefault fieldName .text "").decoder recordName

/-- The data of a logic node. -/
def Logic.decode : Decoder Logic :=
  (Shape.build Logic.mk
    |>.withDefault "condition" Condition.decode .isPremium
    |>.optional "tag" .text).decoder "struct LogicData"

/-- The data of a router. -/
def Router.decode : Decoder Router :=
  (Shape.build Router.mk
    |>.withDefault "options" (.list Choice.decode) []
    |>.optional "prompt" .text).decoder "struct AiRouterData"

/-- What a node of a type carries, from a data document. -/
def NodeRole.decode (type : NodeType) (d : Doc) : Decoded NodeRole :=
  match type with
  | .trigger => (singleText "struct TriggerData" "keyword" .value d).map .trigger
  | .action => (singleText "struct ActionData" "message" .value d).map .action
  | .logic => (Logic.decode .value d).map .logic
  | .ai => (singleText "struct AiData" "prompt" .value d).map .ai
  | .aiRouter => (Router.decode .value d).map .router
  | .waitForInput => .ok .waitForInput

/-- The data as a document; null stands for no data. -/
def NodeForm.dataDoc (n : NodeForm) : Doc :=
  match n.data with
  | .null => .record [] none
  | j => .ofJson j

/-- The node that a raw node stands for. -/
def NodeForm.toNode (n : NodeForm) : Decoded Node :=
  match NodeRole.decode n.type n.dataDoc with
  | .ok kind => .ok ⟨n.id, kind⟩
  | .error (.mismatch m) => mismatch (.badPayload n.id m)
  | .error (.fault f) => stopAt f

/-- Nodes from documents. -/
def Node.decode : Decoder Node := fun o d =>
  (NodeForm.decode o d).bind NodeForm.toNode

/-- Edges from documents. -/
def Edge.decode : Decoder Edge :=
  (Shape.build Edge.mk
    |>.required "id" .text
    |>.required "source" .text
    |>.required "target" .text
    |>.optional "label" .text
    |>.optional "sourceHandle" .text).decoder "struct Edge"

/-- Flows from documents; `now` is the time of a flow that gives none. -/
def Flow.decode (now : Instant) : Decoder Flow :=
  (Shape.build Flow.mk
    |>.required "id" .text
    |>.required "name" .text
    |>.optional "description" .text
    |>.withDefault "isActive" .flag true
    |>.withDefault "tenantId" .text ""
    |>.required "nodes" (.list Node.decode)
    |>.withDefault "edges" (.list Edge.decode) []
    |>.withDefault "createdAt" .instant now
    |>.withDefault "updatedAt" .instant now).decoder "struct FlowData"

end Dialogue
