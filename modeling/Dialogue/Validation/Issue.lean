/-
Issues: what validation may find in a flow.
-/
import Dialogue.Document.Error
import Dialogue.Json.Basic

namespace Dialogue

/-- How bad an issue is. -/
inductive Severity where
  | error
  | warning
deriving DecidableEq, Repr

/-- The name of a severity. -/
def Severity.name : Severity → String
  | .error => "error"
  | .warning => "warning"

/-- A finding in a flow. -/
inductive Issue where
  | duplicateNodeId (nodeId : String)
  | danglingEdge (edgeId nodeId : String)
  | noTrigger
  | emptyTriggerKeyword (nodeId : String)
  | invalidLogicLabel (edgeId nodeId : String) (label : Option String)
  | unknownRouterLabel (edgeId nodeId : String) (label : Option String)
  | routerWithoutOptions (nodeId : String)
  | cycle (nodeIds : List String)
  | unreachable (nodeId : String)
deriving DecidableEq, Repr

namespace Issue

/-- Flows with an issue of the severe kinds cannot work as they are meant. -/
def severity : Issue → Severity
  | .duplicateNodeId _ => .error
  | .danglingEdge _ _ => .error
  | .noTrigger => .error
  | _ => .warning

/-- The wording of an issue. -/
def message : Issue → String
  | .duplicateNodeId nodeId => "node id " ++ ticked nodeId ++ " is used more than once"
  | .danglingEdge edgeId nodeId =>
    "edge " ++ ticked edgeId ++ " references missing node " ++ ticked nodeId
  | .noTrigger => "flow has no trigger node and can never start"
  | .emptyTriggerKeyword nodeId => "trigger " ++ ticked nodeId ++ " has an empty keyword"
  | .invalidLogicLabel edgeId nodeId label =>
    "edge " ++ ticked edgeId ++ " leaves logic node " ++ ticked nodeId ++ " with label " ++
      Text.quotedOption label ++ ", expected \"true\" or \"false\""
  | .unknownRouterLabel edgeId nodeId label =>
    "edge " ++ ticked edgeId ++ " leaves router " ++ ticked nodeId ++ " with label " ++
      Text.quotedOption label ++ " that is not one of its options"
  | .routerWithoutOptions nodeId => "router " ++ ticked nodeId ++ " has no options"
  | .cycle nodeIds => "nodes " ++ Text.quotedList nodeIds ++ " form a cycle"
  | .unreachable nodeId => "node " ++ ticked nodeId ++ " cannot be reached from any trigger"

/-- An issue as a value. -/
def toJson : Issue → Json
  | .duplicateNodeId nodeId => kind "duplicate_node_id" [("node_id", .text nodeId)]
  | .danglingEdge edgeId nodeId =>
    kind "dangling_edge" [("edge_id", .text edgeId), ("node_id", .text nodeId)]
  | .noTrigger => kind "no_trigger" []
  | .emptyTriggerKeyword nodeId => kind "empty_trigger_keyword" [("node_id", .text nodeId)]
  | .invalidLogicLabel edgeId nodeId label => kind "invalid_logic_label"
    [("edge_id", .text edgeId), ("node_id", .text nodeId), ("label", .ofText? label)]
  | .unknownRouterLabel edgeId nodeId label => kind "unknown_router_label"
    [("edge_id", .text edgeId), ("node_id", .text nodeId), ("label", .ofText? label)]
  | .routerWithoutOptions nodeId => kind "router_without_options" [("node_id", .text nodeId)]
  | .cycle nodeIds => kind "cycle" [("node_ids", .ofTexts nodeIds)]
  | .unreachable nodeId => kind "unreachable" [("node_id", .text nodeId)]
where
  kind (name : String) (rest : List (String × Json)) : Json :=
    .object (("kind", .text name) :: rest)

end Issue

end Dialogue
