/-
Flows as JSON values. What is absent is left out, and a node is written with its type and a data
object, whatever it carries.
-/
import Dialogue.Flow.Basic
import Dialogue.Instant.Rfc3339
import Dialogue.Json.Basic

namespace Dialogue

/-- An instant as a value. -/
def Instant.toJson (i : Instant) : Json :=
  .text i.text

/-- A router option as a value. -/
def Choice.toJson (o : Choice) : Json :=
  .object (("label", .text o.label) :: Json.optional "description" o.description)

/-- What a node carries, as members of its data object. -/
def NodeRole.dataMembers : NodeRole → List (String × Json)
  | .trigger keyword => [("keyword", .text keyword)]
  | .action message => [("message", .text message)]
  | .logic l => ("condition", .text l.condition.name) :: Json.optional "tag" l.tag
  | .ai prompt => [("prompt", .text prompt)]
  | .router r =>
    ("options", .array (r.options.map (·.toJson))) :: Json.optional "prompt" r.prompt
  | .waitForInput => []

/-- A node as a value. -/
def Node.toJson (n : Node) : Json :=
  .object [("id", .text n.id), ("type", .text n.type.name), ("data", .object n.role.dataMembers)]

/-- An edge as a value. -/
def Edge.toJson (e : Edge) : Json :=
  .object ([("id", .text e.id), ("source", .text e.source), ("target", .text e.target)] ++
    Json.optional "label" e.label ++ Json.optional "sourceHandle" e.sourceHandle)

/-- A flow as a value. -/
def Flow.toJson (f : Flow) : Json :=
  .object ([("id", .text f.id), ("name", .text f.name)] ++
    Json.optional "description" f.description ++
    [("isActive", .bool f.isActive), ("tenantId", .text f.tenantId),
      ("nodes", .array (f.nodes.map (·.toJson))), ("edges", .array (f.edges.map (·.toJson))),
      ("createdAt", f.createdAt.toJson), ("updatedAt", f.updatedAt.toJson)])

end Dialogue
