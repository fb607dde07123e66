/-
Conversation flows: nodes that say or ask something, and directed edges between them. This module
holds the types and the ways to build them; a flow may be ill-formed (repeated ids, edges without
ends), since that is for validation to find and for a run to tolerate.
-/
import Dialogue.Instant.Basic
import Dialogue.Text.Lowercase

namespace Dialogue

/-- The six kinds of nodes, without what a node carries. -/
inductive NodeType where
  | trigger
  | action
  | logic
  | ai
  | aiRouter
  | waitForInput
deriving DecidableEq, Repr

/-- The name of a kind in documents. -/
def NodeType.name : NodeType → String
  | .trigger => "trigger"
  | .action => "action"
  | .logic => "logic"
  | .ai => "ai"
  | .aiRouter => "ai_router"
  | .waitForInput => "wait_for_input"

/-- All kinds, in the order in which messages list them. -/
def NodeType.all : List NodeType :=
  [.trigger, .action, .logic, .ai, .aiRouter, .waitForInput]

/-- A condition of a logic node. An unknown one keeps its name and never holds. -/
inductive Condition where
  | isPremium
  | hasTag
  | unknown (name : String)
deriving DecidableEq, Repr

namespace Condition

/-- The condition that a name stands for, blanks around it and letter case aside. -/
def ofName (name : String) : Condition :=
  let known := Text.normalize name
  if known = "is_premium" then .isPremium
  else if known = "has_tag" then .hasTag
  else .unknown name

/-- The name of a condition in documents. -/
def name : Condition → String
  | .isPremium => "is_premium"
  | .hasTag => "has_tag"
  | .unknown name => name

end Condition

/-- One of the answers that a router offers to the classifier. -/
structure Choice where
  label : String
  description : Option String := none
deriving DecidableEq, Repr

/-- The options of a router and the instructions put in front of the question. -/
structure Router where
  options : List Choice
  prompt : Option String := none
deriving DecidableEq, Repr

/-- A condition with the tag that some conditions ask for. -/
structure Logic where
  condition : Condition
  tag : Option String := none
deriving DecidableEq, Repr

/-- What a node does. -/
inductive NodeRole where
  /-- Starts the flow when a message equals the keyword. -/
  | trigger (keyword : String)
  /-- Sends a message. -/
  | action (message : String)
  /-- Branches on a condition. -/
  | logic (logic : Logic)
  /-- Sends the answer of the responder to a prompt. -/
  | ai (prompt : String)
  /-- Branches on the option that the classifier picks. -/
  | router (router : Router)
  /-- Parks the run until the next message. -/
  | waitForInput
deriving DecidableEq, Repr

/-- The kind without what it carries. -/
def NodeRole.type : NodeRole → NodeType
  | .trigger _ => .trigger
  | .action _ => .action
  | .logic _ => .logic
  | .ai _ => .ai
  | .router _ => .aiRouter
  | .waitForInput => .waitForInput

/-- A node of a flow. -/
structure Node where
  id : String
  role : NodeRole
deriving DecidableEq, Repr

namespace Node

/-- The kind of the node. -/
def type (n : Node) : NodeType :=
  n.role.type

/-- Whether a run is parked at this node. -/
def waits (n : Node) : Bool :=
  n.role == .waitForInput

/-- A trigger. -/
def trigger (id keyword : String) : Node := ⟨id, .trigger keyword⟩

/-- A node that sends a message. -/
def action (id message : String) : Node := ⟨id, .action message⟩

/-- A node that branches on the condition of that name. -/
def logic (id condition : String) : Node := ⟨id, .logic ⟨.ofName condition, none⟩⟩

/-- A node that branches on a tag of the sender. -/
def hasTag (id tag : String) : Node := ⟨id, .logic ⟨.hasTag, some tag⟩⟩

/-- A node that sends the answer to a prompt. -/
def ai (id prompt : String) : Node := ⟨id, .ai prompt⟩

/-- A node that branches on one of several options. -/
def aiRouter (id : String) (options : List Choice) : Node := ⟨id, .router ⟨options, none⟩⟩

/-- A node that waits for the next message. -/
def waitForInput (id : String) : Node := ⟨id, .waitForInput⟩

end Node

/-- A directed connection. Its label matters only where the source branches. -/
structure Edge where
  id : String
  source : String
  target : String
  label : Option String := none
  /-- The handle that a visual builder set; it stands in for a label that is absent or blank. -/
  sourceHandle : Option String := none
deriving DecidableEq, Repr

/-- The label that counts: the label unless it is blank, else the handle. -/
def Edge.labelOrHandle (e : Edge) : Option String :=
  match e.label with
  | some l => if Text.allBlank l then e.sourceHandle else some l
  | none => e.sourceHandle

/-- A flow of a tenant. -/
structure Flow where
  id : String
  name : String
  description : Option String := none
  isActive : Bool := true
  tenantId : String := ""
  nodes : List Node
  edges : List Edge
  createdAt : Instant
  updatedAt : Instant
deriving DecidableEq, Repr

namespace Flow

/-- An active flow without nodes. -/
def empty (id name tenantId : String) (now : Instant) : Flow where
  id := id
  name := name
  tenantId := tenantId
  nodes := []
  edges := []
  createdAt := now
  updatedAt := now

/-- The flow with one more node, behind the others. -/
def addNode (f : Flow) (n : Node) : Flow :=
  { f with nodes := f.nodes ++ [n] }

/-- The flow with one more edge, behind the others. -/
def addEdge (f : Flow) (e : Edge) : Flow :=
  { f with edges := f.edges ++ [e] }

/-- The flow, switched on or off. -/
def withActive (f : Flow) (active : Bool) : Flow :=
  { f with isActive := active }

/-- The first node with that id. -/
def node? (f : Flow) (id : String) : Option Node :=
  f.nodes.find? (·.id == id)

/-- The triggers, in order. -/
def triggers (f : Flow) : List Node :=
  f.nodes.filter (·.type == .trigger)

end Flow

end Dialogue
