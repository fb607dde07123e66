/-
Validation: static checks of a flow. A run puts up with everything that is found here; validation
exists so that authors find it before their users do.
-/
import Dialogue.Flow.Basic
import Dialogue.Run.Choice
import Dialogue.Validation.Digraph
import Dialogue.Validation.Issue

namespace Dialogue.Flow

/-! ## The graph of a flow -/

/-- The ids of nodes, each at its first place. -/
def nodeIds (f : Flow) : List String :=
  f.nodes.foldl (fun ids n => if n.id ∈ ids then ids else ids ++ [n.id]) []

/-- Whether some node has that id. -/
def hasNode (f : Flow) (id : String) : Bool :=
  f.nodes.any (·.id == id)

/-- Whether both ends of an edge are nodes. -/
def joins (f : Flow) (e : Edge) : Bool :=
  f.hasNode e.source && f.hasNode e.target

/-- The nodes and the edges between them; edges without an end are left out. -/
def graph (f : Flow) : Digraph where
  nodes := f.nodeIds
  arcs := (f.edges.filter f.joins).map fun e => (e.source, e.target)

/-! ## Checks -/

/-- One issue for every node whose id an earlier node has. -/
def duplicateIssues (seen : List String) : List Node → List Issue
  | [] => []
  | n :: nodes =>
    if n.id ∈ seen then .duplicateNodeId n.id :: duplicateIssues seen nodes
    else duplicateIssues (n.id :: seen) nodes

/-- The issue of a node taken by itself. -/
def nodeIssue? (n : Node) : Option Issue :=
  match n.role with
  | .trigger keyword => if Text.allBlank keyword then some (.emptyTriggerKeyword n.id) else none
  | .router r => if r.options.isEmpty then some (.routerWithoutOptions n.id) else none
  | _ => none

/-- The missing ends of an edge. -/
def danglingIssues (f : Flow) (e : Edge) : List Issue :=
  ([e.source, e.target].filter fun id => !f.hasNode id).map (.danglingEdge e.id)

/-- Whether an edge that leaves a logic node has one of the two labels. -/
def isTruthLabelled (e : Edge) : Bool :=
  e.labelOrHandle.any fun l => sameLabel l "true" || sameLabel l "false"

/-- Whether an edge that leaves a router has the label of one of its options. -/
def isOptionLabelled (r : Router) (e : Edge) : Bool :=
  e.labelOrHandle.any fun l => r.options.any fun o => sameLabel o.label l

/-- The issue of the label of an edge, which matters where its source branches. -/
def labelIssue? (f : Flow) (e : Edge) : Option Issue :=
  match f.node? e.source with
  | some ⟨_, .logic _⟩ =>
    if isTruthLabelled e then none
    else some (.invalidLogicLabel e.id e.source e.labelOrHandle)
  | some ⟨_, .router r⟩ =>
    if isOptionLabelled r e then none
    else some (.unknownRouterLabel e.id e.source e.labelOrHandle)
  | _ => none

/-- The issues of an edge. -/
def edgeIssues (f : Flow) (e : Edge) : List Issue :=
  if f.joins e then (f.labelIssue? e).toList else f.danglingIssues e

/-- Whether a component is a cycle: it has several members, or its only one has an arc to itself.
-/
def isCycle (g : Digraph) (component : List String) : Bool :=
  match component with
  | [] => false
  | [n] => g.hasArc n n
  | _ => true

/-- Whether a run that goes round pauses on the way. -/
def pauses (f : Flow) (component : List String) : Bool :=
  component.any fun id => (f.node? id).any (·.waits)

/-- One issue for every cycle in which nothing waits. -/
def cycleIssues (f : Flow) : List Issue :=
  ((f.graph.components.filter fun c => isCycle f.graph c && !f.pauses c)).map fun c =>
    .cycle (c.mergeSort fun a b => decide (a ≤ b))

/-- One issue for every id to which no trigger leads. -/
def unreachableIssues (f : Flow) : List Issue :=
  let reached := f.graph.reachable (f.triggers.map (·.id))
  (f.nodeIds.filter fun id => !reached.contains id).map .unreachable

/-- The issues of a flow, in a fixed order. Reachability is looked at only if there is a trigger. -/
def validate (f : Flow) : List Issue :=
  duplicateIssues [] f.nodes ++
    f.nodes.filterMap nodeIssue? ++
    (if f.triggers.isEmpty then [.noTrigger] else []) ++
    f.edges.flatMap f.edgeIssues ++
    f.cycleIssues ++
    (if f.triggers.isEmpty then [] else f.unreachableIssues)

end Dialogue.Flow

namespace Dialogue

/-- The severe issues. -/
def errorsOf (issues : List Issue) : List Issue :=
  issues.filter fun i => i.severity = .error

/-- The other issues. -/
def warningsOf (issues : List Issue) : List Issue :=
  issues.filter fun i => i.severity = .warning

end Dialogue
