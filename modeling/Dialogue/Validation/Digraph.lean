/-
Directed graphs over named nodes: depth-first order, reachability, and the components whose
members reach one another.
-/
import Dialogue.Table

namespace Dialogue

/-- Nodes, each once, and arcs between them in the order in which they were added. -/
structure Digraph where
  nodes : List String
  arcs : List (String × String)
deriving DecidableEq, Repr

namespace Digraph

/-- The ends of the arcs that leave a node, the latest arc first. -/
def successors (g : Digraph) (n : String) : List String :=
  ((g.arcs.filter fun a => a.1 == n).map (·.2)).reverse

/-- Whether there is an arc from a node to another. -/
def hasArc (g : Digraph) (a b : String) : Bool :=
  g.arcs.contains (a, b)

/-- A task of a depth-first search. -/
inductive Task where
  /-- Visit a node unless it was visited before. -/
  | enter (n : String)
  /-- All successors of a node have been dealt with. -/
  | leave (n : String)
deriving DecidableEq, Repr

/-- Depth-first search: the nodes visited, the latest first, and the nodes left, the latest first.
Names that are no nodes of the graph are not entered. -/
def search (g : Digraph) : List Task → (visited left : List String) → List String × List String
  | [], visited, left => (visited, left)
  | .leave n :: tasks, visited, left => g.search tasks visited (n :: left)
  | .enter n :: tasks, visited, left =>
    if _h : n ∈ g.nodes ∧ n ∉ visited then
      g.search ((g.successors n).map .enter ++ .leave n :: tasks) (n :: visited) left
    else g.search tasks visited left
termination_by tasks visited => ((fresh g.nodes visited).length, tasks.length)
decreasing_by
  · exact Prod.Lex.right _ (Nat.lt_succ_self _)
  · exact Prod.Lex.left _ _ (length_fresh_cons_lt _h.1 _h.2)
  · exact Prod.Lex.right _ (Nat.lt_succ_self _)

/-- The nodes that paths from the given nodes lead to, these themselves included. -/
def reachable (g : Digraph) (starts : List String) : List String :=
  (g.search (starts.map .enter) [] []).1

/-- All nodes in the order in which a depth-first search leaves them. -/
def finishOrder (g : Digraph) : List String :=
  (g.search (g.nodes.map .enter) [] []).2.reverse

/-- For every node the nodes that it reaches. -/
def reachTable (g : Digraph) : Table (List String) :=
  g.nodes.map fun n => (n, g.reachable [n])

/-- The nodes that reach a node and are reached from it. -/
def componentIn (t : Table (List String)) (n : String) : List String :=
  ((t.get? n).getD []).filter fun m => ((t.get? m).getD []).contains n

/-- Every component at the place of the last of its members. -/
def componentsAlong (t : Table (List String)) : List String → List (List String)
  | [] => []
  | n :: rest =>
    let component := componentIn t n
    if rest.any component.contains then componentsAlong t rest
    else component :: componentsAlong t rest

/-- The components in the order in which a depth-first search completes them. -/
def components (g : Digraph) : List (List String) :=
  componentsAlong g.reachTable g.finishOrder

end Digraph

end Dialogue
