/-
Look-up tables of a flow: its nodes by id, the first of several with one id winning, and the edges
that leave an id, in the order of the flow.
-/
import Dialogue.Flow.Basic
import Dialogue.Table

namespace Dialogue

/-- The tables of a flow. -/
structure NodeIndex where
  nodes : Table Node
  edges : Table (List Edge)

namespace NodeIndex

/-- Builds the tables. -/
def ofFlow (f : Flow) : NodeIndex where
  nodes := f.nodes.foldl (fun t n => t.insertIfNew n.id n) []
  edges := f.edges.foldl (fun t e => t.append e.source e) []

/-- The node with that id. -/
def node? (i : NodeIndex) (id : String) : Option Node :=
  i.nodes.get? id

/-- The edges that leave that id. -/
def outgoing (i : NodeIndex) (id : String) : List Edge :=
  (i.edges.get? id).getD []

/-- The ids of nodes, each once. -/
def ids (i : NodeIndex) : List String :=
  i.nodes.keys

/-! ## What the tables hold -/

theorem mem_ids_of_node? {i : NodeIndex} {id : String} {n : Node} (h : i.node? id = some n) :
    id ∈ i.ids :=
  Table.mem_keys_of_get? h

theorem get?_foldl_insertIfNew (ns : List Node) (t : Table Node) (id : String) :
    (ns.foldl (fun t n => t.insertIfNew n.id n) t).get? id =
      (t.get? id).or (ns.find? (·.id == id)) := by
  induction ns generalizing t with
  | nil => simp
  | cons n ns ih =>
    rw [List.foldl_cons, ih, Table.get?_insertIfNew, List.find?_cons]
    by_cases h : n.id = id
    · cases ht : t.get? id <;> simp [h, ht]
    · have hb : (n.id == id) = false := beq_eq_false_iff_ne.2 h
      simp [Ne.symm h, hb]

theorem get?_foldl_append (es : List Edge) (t : Table (List Edge)) (id : String) :
    ((es.foldl (fun t e => t.append e.source e) t).get? id).getD [] =
      (t.get? id).getD [] ++ es.filter (·.source == id) := by
  induction es generalizing t with
  | nil => simp
  | cons e es ih =>
    rw [List.foldl_cons, ih, Table.get?_append]
    by_cases h : e.source = id
    · simp [h]
    · simp [Ne.symm h, h]

/-- The table finds the first node with an id, as the flow does. -/
theorem node?_ofFlow (f : Flow) (id : String) : (ofFlow f).node? id = f.node? id := by
  unfold node? ofFlow Flow.node?
  rw [get?_foldl_insertIfNew]
  simp

/-- The edges that leave an id, in the order of the flow. -/
theorem outgoing_ofFlow (f : Flow) (id : String) :
    (ofFlow f).outgoing id = f.edges.filter (·.source == id) := by
  unfold outgoing ofFlow
  rw [get?_foldl_append]
  simp

end NodeIndex

end Dialogue
