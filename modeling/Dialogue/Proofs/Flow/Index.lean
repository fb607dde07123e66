/-
The tables of a flow agree with the flow, whatever its ids are: repeated, missing or those of edges
without ends (`index_agrees`). What the tables hold is settled where they are built, by what each entry
that is made changes; here it is compared with what the lists of the flow say.
-/
import Dialogue.Flow.Index

namespace Dialogue

namespace Flow

variable {f : Flow} {id : String}

/-- The node of an id is the first one that has it. -/
theorem node?_eq_some_iff {n : Node} :
    f.node? id = some n ↔
      ∃ front back, f.nodes = front ++ n :: back ∧ n.id = id ∧ ∀ m ∈ front, m.id ≠ id := by
  unfold node?
  rw [List.find?_eq_some_iff_append]
  constructor
  · rintro ⟨hid, front, back, hnodes, hfront⟩
    exact ⟨front, back, hnodes, by simpa using hid, by simpa using hfront⟩
  · rintro ⟨front, back, hnodes, hid, hfront⟩
    exact ⟨by simpa using hid, front, back, hnodes, by simpa using hfront⟩

theorem node?_eq_none_iff : f.node? id = none ↔ ∀ n ∈ f.nodes, n.id ≠ id := by
  simp [node?]

end Flow

namespace NodeIndex

/-- An edge leaves an id as often as it stands in the flow, if that is its source. -/
theorem count_outgoing (f : Flow) (id : String) (e : Edge) :
    ((ofFlow f).outgoing id).count e = if e.source = id then f.edges.count e else 0 := by
  rw [outgoing_ofFlow]
  split
  · next h => exact List.count_filter (by simpa using h)
  · next h =>
    rw [List.count_eq_zero]
    intro he
    exact h (by simpa using (List.mem_filter.mp he).2)

/-- For every id, the tables give the node that the flow gives, which is the first with that id, or
none if there is none, and the edges of the flow that leave it, in the order of the flow and as often
as each of them stands there. -/
theorem index_agrees (f : Flow) (id : String) :
    (ofFlow f).node? id = f.node? id ∧
    (∀ n, (ofFlow f).node? id = some n ↔
      ∃ front back, f.nodes = front ++ n :: back ∧ n.id = id ∧ ∀ m ∈ front, m.id ≠ id) ∧
    ((ofFlow f).node? id = none ↔ ∀ n ∈ f.nodes, n.id ≠ id) ∧
    (ofFlow f).outgoing id = f.edges.filter (·.source == id) ∧
    ((ofFlow f).outgoing id).Sublist f.edges ∧
    ∀ e, ((ofFlow f).outgoing id).count e = if e.source = id then f.edges.count e else 0 := by
  have hnode : (ofFlow f).node? id = f.node? id := node?_ofFlow f id
  have hedges : (ofFlow f).outgoing id = f.edges.filter (·.source == id) := outgoing_ofFlow f id
  refine ⟨hnode, ?_, ?_, hedges, ?_, count_outgoing f id⟩
  · intro n
    rw [hnode]
    exact Flow.node?_eq_some_iff
  · rw [hnode]
    exact Flow.node?_eq_none_iff
  · rw [hedges]
    exact List.filter_sublist

/-- A flow with two nodes of one id, and with an edge that stands twice and leaves no node. -/
example :
    let loose : Edge := { id := "e", source := "ghost", target := "a" }
    let back : Edge := { id := "e", source := "a", target := "a" }
    let f : Flow :=
      { Flow.empty "f" "" "" .epoch with
        nodes := [.action "a" "first", .action "a" "second"]
        edges := [loose, back, loose] }
    (ofFlow f).node? "a" = some (.action "a" "first") ∧
      (ofFlow f).outgoing "ghost" = [loose, loose] := by
  decide

end NodeIndex

end Dialogue
