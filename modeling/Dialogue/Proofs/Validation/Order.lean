/-
Validation does not depend on the order in which a flow is written down (`validate_perm`). Where no id is
used twice, two flows with the same nodes and the same edges find the same node for an id, join the same
ids, and have the same triggers, whatever the order. The order in which a search leaves the nodes does
change. But components are the classes of nodes that are joined both ways, each listed once, and what is
reported of a component is its members in the order of their ids.
-/
import Dialogue.Proofs.Text.Bytes
import Dialogue.Proofs.Validation.Structure

namespace Dialogue.Flow

open Relation

/-! ## Lists of ids -/

theorem eraseDups_of_nodup {l : List String} (h : l.Nodup) : l.eraseDups = l := by
  induction l with
  | nil => rfl
  | cons a l ih =>
    obtain ⟨ha, hl⟩ := List.nodup_cons.1 h
    have hself : l.filter (fun b => !b == a) = l := by
      refine List.filter_eq_self.2 fun b hb => ?_
      have hne : b ≠ a := fun he => ha (he ▸ hb)
      simp [hne]
    rw [List.eraseDups_cons, hself, ih hl]

theorem exists_mem_of_isCycle {g : Digraph} {c : List String} (h : isCycle g c = true) : ∃ n, n ∈ c := by
  cases c with
  | nil => cases h
  | cons n c => exact ⟨n, List.mem_cons_self ..⟩

/-! ## The same flow in another order -/

/-- Two flows have the same nodes and the same edges, in whatever order, and use no id twice. -/
structure Reordered (f g : Flow) : Prop where
  nodup : (f.nodes.map (·.id)).Nodup
  nodes : f.nodes.Perm g.nodes
  edges : f.edges.Perm g.edges

namespace Reordered

variable {f g : Flow} (h : Reordered f g)
include h

theorem symm : Reordered g f :=
  ⟨((h.nodes.map _).nodup_iff).1 h.nodup, h.nodes.symm, h.edges.symm⟩

theorem hasNode (id : String) : f.hasNode id = g.hasNode id := by
  rw [hasNode_eq_decide, hasNode_eq_decide]
  exact decide_eq_decide.2 (h.nodes.map _).mem_iff

theorem node?_some {id : String} {n : Node} (hn : f.node? id = some n) : g.node? id = some n := by
  have hmem : n ∈ g.nodes := h.nodes.mem_iff.1 (mem_of_node? hn)
  rw [← id_of_node? hn]
  exact node?_of_mem h.symm.nodup hmem

theorem node? (id : String) : f.node? id = g.node? id := by
  ext n
  exact ⟨h.node?_some, h.symm.node?_some⟩

theorem joins (e : Edge) : f.joins e = g.joins e := by
  unfold Flow.joins
  rw [h.hasNode, h.hasNode]

theorem joined : f.Joined = g.Joined := by
  funext a b
  unfold Joined
  simp only [h.edges.mem_iff, h.joins]

theorem waits (id : String) : f.Waits id ↔ g.Waits id := by
  unfold Waits
  rw [h.node?]

theorem triggers : f.triggers.Perm g.triggers :=
  h.nodes.filter _

theorem edgeIssues (e : Edge) : f.edgeIssues e = g.edgeIssues e := by
  unfold Flow.edgeIssues labelIssue? danglingIssues
  simp only [h.joins, h.node?, h.hasNode]

/-! ### Components -/

theorem linked (a b : String) : f.graph.Linked a b ↔ g.graph.Linked a b := by
  rw [linked_iff, linked_iff, h.joined]

/-- Components with a member in common have the same members. -/
theorem component_perm {c c' : List String} {n : String} (hc : c ∈ f.graph.components)
    (hc' : c' ∈ g.graph.components) (hn : n ∈ c) (hn' : n ∈ c') : c.Perm c' := by
  refine (List.perm_ext_iff_of_nodup (Digraph.nodup_component hc) (Digraph.nodup_component hc')).2 ?_
  intro m
  rw [Digraph.mem_component_iff hc hn, Digraph.mem_component_iff hc' hn', h.linked]

/-- A cycle that is reported of one of the flows is reported of the other. -/
theorem cycle_mem {i : Issue} (hi : i ∈ f.cycleIssues) : i ∈ g.cycleIssues := by
  obtain ⟨c, hc, hcycle, hpauses, rfl⟩ := mem_cycleIssues.1 hi
  obtain ⟨n, hn⟩ := exists_mem_of_isCycle hcycle
  have hmem : n ∈ g.graph.nodes := by
    refine mem_nodeIds.2 ?_
    rw [← h.hasNode]
    exact mem_nodeIds.1 (Digraph.mem_nodes_of_component hc hn)
  obtain ⟨c', hc', hn'⟩ := Digraph.exists_component hmem
  have hperm := h.component_perm hc hc' hn hn'
  have hcycle' : isCycle g.graph c' = true := by
    rw [isCycle_iff hc' hn', arc_eq_joined, ← h.joined, ← arc_eq_joined]
    exact (isCycle_iff hc hn).1 hcycle
  have hpauses' : g.pauses c' = false := by
    refine pauses_eq_false_iff.2 fun id hid hw => ?_
    exact pauses_eq_false_iff.1 hpauses id (hperm.mem_iff.2 hid) ((h.waits id).2 hw)
  exact mem_cycleIssues.2 ⟨c', hc', hcycle', hpauses', by rw [Text.mergeSort_eq_of_perm hperm]⟩

end Reordered

variable {f g : Flow}

/-- No cycle is reported twice, as no two components have a member in common. -/
theorem nodup_cycleIssues (f : Flow) : f.cycleIssues.Nodup := by
  unfold cycleIssues
  rw [List.nodup_iff_pairwise_ne, List.pairwise_map]
  refine (List.Pairwise.filter _ Digraph.pairwise_components).imp_of_mem ?_
  intro c c' hc _ hdisjoint heq
  have hcycle : isCycle f.graph c = true ∧ (!f.pauses c) = true :=
    (Bool.and_eq_true _ _).mp (List.mem_filter.1 hc).2
  obtain ⟨n, hn⟩ := exists_mem_of_isCycle hcycle.1
  have hsorted : n ∈ c.mergeSort fun a b => decide (a ≤ b) := List.mem_mergeSort.2 hn
  rw [Issue.cycle.inj heq] at hsorted
  exact hdisjoint n hn (List.mem_mergeSort.1 hsorted)

theorem Reordered.reported (h : Reordered f g) (c : Check) : (f.reported c).Perm (g.reported c) := by
  cases c with
  | ids => rw [reported_ids_eq_nil.2 h.nodup, reported_ids_eq_nil.2 h.symm.nodup]
  | nodes => exact h.nodes.filterMap _
  | triggers =>
    show (if f.triggers.isEmpty then [Issue.noTrigger] else []).Perm
      (if g.triggers.isEmpty then [.noTrigger] else [])
    rw [h.triggers.isEmpty_eq]
  | edges => exact h.edges.flatMap fun e _ => by rw [h.edgeIssues]
  | cycles =>
    refine (List.perm_ext_iff_of_nodup f.nodup_cycleIssues g.nodup_cycleIssues).2 fun i => ?_
    exact ⟨h.cycle_mem, h.symm.cycle_mem⟩
  | reach =>
    show (if f.triggers.isEmpty then [] else f.unreachableIssues).Perm
      (if g.triggers.isEmpty then [] else g.unreachableIssues)
    rw [h.triggers.isEmpty_eq]
    split
    · exact .nil
    · classical
      rw [unreachableIssues_eq, unreachableIssues_eq, eraseDups_of_nodup h.nodup,
        eraseDups_of_nodup h.symm.nodup, h.joined]
      simp only [h.triggers.mem_iff]
      exact ((h.nodes.map _).filter _).map _

/-- Where no id is used twice, a flow with the same nodes and the same edges has the same issues, as
often, in whatever order the nodes and the edges stand. -/
theorem validate_perm (hd : (f.nodes.map (·.id)).Nodup) (hn : f.nodes.Perm g.nodes)
    (he : f.edges.Perm g.edges) : f.validate.Perm g.validate := by
  have h : Reordered f g := ⟨hd, hn, he⟩
  rw [validate_eq, validate_eq]
  exact (((((h.reported .ids).append (h.reported .nodes)).append (h.reported .triggers)).append
    (h.reported .edges)).append (h.reported .cycles)).append (h.reported .reach)

/-- Two loops of actions that start from one trigger. -/
def twoLoops : Flow :=
  { pingPong with
    id := "two-loops"
    nodes := [.trigger "t" "go", .action "a" "A", .action "b" "B", .action "c" "C", .action "d" "D"]
    edges := [⟨"e1", "t", "a", none, none⟩, ⟨"e2", "a", "b", none, none⟩, ⟨"e3", "b", "a", none, none⟩,
      ⟨"e4", "t", "c", none, none⟩, ⟨"e5", "c", "d", none, none⟩, ⟨"e6", "d", "c", none, none⟩] }

/-- `twoLoops` with the nodes and the edges in another order. -/
def twoLoopsShuffled : Flow :=
  { twoLoops with
    nodes := [.trigger "t" "go", .action "d" "D", .action "b" "B", .action "a" "A", .action "c" "C"]
    edges := twoLoops.edges.reverse }

/-- Both ways the two loops are found, the one or the other first. -/
theorem twoLoops_perm : (twoLoops.nodes.map (·.id)).Nodup ∧
    twoLoops.nodes.Perm twoLoopsShuffled.nodes ∧ twoLoops.edges.Perm twoLoopsShuffled.edges ∧
    twoLoops.validate.Perm twoLoopsShuffled.validate ∧
    twoLoops.validate = [.cycle ["c", "d"], .cycle ["a", "b"]] ∧
    twoLoopsShuffled.validate = [.cycle ["a", "b"], .cycle ["c", "d"]] := by
  have hd : (twoLoops.nodes.map (·.id)).Nodup := by decide
  have hn : twoLoops.nodes.Perm twoLoopsShuffled.nodes := by decide
  have he : twoLoops.edges.Perm twoLoopsShuffled.edges := (List.reverse_perm _).symm
  exact ⟨hd, hn, he, validate_perm hd hn he, by cbv, by cbv⟩

end Dialogue.Flow
