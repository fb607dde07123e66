/-
Which cycles validation reports. A node is named by a warning exactly if it lies on a loop of edges
and nothing that edges join to it both ways waits for input (`mem_cycle_iff`). So what is reported are
loops in which nothing waits, but not all of them: a loop in which nothing waits is passed over where
a loop in which something waits has a node in common with it (`cycle_warnings`, `retry_passed_over`).
-/
import Dialogue.Proofs.Validation.Components
import Dialogue.Proofs.Validation.Issues
import Mathlib

namespace Dialogue.Flow

open Relation

variable {f : Flow} {a b n : String} {ids : List String}

/-! ## Loops -/

/-- An edge leads from one node to another. -/
def Joined (f : Flow) (a b : String) : Prop :=
  ∃ e ∈ f.edges, f.joins e = true ∧ e.source = a ∧ e.target = b

/-- The node of that id waits for input. -/
def Waits (f : Flow) (id : String) : Prop :=
  ∃ n, f.node? id = some n ∧ n.waits = true

/-- An edge leads from one node to another, and neither waits for input. -/
def FreelyJoined (f : Flow) (a b : String) : Prop :=
  f.Joined a b ∧ ¬ f.Waits a ∧ ¬ f.Waits b

theorem arc_eq_joined : f.graph.Arc = f.Joined := by
  funext a b
  unfold Digraph.Arc Joined
  apply propext
  constructor
  · rintro ⟨h, -, -⟩
    obtain ⟨e, he, heq⟩ := List.mem_map.1 h
    cases heq
    exact ⟨e, (List.mem_filter.1 he).1, (List.mem_filter.1 he).2, rfl, rfl⟩
  · rintro ⟨e, he, hj, rfl, rfl⟩
    obtain ⟨hs, ht⟩ := joins_iff.1 hj
    exact ⟨List.mem_map.2 ⟨e, List.mem_filter.2 ⟨he, hj⟩, rfl⟩, mem_nodeIds.2 hs, mem_nodeIds.2 ht⟩

theorem linked_iff : f.graph.Linked a b ↔ ReflTransGen f.Joined a b ∧ ReflTransGen f.Joined b a := by
  rw [Digraph.Linked, arc_eq_joined]

/-- A path on which every node has a property is a path of the nodes that have it. -/
theorem restrict_transGen {r : String → String → Prop} {p : String → Prop} (h : TransGen r a b)
    (hp : ∀ k, ReflTransGen r a k → ReflTransGen r k b → p k) :
    TransGen (fun x y => r x y ∧ p x ∧ p y) a b := by
  induction h with
  | single hab => exact .single ⟨hab, hp a .refl (.single hab), hp _ (.single hab) .refl⟩
  | tail hab hbc ih =>
    refine .tail (ih fun k hak hkb => hp k hak (hkb.tail hbc)) ⟨hbc, ?_, ?_⟩
    · exact hp _ hab.to_reflTransGen (.single hbc)
    · exact hp _ (hab.to_reflTransGen.tail hbc) .refl

/-- A component is a cycle exactly if a loop of arcs passes through any of its members. -/
theorem isCycle_iff {g : Digraph} {c : List String} (hc : c ∈ g.components) (hn : n ∈ c) :
    isCycle g c = true ↔ TransGen g.Arc n n := by
  have hnodup := Digraph.nodup_component hc
  match c with
  | [] => cases hn
  | [k] =>
    cases List.mem_singleton.1 hn
    unfold isCycle Digraph.hasArc
    rw [List.contains_iff_mem]
    constructor
    · intro h
      have hmem := Digraph.mem_nodes_of_component hc hn
      exact .single ⟨h, hmem, hmem⟩
    · intro h
      -- the first step of the loop stays in the component
      obtain ⟨m, hnm, hmn⟩ := TransGen.head'_iff.1 h
      have hm := (Digraph.mem_component_iff hc hn).2 ⟨.single hnm, hmn⟩
      cases List.mem_singleton.1 hm
      exact hnm.1
  | k :: l :: c =>
    refine iff_of_true rfl ?_
    have hkl : k ≠ l := by
      rintro rfl
      exact (List.nodup_cons.1 hnodup).1 (List.mem_cons_self ..)
    obtain ⟨m, hm, hnm⟩ : ∃ m ∈ k :: l :: c, n ≠ m := by
      by_cases hk : n = k
      · exact ⟨l, by simp, hk ▸ hkl⟩
      · exact ⟨k, by simp, hk⟩
    exact ((Digraph.mem_component_iff hc hn).1 hm).loop hnm

/-! ## Warnings -/

theorem pauses_eq_false_iff {c : List String} : f.pauses c = false ↔ ∀ id ∈ c, ¬ f.Waits id := by
  unfold pauses Waits
  rw [List.any_eq_false]
  refine forall₂_congr fun id _ => not_congr ?_
  rw [Option.any_eq_true]

theorem mem_cycleIssues {i : Issue} : i ∈ f.cycleIssues ↔ ∃ c ∈ f.graph.components,
    isCycle f.graph c = true ∧ f.pauses c = false ∧
      .cycle (c.mergeSort fun a b => decide (a ≤ b)) = i := by
  unfold cycleIssues
  simp only [List.mem_map, List.mem_filter, Bool.and_eq_true, Bool.not_eq_true', and_assoc]

theorem cycle_mem_validate : .cycle ids ∈ f.validate ↔ ∃ c ∈ f.graph.components,
    isCycle f.graph c = true ∧ f.pauses c = false ∧
      (c.mergeSort fun a b => decide (a ≤ b)) = ids := by
  rw [mem_validate]
  refine mem_cycleIssues.trans ?_
  simp only [Issue.cycle.injEq]

/-- The warnings of cycles that name a node: there is one exactly if the node lies on a loop and
nothing waits among the nodes that edges join to it both ways. -/
theorem mem_cycle_iff : (∃ ids, .cycle ids ∈ f.validate ∧ n ∈ ids) ↔ TransGen f.Joined n n ∧
    ∀ m, ReflTransGen f.Joined n m → ReflTransGen f.Joined m n → ¬ f.Waits m := by
  constructor
  · rintro ⟨ids, hids, hn⟩
    obtain ⟨c, hc, hcycle, hpauses, rfl⟩ := cycle_mem_validate.1 hids
    rw [List.mem_mergeSort] at hn
    refine ⟨arc_eq_joined ▸ (isCycle_iff hc hn).1 hcycle, fun m hnm hmn => ?_⟩
    have hm : m ∈ c := (Digraph.mem_component_iff hc hn).2 (linked_iff.2 ⟨hnm, hmn⟩)
    exact pauses_eq_false_iff.1 hpauses m hm
  · rintro ⟨hloop, hwaits⟩
    rw [← arc_eq_joined] at hloop
    obtain ⟨k, hnk, -⟩ := TransGen.head'_iff.1 hloop
    obtain ⟨c, hc, hn⟩ := Digraph.exists_component hnk.2.1
    refine ⟨_, cycle_mem_validate.2 ⟨c, hc, (isCycle_iff hc hn).2 hloop, ?_, rfl⟩, ?_⟩
    · refine pauses_eq_false_iff.2 fun m hm => ?_
      obtain ⟨hnm, hmn⟩ := linked_iff.1 ((Digraph.mem_component_iff hc hn).1 hm)
      exact hwaits m hnm hmn
    · exact List.mem_mergeSort.2 hn

/-- Cycle warnings. A node is named by one exactly if it lies on a loop and nothing waits among the nodes
that edges join to it both ways. What is named lies on a loop in which nothing waits; and a node on such
a loop that is not named lies on one with a node that waits, too. -/
theorem cycle_warnings (f : Flow) (n : String) :
    ((∃ ids, .cycle ids ∈ f.validate ∧ n ∈ ids) ↔ TransGen f.Joined n n ∧
      ∀ m, ReflTransGen f.Joined n m → ReflTransGen f.Joined m n → ¬ f.Waits m) ∧
    ((∃ ids, .cycle ids ∈ f.validate ∧ n ∈ ids) → TransGen f.FreelyJoined n n) ∧
    (TransGen f.FreelyJoined n n → (¬ ∃ ids, .cycle ids ∈ f.validate ∧ n ∈ ids) →
      ∃ m, f.Waits m ∧ TransGen f.Joined n m ∧ TransGen f.Joined m n) := by
  refine ⟨mem_cycle_iff, fun h => ?_, fun hfree hno => ?_⟩
  · obtain ⟨hloop, hwaits⟩ := mem_cycle_iff.1 h
    exact restrict_transGen hloop hwaits
  · have hloop : TransGen f.Joined n n := TransGen.mono (fun _ _ h => h.1) _ _ hfree
    rw [mem_cycle_iff, and_iff_right hloop] at hno
    push Not at hno
    obtain ⟨m, hnm, hmn, hm⟩ := hno
    -- either path may be empty, and goes round the loop then
    exact ⟨m, hm, hloop.trans_left hnm, hloop.trans_right hmn⟩

/-- Two actions that lead to one another, and a prompt behind them. -/
def pingPong : Flow where
  id := "ping-pong"
  name := "Ping-pong"
  tenantId := "t1"
  nodes := [.trigger "t" "go", .action "a" "A", .action "b" "B", .waitForInput "w"]
  edges := [⟨"e1", "t", "a", none, none⟩, ⟨"e2", "a", "b", none, none⟩, ⟨"e3", "b", "a", none, none⟩,
    ⟨"e4", "b", "w", none, none⟩]
  createdAt := .epoch
  updatedAt := .epoch

/-- `pingPong` where the prompt leads back. -/
def retry : Flow :=
  pingPong.addEdge ⟨"e5", "w", "a", none, none⟩

/-- The actions of `pingPong` are named, and so they lie on a loop in which nothing waits. -/
theorem pingPong_cycle_warnings : pingPong.validate = [.cycle ["a", "b"]] ∧
    TransGen pingPong.FreelyJoined "a" "a" := by
  have hv : pingPong.validate = [.cycle ["a", "b"]] := by cbv
  refine ⟨hv, (cycle_warnings pingPong "a").2.1 ⟨["a", "b"], ?_, by decide⟩⟩
  rw [hv]
  exact List.mem_singleton_self _

/-- The two actions of `retry` still lead to one another, and neither waits, but one edge more and the
warning is gone. -/
theorem retry_passed_over : TransGen retry.FreelyJoined "a" "a" ∧ ∀ ids, .cycle ids ∉ retry.validate := by
  have hv : retry.validate = [] := by cbv
  have hfree : ∀ {id}, id = "a" ∨ id = "b" → ¬ retry.Waits id := by
    rintro id (rfl | rfl) ⟨n, hn, hw⟩
    · cases hn
      cases hw
    · cases hn
      cases hw
  have hab : retry.FreelyJoined "a" "b" :=
    ⟨⟨⟨"e2", "a", "b", none, none⟩, by decide, by decide, rfl, rfl⟩, hfree (.inl rfl), hfree (.inr rfl)⟩
  have hba : retry.FreelyJoined "b" "a" :=
    ⟨⟨⟨"e3", "b", "a", none, none⟩, by decide, by decide, rfl, rfl⟩, hfree (.inr rfl), hfree (.inl rfl)⟩
  refine ⟨.tail (.single hab) hba, fun ids h => ?_⟩
  rw [hv] at h
  cases h

end Dialogue.Flow
