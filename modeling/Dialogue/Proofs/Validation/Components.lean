/-
The components of a graph: every node is in one (`exists_component`), whose members are exactly the
nodes that paths join to it both ways (`mem_component_iff`).

That the search leaves the nodes in a certain order is not used: a node whose component is skipped at
its own place is found in it at a later place, and every place comes.
-/
import Dialogue.Proofs.Validation.Digraph
import Mathlib.Logic.Relation

namespace Dialogue

open Relation

theorem Table.get?_map_self {α : Type} (f : String → α) {keys : List String} {key : String}
    (h : key ∈ keys) : Table.get? (keys.map fun k => (k, f k)) key = some (f key) := by
  induction keys with
  | nil => cases h
  | cons k keys ih =>
    rw [List.map_cons, Table.get?_cons]
    split
    · rename_i hk
      rw [hk]
    · rename_i hk
      exact ih ((List.mem_cons.1 h).resolve_left hk)

namespace Digraph

variable {g : Digraph} {a b m n : String} {c : List String}

/-! ## Arcs and paths -/

/-- There is an arc between two nodes. -/
def Arc (g : Digraph) (a b : String) : Prop :=
  (a, b) ∈ g.arcs ∧ a ∈ g.nodes ∧ b ∈ g.nodes

theorem Leads.mem_nodes {starts : List String} (h : g.Leads starts n) : n ∈ g.nodes := by
  cases h with
  | start _ hn => exact hn
  | arc _ _ hn => exact hn

theorem leads_iff {starts : List String} :
    g.Leads starts b ↔ ∃ a ∈ starts, a ∈ g.nodes ∧ ReflTransGen g.Arc a b := by
  constructor
  · intro h
    induction h with
    | @start n hn hmem => exact ⟨n, hn, hmem, .refl⟩
    | arc h hab hb ih =>
      obtain ⟨a, ha, hmem, hpath⟩ := ih
      exact ⟨a, ha, hmem, hpath.tail ⟨hab, h.mem_nodes, hb⟩⟩
  · rintro ⟨a, ha, hmem, hpath⟩
    induction hpath with
    | refl => exact .start ha hmem
    | tail _ harc ih => exact .arc ih harc.1 harc.2.2

theorem leads_singleton : g.Leads [a] b ↔ a ∈ g.nodes ∧ ReflTransGen g.Arc a b := by
  rw [leads_iff]
  simp

/-- Paths lead from either of two nodes to the other. -/
def Linked (g : Digraph) (a b : String) : Prop :=
  ReflTransGen g.Arc a b ∧ ReflTransGen g.Arc b a

theorem Linked.symm (h : g.Linked a b) : g.Linked b a :=
  ⟨h.2, h.1⟩

theorem Linked.trans (h : g.Linked m a) (h' : g.Linked a b) : g.Linked m b :=
  ⟨h.1.trans h'.1, h'.2.trans h.2⟩

/-- Two linked nodes lie on a loop. -/
theorem Linked.loop (h : g.Linked a b) (hne : a ≠ b) : TransGen g.Arc a a := by
  rcases reflTransGen_iff_eq_or_transGen.1 h.1 with he | hto
  · exact absurd he.symm hne
  · exact hto.trans_left h.2

/-! ## The order of a search -/

/-- A search leaves every node that it enters, and the nodes that it is told to leave. -/
theorem search_leaves (tasks : List Task) (visited left : List String) :
    (∀ n, n ∈ left ∨ .leave n ∈ tasks → n ∈ (g.search tasks visited left).2) ∧
    (∀ n ∈ (g.search tasks visited left).1, n ∉ visited → n ∈ (g.search tasks visited left).2) ∧
    ∀ n ∈ (g.search tasks visited left).2, n ∈ left ∨ .leave n ∈ tasks ∨ n ∈ g.nodes := by
  induction tasks, visited, left using search.induct (g := g) with
  | case1 visited left =>
    rw [search]
    refine ⟨fun n h => ?_, fun n h hn => absurd h hn, fun n h => .inl h⟩
    rcases h with h | h
    · exact h
    · cases h
  | case2 n tasks visited left ih =>
    obtain ⟨hl, hv, hs⟩ := ih
    rw [search]
    refine ⟨fun m h => hl m ?_, hv, fun m h => ?_⟩
    · rcases h with h | h
      · exact .inl (List.mem_cons_of_mem _ h)
      · rcases List.mem_cons.1 h with h | h
        · cases h
          exact .inl (List.mem_cons_self ..)
        · exact .inr h
    · rcases hs m h with h | h | h
      · rcases List.mem_cons.1 h with rfl | h
        · exact .inr (.inl (List.mem_cons_self ..))
        · exact .inl h
      · exact .inr (.inl (List.mem_cons_of_mem _ h))
      · exact .inr (.inr h)
  | case3 n tasks visited left hn ih =>
    obtain ⟨hl, hv, hs⟩ := ih
    rw [search, dif_pos hn]
    have hmem : ∀ m, Task.leave m ∈ (g.successors n).map .enter ++ .leave n :: tasks ↔
        m = n ∨ .leave m ∈ tasks := by simp
    refine ⟨fun m h => hl m ?_, fun m h hm => ?_, fun m h => ?_⟩
    · exact h.imp id fun h => (hmem m).2 (.inr (by simpa using h))
    · by_cases hmn : m = n
      · exact hl m (.inr ((hmem m).2 (.inl hmn)))
      · exact hv m h (by simp [hmn, hm])
    · rcases hs m h with h | h | h
      · exact .inl h
      · rcases (hmem m).1 h with rfl | h
        · exact .inr (.inr hn.1)
        · exact .inr (.inl (List.mem_cons_of_mem _ h))
      · exact .inr (.inr h)
  | case4 n tasks visited left hn ih =>
    obtain ⟨hl, hv, hs⟩ := ih
    rw [search, dif_neg hn]
    refine ⟨fun m h => hl m ?_, hv, fun m h => ?_⟩
    · exact h.imp id fun h => by simpa using h
    · exact (hs m h).imp id (Or.imp (List.mem_cons_of_mem _) id)

theorem mem_finishOrder : n ∈ g.finishOrder ↔ n ∈ g.nodes := by
  unfold finishOrder
  obtain ⟨-, hv, hs⟩ := search_leaves (g := g) (g.nodes.map .enter) [] []
  rw [List.mem_reverse]
  constructor
  · intro h
    rcases hs n h with h | h | h
    · cases h
    · obtain ⟨_, -, h⟩ := List.mem_map.1 h
      cases h
    · exact h
  · intro h
    obtain ⟨-, he, -⟩ := search_closed (g := g) (g.nodes.map .enter) [] []
    exact hv n (he n (List.mem_map_of_mem h) h) List.not_mem_nil

/-- A search visits no node twice. -/
theorem nodup_search (tasks : List Task) (visited left : List String) (h : visited.Nodup) :
    (g.search tasks visited left).1.Nodup := by
  induction tasks, visited, left using search.induct (g := g) with
  | case1 visited left =>
    rw [search]
    exact h
  | case2 n tasks visited left ih =>
    rw [search]
    exact ih h
  | case3 n tasks visited left hn ih =>
    rw [search, dif_pos hn]
    exact ih (List.nodup_cons.2 ⟨hn.2, h⟩)
  | case4 n tasks visited left hn ih =>
    rw [search, dif_neg hn]
    exact ih h

/-! ## Components -/

theorem get?_reachTable (hn : n ∈ g.nodes) : g.reachTable.get? n = some (g.reachable [n]) :=
  Table.get?_map_self (fun n => g.reachable [n]) hn

theorem mem_componentIn (hn : n ∈ g.nodes) : m ∈ componentIn g.reachTable n ↔ g.Linked n m := by
  unfold componentIn Linked
  rw [List.mem_filter, get?_reachTable hn, Option.getD_some, mem_reachable, leads_singleton,
    and_iff_right hn]
  refine and_congr_right fun hnm => ?_
  have hm : m ∈ g.nodes := (leads_singleton.2 ⟨hn, hnm⟩).mem_nodes
  rw [get?_reachTable hm, Option.getD_some, List.contains_iff_mem, mem_reachable, leads_singleton,
    and_iff_right hm]

theorem of_mem_componentsAlong {t : Table (List String)} {ns : List String}
    (h : c ∈ componentsAlong t ns) : ∃ n ∈ ns, c = componentIn t n := by
  induction ns with
  | nil => cases h
  | cons n ns ih =>
    unfold componentsAlong at h
    dsimp only at h
    split at h
    · obtain ⟨m, hm, hc⟩ := ih h
      exact ⟨m, List.mem_cons_of_mem _ hm, hc⟩
    · rcases List.mem_cons.1 h with rfl | h
      · exact ⟨n, List.mem_cons_self .., rfl⟩
      · obtain ⟨m, hm, hc⟩ := ih h
        exact ⟨m, List.mem_cons_of_mem _ hm, hc⟩

theorem exists_componentsAlong {ns : List String} (hns : ∀ n ∈ ns, n ∈ g.nodes) (hn : n ∈ ns) :
    ∃ c ∈ componentsAlong g.reachTable ns, n ∈ c := by
  induction ns generalizing n with
  | nil => cases hn
  | cons k ns ih =>
    obtain ⟨hk, hrest⟩ := List.forall_mem_cons.1 hns
    unfold componentsAlong
    dsimp only
    split
    · rename_i hany
      rcases List.mem_cons.1 hn with rfl | hn
      · -- the component comes later, at another of its members
        obtain ⟨m, hm, hnm⟩ := List.any_eq_true.1 hany
        rw [List.contains_iff_mem, mem_componentIn hk] at hnm
        obtain ⟨c, hc, hmc⟩ := ih hrest hm
        obtain ⟨l, hl, rfl⟩ := of_mem_componentsAlong hc
        have hlm := (mem_componentIn (hrest l hl)).1 hmc
        exact ⟨_, hc, (mem_componentIn (hrest l hl)).2 (hlm.trans hnm.symm)⟩
      · exact ih hrest hn
    · rcases List.mem_cons.1 hn with rfl | hn
      · exact ⟨_, List.mem_cons_self .., (mem_componentIn hk).2 ⟨.refl, .refl⟩⟩
      · obtain ⟨c, hc, hnc⟩ := ih hrest hn
        exact ⟨c, List.mem_cons_of_mem _ hc, hnc⟩

/-- A component is listed where no later one has a member in it, so that no two have one in common. -/
theorem pairwise_componentsAlong {ns : List String} (hns : ∀ n ∈ ns, n ∈ g.nodes) :
    (componentsAlong g.reachTable ns).Pairwise fun c c' => ∀ m ∈ c, m ∉ c' := by
  induction ns with
  | nil => exact .nil
  | cons k ns ih =>
    obtain ⟨hk, hrest⟩ := List.forall_mem_cons.1 hns
    unfold componentsAlong
    dsimp only
    split
    · exact ih hrest
    · rename_i hany
      refine List.pairwise_cons.2 ⟨fun c hc m hm hmc => hany ?_, ih hrest⟩
      obtain ⟨l, hl, rfl⟩ := of_mem_componentsAlong hc
      -- a member in common links the nodes of the two components
      have hkl : g.Linked k l := ((mem_componentIn hk).1 hm).trans ((mem_componentIn (hrest l hl)).1 hmc).symm
      exact List.any_eq_true.2 ⟨l, hl, List.contains_iff_mem.2 ((mem_componentIn hk).2 hkl)⟩

/-- Every component is that of some node. -/
theorem of_mem_components (hc : c ∈ g.components) :
    ∃ n ∈ g.nodes, c = componentIn g.reachTable n := by
  obtain ⟨n, hn, hc⟩ := of_mem_componentsAlong hc
  exact ⟨n, mem_finishOrder.1 hn, hc⟩

theorem exists_component (hn : n ∈ g.nodes) : ∃ c ∈ g.components, n ∈ c :=
  exists_componentsAlong (fun _ => mem_finishOrder.1) (mem_finishOrder.2 hn)

/-- The members of a component are linked, and whatever is linked to a member is one. -/
theorem mem_component_iff (hc : c ∈ g.components) (hn : n ∈ c) : m ∈ c ↔ g.Linked n m := by
  obtain ⟨k, hk, rfl⟩ := of_mem_components hc
  rw [mem_componentIn hk] at hn ⊢
  exact ⟨hn.symm.trans, hn.trans⟩

theorem mem_nodes_of_component (hc : c ∈ g.components) (hn : n ∈ c) : n ∈ g.nodes := by
  obtain ⟨k, hk, rfl⟩ := of_mem_components hc
  have hkn := (mem_componentIn hk).1 hn
  exact (leads_singleton.2 ⟨hk, hkn.1⟩).mem_nodes

theorem pairwise_components : g.components.Pairwise fun c c' => ∀ m ∈ c, m ∉ c' :=
  pairwise_componentsAlong fun _ => mem_finishOrder.1

theorem nodup_component (hc : c ∈ g.components) : c.Nodup := by
  obtain ⟨n, hn, rfl⟩ := of_mem_components hc
  unfold componentIn
  rw [get?_reachTable hn]
  exact (nodup_search _ _ _ .nil).filter _

end Digraph

end Dialogue
