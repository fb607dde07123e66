/-
What a depth-first search finds: exactly the nodes that paths lead to from the nodes it is started
with (`Digraph.mem_reachable`).

Completeness needs no path: what the search has visited in the end holds the nodes it was told to
enter, and with each node that it visited itself the ends of the arcs that leave it (`search_closed`).
-/
import Dialogue.Validation.Digraph

namespace Dialogue.Digraph

/-- A path leads to a node from one of the nodes given. -/
inductive Leads (g : Digraph) (starts : List String) : String → Prop
  | start {n} : n ∈ starts → n ∈ g.nodes → Leads g starts n
  | arc {a b} : Leads g starts a → (a, b) ∈ g.arcs → b ∈ g.nodes → Leads g starts b

variable {g : Digraph} {starts : List String}

theorem mem_successors {a b : String} : b ∈ g.successors a ↔ (a, b) ∈ g.arcs := by
  unfold successors
  rw [List.mem_reverse, List.mem_map]
  constructor
  · rintro ⟨⟨a', b'⟩, h, rfl⟩
    obtain ⟨h, ha⟩ := List.mem_filter.1 h
    rw [← beq_iff_eq.1 ha]
    exact h
  · intro h
    exact ⟨(a, b), List.mem_filter.2 ⟨h, beq_self_eq_true a⟩, rfl⟩

/-- A search visits only what a path leads to, if that is all it has visited and is told to enter. -/
theorem search_sound (tasks : List Task) (visited left : List String)
    (hv : ∀ n ∈ visited, g.Leads starts n)
    (ht : ∀ n, .enter n ∈ tasks → n ∈ g.nodes → g.Leads starts n) :
    ∀ n ∈ (g.search tasks visited left).1, g.Leads starts n := by
  induction tasks, visited, left using search.induct (g := g) with
  | case1 visited left =>
    rw [search]
    exact hv
  | case2 n tasks visited left ih =>
    rw [search]
    exact ih hv fun m hm => ht m (List.mem_cons_of_mem _ hm)
  | case3 n tasks visited left hn ih =>
    have hlead : g.Leads starts n := ht n (List.mem_cons_self ..) hn.1
    rw [search, dif_pos hn]
    refine ih (List.forall_mem_cons.2 ⟨hlead, hv⟩) fun m hm hmn => ?_
    rcases List.mem_append.1 hm with hm | hm
    · obtain ⟨m', hm', he⟩ := List.mem_map.1 hm
      cases he
      exact .arc hlead (mem_successors.1 hm') hmn
    · exact ht m (List.mem_cons_of_mem _ (by simpa using hm)) hmn
  | case4 n tasks visited left hn ih =>
    rw [search, dif_neg hn]
    exact ih hv fun m hm => ht m (List.mem_cons_of_mem _ hm)

/-- A search forgets no node that it visited, enters the nodes that it is told to, and with every node
that it enters the ends of the arcs that leave it. -/
theorem search_closed (tasks : List Task) (visited left : List String) :
    (∀ n ∈ visited, n ∈ (g.search tasks visited left).1) ∧
    (∀ n, .enter n ∈ tasks → n ∈ g.nodes → n ∈ (g.search tasks visited left).1) ∧
    ∀ a ∈ (g.search tasks visited left).1, a ∉ visited → ∀ b, (a, b) ∈ g.arcs → b ∈ g.nodes →
      b ∈ (g.search tasks visited left).1 := by
  induction tasks, visited, left using search.induct (g := g) with
  | case1 visited left =>
    rw [search]
    refine ⟨fun _ hn => hn, fun n hn => ?_, fun a ha hna => absurd ha hna⟩
    cases hn
  | case2 n tasks visited left ih =>
    rw [search]
    exact ⟨ih.1, fun m hm => ih.2.1 m (by simpa using hm), ih.2.2⟩
  | case3 n tasks visited left hn ih =>
    obtain ⟨hv, ht, hc⟩ := ih
    rw [search, dif_pos hn]
    refine ⟨fun m hm => hv m (List.mem_cons_of_mem _ hm), fun m hm hmn => ?_, fun a ha hna b hab hb => ?_⟩
    · rcases List.mem_cons.1 hm with hm | hm
      · cases hm
        exact hv n (List.mem_cons_self ..)
      · exact ht m (List.mem_append_right _ (List.mem_cons_of_mem _ hm)) hmn
    · by_cases han : a = n
      · -- the search is told to enter the successors of `n` before all else
        subst han
        refine ht b (List.mem_append_left _ ?_) hb
        exact List.mem_map_of_mem (mem_successors.2 hab)
      · exact hc a ha (by simp [han, hna]) b hab hb
  | case4 n tasks visited left hn ih =>
    obtain ⟨hv, ht, hc⟩ := ih
    rw [search, dif_neg hn]
    refine ⟨hv, fun m hm hmn => ?_, hc⟩
    rcases List.mem_cons.1 hm with hm | hm
    · cases hm
      exact hv n (Decidable.byContradiction fun hnv => hn ⟨hmn, hnv⟩)
    · exact ht m hm hmn

/-- Reachable are exactly the nodes that a path leads to. -/
theorem mem_reachable {n : String} : n ∈ g.reachable starts ↔ g.Leads starts n := by
  unfold reachable
  constructor
  · refine search_sound _ _ _ (fun m hm => by cases hm) (fun m hm hmn => ?_) n
    obtain ⟨m', hm', he⟩ := List.mem_map.1 hm
    cases he
    exact .start hm' hmn
  · obtain ⟨-, ht, hc⟩ := g.search_closed (starts.map .enter) [] []
    intro h
    induction h with
    | start hn hmem => exact ht _ (List.mem_map_of_mem hn) hmem
    | arc _ hab hb ih => exact hc _ ih List.not_mem_nil _ hab hb

end Dialogue.Digraph
