/-
The active flows of a tenant: which they are, that an id names at most one of them, that the first of
them with some property is the one with the least id, and that their list depends on nothing else.
-/
import Dialogue.Proofs.Text.Bytes
import Dialogue.Routing.Registry

namespace Dialogue

namespace Registry

variable {r : Registry} {t : String} {f g : Flow}

/-- The registry holds a flow under its own id only. -/
theorem flow?_of_mem (h : f ∈ r.flows.values) : r.flow? f.id = some f := by
  obtain ⟨⟨key, g⟩, hg, rfl⟩ := List.mem_map.1 h
  have hk : key = g.id := r.keyed _ hg
  rw [hk] at hg
  exact Table.get?_of_mem r.distinct hg

theorem mem_activeFlows :
    f ∈ r.activeFlows t ↔ r.flow? f.id = some f ∧ f.isActive = true ∧ f.tenantId = t := by
  unfold activeFlows
  rw [List.mem_mergeSort, List.mem_filter, Bool.and_eq_true, beq_iff_eq]
  constructor
  · rintro ⟨hf, ha, ht⟩
    exact ⟨flow?_of_mem hf, ha, ht⟩
  · rintro ⟨hf, ha, ht⟩
    exact ⟨List.mem_map.2 ⟨_, Table.mem_of_get? hf, rfl⟩, ha, ht⟩

/-- An id names at most one active flow. -/
theorem eq_of_id_eq (hf : f ∈ r.activeFlows t) (hg : g ∈ r.activeFlows t) (h : f.id = g.id) :
    f = g := by
  have h1 : r.flow? f.id = some f := (mem_activeFlows.1 hf).1
  have h2 : r.flow? g.id = some g := (mem_activeFlows.1 hg).1
  rw [h] at h1
  exact Option.some.inj (h1.symm.trans h2)

theorem activeFlows_sorted (r : Registry) (t : String) :
    (r.activeFlows t).Pairwise fun f g => f.id ≤ g.id :=
  Text.pairwise_mergeSort Flow.id _

/-- No two active flows have one id. -/
theorem activeFlows_distinct (r : Registry) (t : String) :
    (r.activeFlows t).Pairwise fun f g => f.id ≠ g.id := by
  have hkeys : r.flows.values.map (·.id) = r.flows.keys := by
    unfold Table.values Table.keys
    rw [List.map_map]
    exact List.map_congr_left fun p hp => (r.keyed p hp).symm
  have hall : r.flows.values.Pairwise fun f g => f.id ≠ g.id := by
    refine List.pairwise_map.1 ?_
    rw [hkeys]
    exact r.distinct
  unfold activeFlows
  exact (List.mergeSort_perm _ _).symm.pairwise (hall.filter _) fun h => Ne.symm h

/-- The active flow with an id. -/
theorem find?_id {id : String} :
    (r.activeFlows t).find? (·.id == id) = some f ↔ f ∈ r.activeFlows t ∧ f.id = id := by
  constructor
  · intro h
    exact ⟨List.mem_of_find?_eq_some h, by simpa using List.find?_some h⟩
  · rintro ⟨hf, hid⟩
    cases h : (r.activeFlows t).find? (·.id == id) with
    | none => exact absurd (beq_iff_eq.2 hid) (List.find?_eq_none.1 h f hf)
    | some g =>
      have hg : g.id = id := by simpa using List.find?_some h
      rw [eq_of_id_eq (List.mem_of_find?_eq_some h) hf (hg.trans hid.symm)]

/-- The first active flow with a property is that with the least id. -/
theorem find?_least {q : Flow → Bool} :
    (r.activeFlows t).find? q = some f ↔
      f ∈ r.activeFlows t ∧ q f = true ∧ ∀ g ∈ r.activeFlows t, q g = true → f.id ≤ g.id := by
  have first : ∀ f, (r.activeFlows t).find? q = some f →
      ∀ g ∈ r.activeFlows t, q g = true → f.id ≤ g.id := by
    intro f h g hg hq
    obtain ⟨-, as, bs, hl, hn⟩ := List.find?_eq_some_iff_append.1 h
    have hs : (as ++ f :: bs).Pairwise fun f g => f.id ≤ g.id := hl ▸ r.activeFlows_sorted t
    rw [hl] at hg
    rcases List.mem_append.1 hg with ha | hb
    · exact absurd hq (by simpa using hn g ha)
    · rcases List.mem_cons.1 hb with rfl | hb
      · exact String.le_refl _
      · exact (List.pairwise_cons.1 (List.pairwise_append.1 hs).2.1).1 g hb
  constructor
  · intro h
    exact ⟨List.mem_of_find?_eq_some h, List.find?_some h, first f h⟩
  · rintro ⟨hf, hq, hle⟩
    cases h : (r.activeFlows t).find? q with
    | none => exact absurd hq (List.find?_eq_none.1 h f hf)
    | some g =>
      have hg : g ∈ r.activeFlows t := List.mem_of_find?_eq_some h
      have hid : g.id = f.id :=
        String.le_antisymm (first g h f hf hq) (hle g hg (List.find?_some h))
      rw [eq_of_id_eq hg hf hid]

/-! ## Flows that come and go -/

theorem flow?_register {id : String} : (r.register f).flow? id = if id = f.id then some f else r.flow? id :=
  Table.get?_insert r.flows f.id f id

theorem flow?_remove {gone id : String} :
    (r.remove gone).flow? id = if id = gone then none else r.flow? id :=
  Table.get?_erase r.flows gone id

/-- A flow stands under its own id. -/
theorem id_of_flow? {id : String} (h : r.flow? id = some f) : f.id = id :=
  (r.keyed _ (Table.mem_of_get? h)).symm

/-- The list of a tenant's active flows depends on nothing but what these flows are. -/
theorem activeFlows_congr {r r' : Registry} {t : String}
    (h : ∀ f : Flow, f.tenantId = t → (r.flow? f.id = some f ↔ r'.flow? f.id = some f)) :
    r.activeFlows t = r'.activeFlows t := by
  have hnodup : ∀ r : Registry, (r.activeFlows t).Nodup := fun r =>
    (r.activeFlows_distinct t).imp fun hne hfg => hne (congrArg Flow.id hfg)
  have hmem : ∀ f, f ∈ r.activeFlows t ↔ f ∈ r'.activeFlows t := by
    intro f
    rw [mem_activeFlows, mem_activeFlows]
    constructor
    · rintro ⟨hf, ha, ht⟩
      exact ⟨(h f ht).1 hf, ha, ht⟩
    · rintro ⟨hf, ha, ht⟩
      exact ⟨(h f ht).2 hf, ha, ht⟩
  have hperm : (r.activeFlows t).Perm (r'.activeFlows t) :=
    (List.perm_ext_iff_of_nodup (hnodup r) (hnodup r')).2 hmem
  refine hperm.eq_of_pairwise ?_ (r.activeFlows_sorted t) (r'.activeFlows_sorted t)
  intro f g hf hg hfg hgf
  exact eq_of_id_eq hf ((hmem g).2 hg) (String.le_antisymm hfg hgf)

end Registry

end Dialogue
