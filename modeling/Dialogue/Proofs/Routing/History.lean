/-
Registries with a past. What is asked of a registry when messages are routed is answered from the flow
under each id alone. So two registries with the same flow under every id give the same lists and the
same answers from then on (`history_unseen`), however each of them came to its flows, and in whatever
order it has them listed, even if that order is another one before every message.

Registries with the same flow under every id are just those that list the same entries in some order
(`same_iff_perm`).
-/
import Dialogue.Proofs.Routing.Noninterference

namespace Dialogue

namespace Registry

variable {r r' r'' : Registry} {t : String} {f : Flow}

/-- The same flow under every id. -/
def Same (r r' : Registry) : Prop :=
  ∀ id, r.flow? id = r'.flow? id

theorem Same.refl (r : Registry) : r.Same r := fun _ => rfl

theorem Same.symm (h : r.Same r') : r'.Same r := fun id => (h id).symm

theorem Same.trans (h : r.Same r') (h' : r'.Same r'') : r.Same r'' := fun id => (h id).trans (h' id)

theorem flow?_eq_some {id : String} : r.flow? id = some f ↔ (id, f) ∈ r.flows :=
  ⟨Table.mem_of_get?, Table.get?_of_mem r.distinct⟩

theorem same_iff_perm : r.Same r' ↔ r.flows.Perm r'.flows := by
  have hnodup : ∀ r : Registry, r.flows.Nodup := fun r => List.Nodup.of_map _ r.distinct
  rw [List.perm_ext_iff_of_nodup (hnodup r) (hnodup r')]
  constructor
  · rintro h ⟨id, f⟩
    rw [← flow?_eq_some, ← flow?_eq_some, h id]
  · intro h id
    refine Option.ext fun f => ?_
    rw [flow?_eq_some, flow?_eq_some, h]

/-! ## Lists -/

theorem Same.activeFlows_eq (h : r.Same r') (t : String) : r.activeFlows t = r'.activeFlows t :=
  activeFlows_congr fun f _ => by rw [h f.id]

/-- The active flows of a tenant stand in strictly increasing order of their ids. -/
theorem activeFlows_increasing (r : Registry) (t : String) :
    (r.activeFlows t).Pairwise fun f g => f.id < g.id := by
  refine (r.activeFlows_sorted t).imp₂ (fun f g hle hne => ?_) (r.activeFlows_distinct t)
  rw [← String.not_le]
  intro hge
  exact hne (String.le_antisymm hle hge)

theorem mem_tenants : t ∈ r.tenants ↔ ∃ f, r.flow? f.id = some f ∧ f.tenantId = t := by
  unfold tenants
  rw [List.mem_mergeSort, List.mem_eraseDups, List.mem_map]
  constructor
  · rintro ⟨f, hf, ht⟩
    exact ⟨f, flow?_of_mem hf, ht⟩
  · rintro ⟨f, hf, ht⟩
    exact ⟨f, List.mem_map.2 ⟨_, flow?_eq_some.1 hf, rfl⟩, ht⟩

theorem nodup_eraseDups : ∀ l : List String, l.eraseDups.Nodup
  | [] => List.nodup_nil
  | a :: l => by
    rw [List.eraseDups_cons, List.nodup_cons]
    exact ⟨by simp, nodup_eraseDups (l.filter fun b => !b == a)⟩
termination_by l => l.length
decreasing_by exact Nat.lt_succ_of_le (List.length_filter_le _ _)

theorem tenants_increasing (r : Registry) : r.tenants.Pairwise (· < ·) := by
  have hsorted : r.tenants.Pairwise (· ≤ ·) := Text.pairwise_mergeSort (fun t => t) _
  have hnodup : r.tenants.Nodup :=
    (List.mergeSort_perm _ _).nodup_iff.2 (nodup_eraseDups _)
  refine hsorted.imp₂ (fun t t' hle hne => ?_) hnodup
  rw [← String.not_le]
  intro hge
  exact hne (String.le_antisymm hle hge)

theorem Same.tenants_eq (h : r.Same r') : r.tenants = r'.tenants := by
  refine Text.mergeSort_eq_of_perm ?_
  have hperm : r.flows.values.Perm r'.flows.values := (same_iff_perm.1 h).map _
  refine (List.perm_ext_iff_of_nodup (nodup_eraseDups _) (nodup_eraseDups _)).2 fun t => ?_
  rw [List.mem_eraseDups, List.mem_eraseDups]
  exact (hperm.map _).mem_iff

/-! ## Flows that come and go -/

theorem Same.register (h : r.Same r') (f : Flow) : (r.register f).Same (r'.register f) := by
  intro id
  rw [flow?_register, flow?_register, h id]

theorem Same.remove (h : r.Same r') (id : String) : (r.remove id).Same (r'.remove id) := by
  intro id'
  rw [flow?_remove, flow?_remove, h id']

theorem register_comm {f g : Flow} (h : f.id ≠ g.id) :
    ((r.register f).register g).Same ((r.register g).register f) := by
  intro id
  simp only [flow?_register]
  by_cases hf : id = f.id
  · have hg : id ≠ g.id := fun hg => h (hf.symm.trans hg)
    rw [if_neg hg, if_pos hf, if_pos hf]
  · rw [if_neg hf, if_neg hf]

/-- Registers flows one after another. -/
def registerAll (r : Registry) (flows : List Flow) : Registry :=
  flows.foldl register r

theorem Same.registerAll (h : r.Same r') (flows : List Flow) :
    (r.registerAll flows).Same (r'.registerAll flows) := by
  induction flows generalizing r r' with
  | nil => exact h
  | cons f flows ih => exact ih (h.register f)

/-- In which order flows with different ids are registered does not matter. -/
theorem registerAll_perm {flows flows' : List Flow} (h : flows.Perm flows')
    (hd : (flows.map (·.id)).Nodup) (r : Registry) :
    (r.registerAll flows).Same (r.registerAll flows') := by
  induction h generalizing r with
  | nil => exact .refl r
  | cons f _ ih =>
    rw [List.map_cons, List.nodup_cons] at hd
    exact ih hd.2 (r.register f)
  | swap f g flows =>
    simp only [List.map_cons, List.nodup_cons, List.mem_cons, not_or] at hd
    exact (register_comm hd.1.1).registerAll flows
  | trans h₁ _ ih₁ ih₂ =>
    exact (ih₁ hd r).trans (ih₂ ((h₁.map _).nodup_iff.1 hd) r)

end Registry

/-! ## Events -/

namespace Desk

variable {d d' : Desk}

/-- Two desks with one store, and the same flow under every id. -/
structure Alike (d d' : Desk) : Prop where
  registry : d.registry.Same d'.registry
  store : d.store = d'.store

theorem Alike.handle (h : Alike d d') (e : Event) :
    (d.handle e).1 = (d'.handle e).1 ∧ Alike (d.handle e).2 (d'.handle e).2 := by
  cases e with
  | register f => exact ⟨rfl, h.registry.register f, h.store⟩
  | remove id => exact ⟨rfl, h.registry.remove id, h.store⟩
  | message v =>
    have hprocess : v.process d.registry d.store = v.process d'.registry d'.store := by
      unfold Visit.process Registry.process
      rw [h.registry.activeFlows_eq, h.store]
    simp only [Desk.handle, hprocess]
    exact ⟨trivial, h.registry, rfl⟩
  | execute f v =>
    simp only [Desk.handle, h.store]
    exact ⟨trivial, h.registry, rfl⟩

/-- A run of events in which the flows may be listed in another order before every event. -/
inductive Runs : Desk → List Event → List Exchange → Desk → Prop
  | nil {d : Desk} : Runs d [] [] d
  | cons {d last : Desk} {r : Registry} {e : Event} {es : List Event} {xs : List Exchange}
      (listed : r.flows.Perm d.registry.flows)
      (rest : Runs (Desk.handle ⟨r, d.store⟩ e).2 es xs last) :
      Runs d (e :: es) ((Desk.handle ⟨r, d.store⟩ e).1 :: xs) last

theorem runs_run (d : Desk) (es : List Event) : Runs d es (d.run es).1 (d.run es).2 := by
  induction es generalizing d with
  | nil => exact .nil
  | cons e es ih => exact .cons (.refl _) (ih _)

theorem Alike.runs (h : Alike d d') {es : List Event} {xs xs' : List Exchange} {last last' : Desk}
    (hr : Runs d es xs last) (hr' : Runs d' es xs' last') : xs = xs' ∧ Alike last last' := by
  induction hr generalizing d' xs' last' with
  | nil =>
    cases hr'
    exact ⟨rfl, h⟩
  | @cons d last r e es xs listed rest ih =>
    cases hr' with
    | @cons _ _ r' _ _ xs' listed' rest' =>
      -- both are listed anew before the event, and still hold the same flows
      have hsame : r.Same r' := (Registry.same_iff_perm.2 listed).trans
        (h.registry.trans (Registry.same_iff_perm.2 listed').symm)
      have halike : Alike ⟨r, d.store⟩ ⟨r', d'.store⟩ := ⟨hsame, h.store⟩
      obtain ⟨hx, hnext⟩ := halike.handle e
      obtain ⟨hxs, hlast⟩ := ih hnext rest'
      exact ⟨by rw [hx, hxs], hlast⟩

theorem run_register (d : Desk) (flows : List Flow) :
    (d.run (flows.map .register)).2 = ⟨d.registry.registerAll flows, d.store⟩ := by
  induction flows generalizing d with
  | nil => rfl
  | cons f flows ih => exact ih _

/-- Two histories that end with the same flow under every id. In whatever order the two registries then
list their entries, a tenant has the same active flows in both, which are those of its flows that are
active, in strictly increasing order of their ids; the same tenants have flows, listed in strictly
increasing order; and all that happens later comes to the same, with the same suspensions in the end,
even if the entries are listed in another order before every event. Flows with different ids may be
registered in any order to that end. -/
theorem history_unseen (es es' : List Event)
    (h : ∀ id, (({} : Desk).run es).2.registry.flow? id = (({} : Desk).run es').2.registry.flow? id) :
    let r := (({} : Desk).run es).2.registry
    let r' := (({} : Desk).run es').2.registry
    (∀ q q' : Registry, q.flows.Perm r.flows → q'.flows.Perm r'.flows →
      (∀ t, q.activeFlows t = q'.activeFlows t ∧
        (q.activeFlows t).Pairwise (fun f g => f.id < g.id) ∧
        ∀ f, f ∈ q.activeFlows t ↔ r.flow? f.id = some f ∧ f.isActive = true ∧ f.tenantId = t) ∧
      q.tenants = q'.tenants ∧ q.tenants.Pairwise (· < ·) ∧
      ∀ t, t ∈ q.tenants ↔ ∃ f, r.flow? f.id = some f ∧ f.tenantId = t) ∧
    (∀ (s : SuspensionStore) later xs xs' d d', Runs ⟨r, s⟩ later xs d → Runs ⟨r', s⟩ later xs' d' →
      xs = xs' ∧ d.store = d'.store) ∧
    ∀ flows flows' : List Flow, flows.Perm flows' → (flows.map (·.id)).Nodup →
      ∀ id, (({} : Desk).run (flows.map .register)).2.registry.flow? id =
        (({} : Desk).run (flows'.map .register)).2.registry.flow? id := by
  intro r r'
  refine ⟨fun q q' hq hq' => ?_, fun s later xs xs' d d' hr hr' => ?_, fun flows flows' hp hd => ?_⟩
  · have hqr : q.Same r := Registry.same_iff_perm.2 hq
    have hqq : q.Same q' := hqr.trans (Registry.Same.trans h (Registry.same_iff_perm.2 hq').symm)
    refine ⟨fun t => ⟨hqq.activeFlows_eq t, q.activeFlows_increasing t, fun f => ?_⟩,
      hqq.tenants_eq, q.tenants_increasing, fun t => ?_⟩
    · rw [Registry.mem_activeFlows, hqr f.id]
    · rw [hqr.tenants_eq, Registry.mem_tenants]
  · have halike : Alike ⟨r, s⟩ ⟨r', s⟩ := ⟨h, rfl⟩
    obtain ⟨hx, hlast⟩ := halike.runs hr hr'
    exact ⟨hx, hlast.store⟩
  · rw [run_register, run_register]
    exact Registry.registerAll_perm hp hd _

/-- A flow that went and came again stands behind another one, and is found all the same. -/
theorem returned_unseen :
    let es : List Event := [.register (surveyOf "a"), .register (pollOf "a"), .remove "survey",
      .register (surveyOf "a")]
    let es' : List Event := [.register (surveyOf "a"), .register (pollOf "a")]
    let later : List Event := [.message (visitOf "a" "u" "go"), .message (visitOf "a" "u" "hi")]
    let d := (({} : Desk).run es).2
    let d' := (({} : Desk).run es').2
    d.registry.flows.keys ≠ d'.registry.flows.keys ∧
      (∀ id, d.registry.flow? id = d'.registry.flow? id) ∧
      (d.run later).1 = (d'.run later).1 ∧
      (d.run later).1.map (·.report.map (·.flowId)) = [some "poll", some "poll"] := by
  intro es es' later d d'
  have hsame : ∀ id, d.registry.flow? id = d'.registry.flow? id := by
    refine Registry.same_iff_perm.2 ?_
    exact List.Perm.swap _ _ _
  refine ⟨by decide, hsame, ?_, by cbv⟩
  exact ((history_unseen es es' hsame).2.1 d.store later _ _ _ _ (runs_run _ _) (runs_run _ _)).1

end Desk

end Dialogue
