/-
Messages at a desk, one after another. A message goes on behind a suspension exactly if it finds one
of its sender at a node of an active flow of its tenant (`process_resumed`), and what it leaves
behind is what its report tells (`process_entry`).
-/
import Dialogue.Proofs.Routing.Sender
import Dialogue.Routing.Desk

namespace Dialogue

open Program

/-! ## Stores that work -/

theorem World.answer_works (p : Partners) {s : World} (h : s.store.Works) (r : Request) :
    (s.answer p r).2.store.Works := by
  induction r using Request.store_cases with
  | storeless r hr => rw [World.answer_store p s hr.spares]; exact h
  | read t u => exact h
  | write t u st ttl => exact h.set t u st ttl
  | drop t u => exact h.delete t u

/-- No program keeps a store from working. -/
theorem Program.run_works {α : Type} (p : Partners) (x : Program α) {s : World} (h : s.store.Works) :
    (x.run p s).2.store.Works :=
  run_relates (R := fun s t => s.store.Works → t.store.Works) (fun _ => id)
    (fun _ _ _ h h' hs => h' (h hs)) (fun _ r _ hs => World.answer_works p hs r) x.asks_any s h

/-! ## Suspensions that a message goes on behind -/

/-- The suspension is at a node of an active flow of the tenant. -/
def Registry.Resumes (r : Registry) (tenantId : String) (st : Suspension) : Prop :=
  ∃ f n, r.Serves tenantId f ∧ f.id = st.flowId ∧ f.node? st.currentNodeId = some n

section

variable {f : Flow} {flows : List Flow} {c : RunContext} {p : Partners} {s : World}

/-- A flow goes on behind nothing but a suspension of the sender at one of its nodes. -/
theorem resumption_isSome (hw : s.store.Works) (h : ((f.resumption c).run p s).1.isSome = true) :
    ∃ st n, s.entry c = some st ∧ st.flowId = f.id ∧ f.node? st.currentNodeId = some n := by
  rw [resumption_run hw] at h
  cases hf : (s.entry c).filter (·.flowId == f.id) with
  | none => rw [hf] at h; cases h
  | some st =>
    rw [hf] at h
    obtain ⟨he, hid⟩ := Option.filter_eq_some_iff.1 hf
    cases hn : f.node? st.currentNodeId with
    | none => simp only [hn] at h; cases h
    | some n => exact ⟨st, n, he, by simpa using hid, hn⟩

/-- A world in which the suspension of the sender was looked for has no other one. -/
theorem World.Looked.entry {t : World} (h : s.Looked c t) {st : Suspension}
    (ht : t.entry c = some st) : s.entry c = some st := by
  unfold World.entry at ht ⊢
  rcases h.store with hs | hs
  · rw [← hs]; exact ht
  · rw [hs, World.forget_store, SuspensionStore.peek_drop] at ht
    cases ht

theorem World.Looked.works {t : World} (h : s.Looked c t) (hw : s.store.Works) : t.store.Works := by
  rcases h.store with hs | hs
  · rw [hs]; exact hw
  · rw [hs]; exact hw.drop _ _

variable {r : Registry}

/-- In a store that works: a message is answered by a flow that goes on behind a suspension exactly if
its sender has one in that flow, at one of its nodes, and the flow is an active one of the tenant. -/
theorem process_resumed (hw : s.store.Works) (id : String) :
    (∃ rep, ((r.process c).run p s).1 = some rep ∧ rep.flowId = id ∧ rep.resumed = true) ↔
      ∃ st, s.entry c = some st ∧ st.flowId = id ∧ r.Resumes c.message.tenantId st := by
  constructor
  · rintro ⟨rep, hrep, rfl, hres⟩
    obtain ⟨s₁, hs₁, h | ⟨f, hf, rep', s', hr, -, h⟩⟩ :=
      route_engages (c := c) (p := p) (r.activeFlows c.message.tenantId) s
    · cases (congrArg Prod.fst h).symm.trans hrep
    · cases (congrArg Prod.fst h).symm.trans hrep
      obtain ⟨hid, hsome, -⟩ := receive_entered hr
      rw [hsome] at hres
      obtain ⟨st, n, he, hst, hn⟩ := resumption_isSome (hs₁.works hw) hres
      exact ⟨st, hs₁.entry he, hst.trans hid.symm, f, n, Registry.mem_activeFlows.1 hf, hst.symm, hn⟩
  · rintro ⟨st, he, rfl, f, n, hf, hid, hn⟩
    obtain ⟨rep, hrep, hflow, hres⟩ := route_resumed (p := p) hw he
      (Registry.find?_id.2 ⟨Registry.mem_activeFlows.2 hf, hid⟩) hn
    exact ⟨rep, hrep, hflow.trans hid, hres⟩

end

/-! ## One visit -/

namespace Visit

variable (v : Visit) (r : Registry) {s t : SuspensionStore}

/-- The suspension of the visit's sender. -/
def entry (s : SuspensionStore) : Option Suspension :=
  s.peek v.context.message.tenantId v.context.message.userId

/-- The suspension that a visit leaves behind, as its report tells. -/
def left (x : Exchange) : Option Suspension :=
  x.report.bind (·.parking v.context)

theorem process_eq (s : SuspensionStore) : v.process r s =
    let w := (r.process v.context).run v.partners { store := s }
    (⟨w.1, w.2.log⟩, w.2.store) := rfl

theorem process_frame {key : String} (hk : key ≠ v.key) (s : SuspensionStore) :
    s.AgreeAt key (v.process r s).2 :=
  run_frame (process_asks r v.context) hk { store := s }

theorem process_agree (h : s.AgreeAt v.key t) : (v.process r s).1 = (v.process r t).1 ∧
    (v.process r s).2.AgreeAt v.key (v.process r t).2 := by
  obtain ⟨hrep, hlog, hst⟩ := run_agree (p := v.partners) (process_asks r v.context)
    (s := { store := s }) (t := { store := t }) rfl h
  rw [process_eq v r s, process_eq v r t]
  refine ⟨?_, hst⟩
  dsimp only
  rw [hrep, hlog]

theorem receive_frame (f : Flow) {key : String} (hk : key ≠ v.key) (s : SuspensionStore) :
    s.AgreeAt key (v.receive f s).2 :=
  run_frame (receive_asks f v.context) hk { store := s }

theorem receive_agree (f : Flow) (h : s.AgreeAt v.key t) : (v.receive f s).1 = (v.receive f t).1 ∧
    (v.receive f s).2.AgreeAt v.key (v.receive f t).2 := by
  obtain ⟨hrep, hlog, hst⟩ := run_agree (p := v.partners) (receive_asks f v.context)
    (s := { store := s }) (t := { store := t }) rfl h
  exact ⟨congrArg₂ Exchange.mk (congrArg some hrep) hlog, hst⟩

theorem process_filed (h : s.Filed) : (v.process r s).2.Filed :=
  run_filed (process_asks r v.context) (s := { store := s }) h

theorem receive_filed (f : Flow) (h : s.Filed) : (v.receive f s).2.Filed :=
  run_filed (receive_asks f v.context) (s := { store := s }) h

theorem process_works (h : s.Works) : (v.process r s).2.Works :=
  run_works v.partners _ (s := { store := s }) h

theorem receive_works (f : Flow) (h : s.Works) : (v.receive f s).2.Works :=
  run_works v.partners _ (s := { store := s }) h

/-- What a visit leaves behind is what its report tells, and nothing of what it found. -/
theorem process_entry (h : s.Works) (ht : 0 < v.context.config.suspensionTtl) :
    v.entry (v.process r s).2 = v.left (v.process r s).1 :=
  route_entry (s := { store := s }) h ht rfl

end Visit

/-! ## Many events -/

namespace Desk

theorem run_append (d : Desk) (es es' : List Event) : d.run (es ++ es') =
    ((d.run es).1 ++ ((d.run es).2.run es').1, ((d.run es).2.run es').2) := by
  induction es generalizing d with
  | nil => rfl
  | cons e es ih =>
    simp only [List.cons_append, run, ih]

/-- What every event keeps is kept by every run. -/
theorem run_induction {P : Desk → Prop} (h : ∀ d e, P d → P (d.handle e).2) {d : Desk} (hd : P d)
    (es : List Event) : P (d.run es).2 := by
  induction es generalizing d with
  | nil => exact hd
  | cons e es ih => exact ih (h d e hd)

theorem handle_filed (d : Desk) (e : Event) (h : d.store.Filed) : (d.handle e).2.store.Filed := by
  cases e with
  | register f => exact h
  | remove id => exact h
  | message v => exact v.process_filed d.registry h
  | execute f v => exact v.receive_filed f h

theorem handle_works (d : Desk) (e : Event) (h : d.store.Works) : (d.handle e).2.store.Works := by
  cases e with
  | register f => exact h
  | remove id => exact h
  | message v => exact v.process_works d.registry h
  | execute f v => exact v.receive_works f h

/-! ## Many visits -/

/-- Routes visits one after another. -/
def serve (d : Desk) (vs : List Visit) : List Exchange × Desk :=
  d.run (vs.map .message)

theorem serve_registry (d : Desk) (vs : List Visit) : (d.serve vs).2.registry = d.registry := by
  unfold serve
  induction vs generalizing d with
  | nil => rfl
  | cons v vs ih => exact ih _

theorem serve_concat (d : Desk) (vs : List Visit) (v : Visit) : d.serve (vs ++ [v]) =
    ((d.serve vs).1 ++ [(v.process d.registry (d.serve vs).2.store).1],
      ⟨d.registry, (v.process d.registry (d.serve vs).2.store).2⟩) := by
  have hone : ∀ e : Desk, e.run [.message v] =
      ([(v.process e.registry e.store).1], ⟨e.registry, (v.process e.registry e.store).2⟩) :=
    fun _ => rfl
  have hregistry := d.serve_registry vs
  unfold serve at hregistry ⊢
  rw [List.map_append, run_append]
  show ((d.run _).1 ++ ((d.run _).2.run [.message v]).1, ((d.run _).2.run [.message v]).2) = _
  rw [hone, hregistry]

end Desk

end Dialogue
