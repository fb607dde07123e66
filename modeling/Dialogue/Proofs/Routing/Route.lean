/-
Routing as a sequence of runs of single flows, and what it makes of the sender's suspension. Every
suspension that routing comes upon is used up: by the flow it is in, or because that flow is not
there. So the one that is left, if any, is the one that the answer tells of (`message_entry`).
-/
import Dialogue.Proofs.Routing.Registry
import Dialogue.Proofs.Run.Entry
import Dialogue.Proofs.Run.Reach
import Dialogue.Routing.Route

namespace Dialogue

open Program

section

variable {f : Flow} {flows : List Flow} {c : RunContext} {p : Partners} {s s' : World}

/-! ## The steps of routing -/

theorem routeByTrigger_none (h : flows.find? (fun f => (f.triggerFor c.message.body).isSome) = none) :
    (routeByTrigger flows c).run p s = (none, s) := by
  unfold routeByTrigger; rw [h]; rfl

theorem routeByTrigger_some
    (h : flows.find? (fun f => (f.triggerFor c.message.body).isSome) = some f) {rep : Report}
    (hr : (f.receive c).run p s = (rep, s')) :
    (routeByTrigger flows c).run p s = (some rep, s') := by
  unfold routeByTrigger; rw [h]
  simp only [run_bind, hr, run_pure]

variable (hw : s.store.Works)
include hw

/-- Without a suspension of the sender the triggers decide. -/
theorem route_fresh (he : s.entry c = none) :
    (route flows c).run p s = (routeByTrigger flows c).run p s := by
  unfold route
  simp only [run_bind, run_request]
  rw [World.answer_read c p hw, he]

/-- A suspension in a flow that is not among these is discarded. -/
theorem route_gone {st : Suspension} (he : s.entry c = some st)
    (hf : flows.find? (·.id == st.flowId) = none) : (route flows c).run p s =
      (routeByTrigger flows c).run p ((s.warned (.suspendedFlowGone st.flowId)).forget c) := by
  unfold route discardSuspension
  simp only [run_bind, run_request]
  rw [World.answer_read c p hw, he]
  simp only [hf, run_bind, run_warn, run_request]
  rw [World.answer_drop c p (s := s.warned (.suspendedFlowGone st.flowId)) hw]
  rfl

/-- With a suspension in one of these flows, that flow goes first, and the triggers decide if it
does not engage. -/
theorem route_parked {st : Suspension} (he : s.entry c = some st)
    (hf : flows.find? (·.id == st.flowId) = some f) {rep : Report}
    (hr : (f.receive c).run p s = (rep, s')) : (route flows c).run p s =
      if rep.outcome = .notEngaged then (routeByTrigger flows c).run p s' else (some rep, s') := by
  unfold route
  simp only [run_bind, run_request]
  rw [World.answer_read c p hw, he]
  simp only [hf, run_bind, hr]
  split <;> rfl

/-! ## What is left of the sender's suspension -/

omit hw

/-- What routing comes to: no flow engages, and the sender has no suspension by then; or it is a flow
that answers, and by then the sender has no suspension, or the one that he came with and that is in this
flow. -/
def Settles (flows : List Flow) (c : RunContext) (p : Partners) (s : World)
    (result : Option Report × World) : Prop :=
  ∃ s₁ : World, s₁.store.Works ∧ (result = (none, s₁) ∧ s₁.entry c = none ∨
    ∃ f ∈ flows, ∃ rep s', (f.receive c).run p s₁ = (rep, s') ∧ result = (some rep, s') ∧
      (s₁.entry c = none ∨ s₁ = s ∧ ∃ st, s.entry c = some st ∧ st.flowId = f.id))

theorem routeByTrigger_settles {s₁ : World} (hw : s₁.store.Works) (he : s₁.entry c = none) :
    Settles flows c p s ((routeByTrigger flows c).run p s₁) := by
  refine ⟨s₁, hw, ?_⟩
  cases hf : flows.find? (fun f => (f.triggerFor c.message.body).isSome) with
  | none => exact .inl ⟨routeByTrigger_none hf, he⟩
  | some f =>
    exact .inr ⟨f, List.mem_of_find?_eq_some hf, _, _, rfl, routeByTrigger_some hf rfl, .inl he⟩

/-- Every suspension that routing comes upon is used up, by the flow it is in or for want of it. -/
theorem route_settles (flows : List Flow) (hw : s.store.Works) : Settles flows c p s ((route flows c).run p s) := by
  cases he : s.entry c with
  | none =>
    rw [route_fresh hw he]
    exact routeByTrigger_settles hw he
  | some st =>
    cases hf : flows.find? (·.id == st.flowId) with
    | none =>
      rw [route_gone hw he hf]
      exact routeByTrigger_settles (hw.drop _ _) (World.entry_forget _ c)
    | some f =>
      have hid : f.id = st.flowId := by simpa using List.find?_some hf
      obtain ⟨rep, s₁, hr⟩ : ∃ rep s₁, (f.receive c).run p s = (rep, s₁) := ⟨_, _, rfl⟩
      rw [route_parked hw he hf hr]
      split
      · rename_i hne
        -- the suspension was in `f`, so nothing of it is left
        refine routeByTrigger_settles (receive_works hw hr) ?_
        cases he₁ : s₁.entry c with
        | none => rfl
        | some st' =>
          rcases receive_left hw hr he₁ with hp | ⟨-, hst, hother⟩
          · rw [(receive_notEngaged hr hne).1] at hp
            cases hp
          · cases he.symm.trans hst
            exact absurd hid.symm hother
      · exact ⟨s, hw, .inr ⟨f, List.mem_of_find?_eq_some hf, rep, s₁, hr, rfl,
          .inr ⟨rfl, st, he, hid.symm⟩⟩⟩

theorem route_entry (hw : s.store.Works) (ht : 0 < c.config.suspensionTtl) {ans : Option Report}
    (h : (route flows c).run p s = (ans, s')) : s'.entry c = ans.bind (·.parking c) := by
  obtain ⟨s₁, hw₁, ⟨hrun, hnone⟩ | ⟨f, -, rep, s₂, hr, hrun, hs₁⟩⟩ :=
    route_settles flows (c := c) (p := p) hw
  · cases hrun.symm.trans h
    exact hnone
  · cases hrun.symm.trans h
    have hfilter : (s₁.entry c).filter (·.flowId != f.id) = none := by
      rcases hs₁ with hnone | ⟨rfl, st, he, hid⟩
      · rw [hnone, Option.filter_none]
      · rw [he, Option.filter_some_neg (by simp [hid])]
    rw [receive_entry hw₁ ht hr, hfilter]
    exact Option.or_none ..

/-- What one message does to the sender's suspension, in a store that works. In a single flow: the
suspension that the report tells of is there afterwards; if it tells of none, a suspension in this
flow is gone, and with any other the store is as it was. With routing: the suspension that the
answer tells of is there afterwards, and no other. -/
theorem message_entry {c : RunContext} {p : Partners} {s : World} (hw : s.store.Works)
    (ht : 0 < c.config.suspensionTtl) :
    (∀ (f : Flow) rep s', (f.receive c).run p s = (rep, s') →
      rep.flowId = f.id ∧
      s'.entry c = (rep.parking c).or ((s.entry c).filter (·.flowId != f.id)) ∧
      (rep.parking c = none → (∀ st, s.entry c = some st → st.flowId ≠ f.id) →
        s'.store = s.store)) ∧
    ∀ (r : Registry) ans s', (r.process c).run p s = (ans, s') →
      s'.entry c = ans.bind (·.parking c) := by
  refine ⟨fun f rep s' h => ?_, fun r ans s' h => route_entry hw ht h⟩
  obtain ⟨hid, hs⟩ := receive_store hw h
  refine ⟨hid, receive_entry hw ht h, fun hp hother => ?_⟩
  rw [hs, hp, World.claimed_eq_self s c hother]
  rfl

end

/-- The registry with `survey` as its only flow. -/
def surveys : Registry :=
  Registry.empty.register survey

/-- After the greeting the sender is parked at `w`. -/
theorem survey_entry : ({} : SuspensionStore).Works ∧ ∃ ans s',
    (surveys.process sayGo).run attentive { store := {} } = (ans, s') ∧
      s'.entry sayGo = some ⟨"survey", "w", "t1", "u1", .epoch⟩ := by
  have hw : ({} : SuspensionStore).Works := ⟨rfl, rfl⟩
  refine ⟨hw, _, _, rfl, ?_⟩
  rw [(message_entry (c := sayGo) (p := attentive) hw (by decide)).2 _ _ _ rfl]
  cbv

end Dialogue
