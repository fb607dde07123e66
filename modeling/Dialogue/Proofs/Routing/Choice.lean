/-
Which flow a message goes to. In a store that works, a sender who is parked at a node of an active
flow goes on in that flow; a sender who is parked in none goes to the active flow with a trigger for
the message, the one whose id has the least bytes if there are several (`process_choice`). Whatever
the store does, at most one flow engages, and it is an active flow of the message's tenant.
-/
import Dialogue.Proofs.Routing.Route
import Dialogue.Proofs.Text.Bytes

namespace Dialogue

open Program

/-! ## The flows in question -/

/-- An active flow of a tenant. -/
def Registry.Serves (r : Registry) (tenantId : String) (f : Flow) : Prop :=
  r.flow? f.id = some f ∧ f.isActive = true ∧ f.tenantId = tenantId

/-- Of the active flows of a tenant with a trigger for a message, that with the least id. -/
structure Registry.FirstToAnswer (r : Registry) (tenantId body : String) (f : Flow) : Prop where
  serves : r.Serves tenantId f
  answers : f.Answers body
  least : ∀ g, r.Serves tenantId g → g.Answers body → Text.bytes f.id ≤ Text.bytes g.id

namespace Registry

variable {r : Registry} {t body : String} {f : Flow}

theorem find?_answers :
    (r.activeFlows t).find? (fun f => (f.triggerFor body).isSome) = some f ↔
      r.FirstToAnswer t body f := by
  rw [find?_least]
  constructor
  · rintro ⟨hf, hq, hle⟩
    refine ⟨mem_activeFlows.1 hf, Flow.isSome_triggerFor.1 hq, fun g hg hb => ?_⟩
    exact Text.bytes_le.2 (hle g (mem_activeFlows.2 hg) (Flow.isSome_triggerFor.2 hb))
  · intro h
    refine ⟨mem_activeFlows.2 h.serves, Flow.isSome_triggerFor.2 h.answers, fun g hg hb => ?_⟩
    exact Text.bytes_le.1 (h.least g (mem_activeFlows.1 hg) (Flow.isSome_triggerFor.1 hb))

theorem find?_answers_eq_none :
    (r.activeFlows t).find? (fun f => (f.triggerFor body).isSome) = none ↔
      ∀ g, r.Serves t g → ¬ g.Answers body := by
  rw [List.find?_eq_none]
  constructor
  · intro h g hg hb
    exact h g (mem_activeFlows.2 hg) (Flow.isSome_triggerFor.2 hb)
  · intro h g hg hb
    exact h g (mem_activeFlows.1 hg) (Flow.isSome_triggerFor.1 hb)

end Registry

/-! ## At most one flow engages -/

section

variable {flows : List Flow} {c : RunContext} {p : Partners}

/-- What comes of handing a message to some of these flows: none engages, or one does, and before
it nothing is done but to look for a suspension. -/
def OneEngages (flows : List Flow) (c : RunContext) (p : Partners) (s : World)
    (result : Option Report × World) : Prop :=
  ∃ s₁, s.Looked c s₁ ∧ (result = (none, s₁) ∨
    ∃ f ∈ flows, ∃ rep s', (f.receive c).run p s₁ = (rep, s') ∧ rep.outcome ≠ .notEngaged ∧
      result = (some rep, s'))

theorem routeByTrigger_engages {s s₁ : World} (hs : s.Looked c s₁) :
    OneEngages flows c p s ((routeByTrigger flows c).run p s₁) := by
  refine ⟨s₁, hs, ?_⟩
  cases hf : flows.find? (fun f => (f.triggerFor c.message.body).isSome) with
  | none => exact .inl (routeByTrigger_none hf)
  | some f =>
    obtain ⟨rep, s', hr⟩ : ∃ rep s', (f.receive c).run p s₁ = (rep, s') := ⟨_, _, rfl⟩
    refine .inr ⟨f, List.mem_of_find?_eq_some hf, rep, s', hr, ?_, routeByTrigger_some hf hr⟩
    intro he
    have hn : f.triggerFor c.message.body = none := ((receive_entered hr).2.2.1 he).2
    have hsome := List.find?_some hf
    rw [hn] at hsome
    cases hsome

theorem discardSuspension_asks (c : RunContext) (flowId : String) :
    (discardSuspension c flowId).Asks (Request.Looks c) := by
  unfold discardSuspension
  refine asks_bind (asks_warn rfl) fun _ => asks_bind (asks_request ⟨rfl, rfl⟩) fun a => ?_
  cases a with
  | ok _ => exact asks_pure _
  | error e => exact asks_warn rfl

theorem route_engages (flows : List Flow) (s : World) : OneEngages flows c p s ((route flows c).run p s) := by
  unfold route
  rw [run_bind, run_request]
  have hread : s.answer p (.readState c.message.tenantId c.message.userId) =
      (s.store.get c.message.tenantId c.message.userId, s) := rfl
  rw [hread]
  rcases s.store.get c.message.tenantId c.message.userId with e | _ | st
  · dsimp only
    rw [run_bind, run_tolerate]
    exact routeByTrigger_engages ⟨rfl, rfl, rfl, .inl rfl⟩
  · exact routeByTrigger_engages (.refl c s)
  · dsimp only
    cases hf : flows.find? (·.id == st.flowId) with
    | none =>
      dsimp only
      rw [run_bind]
      exact routeByTrigger_engages (run_looks p (discardSuspension_asks c _) _)
    | some f =>
      dsimp only
      rw [run_bind]
      rcases hr : (f.receive c).run p s with ⟨rep, s₂⟩
      dsimp only
      split
      · rename_i he
        -- the flow did not engage, so it did no more than look
        obtain ⟨-, hres⟩ := receive_notEngaged hr he
        have hs₂ := run_looks p (resumption_asks f c) s
        rw [hres] at hs₂
        exact routeByTrigger_engages hs₂
      · rename_i he
        exact ⟨s, .refl c s, .inr ⟨f, List.mem_of_find?_eq_some hf, rep, s₂, hr, he, rfl⟩⟩

/-! ## Which one -/

variable {s : World}

theorem routeByTrigger_eq_none : ((routeByTrigger flows c).run p s).1 = none ↔
    flows.find? (fun f => (f.triggerFor c.message.body).isSome) = none := by
  constructor
  · intro h
    cases hf : flows.find? (fun f => (f.triggerFor c.message.body).isSome) with
    | none => rfl
    | some f =>
      rw [routeByTrigger_some hf rfl] at h
      cases h
  · intro h
    rw [routeByTrigger_none h]

/-- Without a suspension the flow that is found by its trigger starts a new run. -/
theorem routeByTrigger_fresh (hw : s.store.Works) (he : s.entry c = none) {rep : Report}
    (h : ((routeByTrigger flows c).run p s).1 = some rep) :
    rep.resumed = false ∧ ∃ f, flows.find? (fun f => (f.triggerFor c.message.body).isSome) = some f ∧
      rep.flowId = f.id := by
  cases hf : flows.find? (fun f => (f.triggerFor c.message.body).isSome) with
  | none => cases (routeByTrigger_eq_none.2 hf).symm.trans h
  | some f =>
    rw [routeByTrigger_some hf rfl] at h
    cases h
    obtain ⟨hid, hres, -⟩ := receive_entered (f := f) (c := c) (p := p) (s := s) rfl
    refine ⟨?_, f, rfl, hid⟩
    rw [hres, resumption_none hw he]
    rfl

/-- Where the sender is parked in none of the flows, the triggers decide, and no suspension of the
sender is left to them. -/
theorem route_unparked (hw : s.store.Works)
    (h : ∀ st, s.entry c = some st → ∀ f ∈ flows, f.id ≠ st.flowId) : ∃ s₁ : World,
    s₁.store.Works ∧ s₁.entry c = none ∧
      (route flows c).run p s = (routeByTrigger flows c).run p s₁ := by
  cases he : s.entry c with
  | none => exact ⟨s, hw, he, route_fresh hw he⟩
  | some st =>
    have hf : flows.find? (·.id == st.flowId) = none :=
      List.find?_eq_none.2 fun f hf => by simpa using h st he f hf
    exact ⟨_, hw.drop _ _, World.entry_forget _ c, route_gone hw he hf⟩

/-- A sender who is parked at a node of one of the flows goes on in it. -/
theorem route_resumed (hw : s.store.Works) {st : Suspension} (he : s.entry c = some st) {f : Flow}
    (hf : flows.find? (·.id == st.flowId) = some f) {n : Node}
    (hn : f.node? st.currentNodeId = some n) :
    ∃ rep, ((route flows c).run p s).1 = some rep ∧ rep.flowId = f.id ∧ rep.resumed = true := by
  obtain ⟨rep, s', hr⟩ : ∃ rep s', (f.receive c).run p s = (rep, s') := ⟨_, _, rfl⟩
  obtain ⟨hid, hres, hne⟩ := receive_entered hr
  have hfst : f.id = st.flowId := by simpa using List.find?_some hf
  have htrue : rep.resumed = true := by
    rw [hres, resumption_live hw he hfst hn]
    rfl
  have hengaged : ¬ rep.outcome = .notEngaged := by
    intro h
    rw [(hne.1 h).1] at htrue
    cases htrue
  refine ⟨rep, ?_, hid, htrue⟩
  rw [route_parked hw he hf hr, if_neg hengaged]

/-- Where a message goes. In a store that works: a sender parked at a node of an active flow goes
on in that flow; for a sender parked in no active flow the flow with the least id out of those that
have a trigger for the message starts a new run, and there is no answer exactly if there is no such
flow. In every store: at most one flow engages, an active one of the tenant, and it is its report
that is given, which is never that of a flow which did not engage. -/
theorem process_choice (r : Registry) (c : RunContext) (p : Partners) (s : World) :
    (s.store.Works → ∀ st f n, s.entry c = some st → r.Serves c.message.tenantId f →
      f.id = st.flowId → f.node? st.currentNodeId = some n →
      ∃ rep, ((r.process c).run p s).1 = some rep ∧ rep.flowId = f.id ∧ rep.resumed = true) ∧
    (s.store.Works →
      (∀ st, s.entry c = some st → ∀ f, r.Serves c.message.tenantId f → f.id ≠ st.flowId) →
      (∀ rep, ((r.process c).run p s).1 = some rep → rep.resumed = false ∧
        ∃ f, r.FirstToAnswer c.message.tenantId c.message.body f ∧ rep.flowId = f.id) ∧
      (((r.process c).run p s).1 = none ↔
        ∀ f, r.Serves c.message.tenantId f → ¬ f.Answers c.message.body)) ∧
    ∃ s₁, s.Looked c s₁ ∧ ((r.process c).run p s = (none, s₁) ∨
      ∃ f, r.Serves c.message.tenantId f ∧ ∃ rep s', (f.receive c).run p s₁ = (rep, s') ∧
        rep.outcome ≠ .notEngaged ∧ (r.process c).run p s = (some rep, s')) := by
  unfold Registry.process
  refine ⟨fun hw st f n he hf hid hn => ?_, fun hw hun => ?_, ?_⟩
  · exact route_resumed hw he (Registry.find?_id.2 ⟨Registry.mem_activeFlows.2 hf, hid⟩) hn
  · have hun' : ∀ st, s.entry c = some st → ∀ f ∈ r.activeFlows c.message.tenantId,
        f.id ≠ st.flowId := fun st he f hf => hun st he f (Registry.mem_activeFlows.1 hf)
    obtain ⟨s₁, hw₁, he₁, hrun⟩ := route_unparked (p := p) hw hun'
    rw [hrun]
    refine ⟨fun rep h => ?_, ?_⟩
    · obtain ⟨hres, f, hf, hid⟩ := routeByTrigger_fresh hw₁ he₁ h
      exact ⟨hres, f, Registry.find?_answers.1 hf, hid⟩
    · rw [routeByTrigger_eq_none, Registry.find?_answers_eq_none]
  · obtain ⟨s₁, hs₁, h | ⟨f, hf, h⟩⟩ :=
      route_engages (c := c) (p := p) (r.activeFlows c.message.tenantId) s
    · exact ⟨s₁, hs₁, .inl h⟩
    · exact ⟨s₁, hs₁, .inr ⟨f, Registry.mem_activeFlows.1 hf, h⟩⟩

end

/-- A world in which the sender of the greeting is parked at `w`. -/
def parkedAtW : World where
  store := ({} : SuspensionStore).put "t1" "u1" ⟨"survey", "w", "t1", "u1", .epoch⟩ 1000

/-- The greeting starts `survey`, and goes on in it when the sender is parked there. -/
theorem survey_choice :
    (∃ rep, ((surveys.process sayGo).run attentive parkedAtW).1 = some rep ∧ rep.flowId = "survey" ∧
      rep.resumed = true) ∧
    (∃ rep, ((surveys.process sayGo).run attentive { store := {} }).1 = some rep ∧
      rep.resumed = false ∧ ∃ f, surveys.FirstToAnswer "t1" "go" f ∧ rep.flowId = f.id) := by
  have hserves : surveys.Serves "t1" survey := ⟨by cbv, rfl, rfl⟩
  have hanswers : survey.Answers "go" := Flow.isSome_triggerFor.1 (by cbv)
  constructor
  · exact (process_choice surveys sayGo attentive parkedAtW).1 ⟨rfl, rfl⟩
      ⟨"survey", "w", "t1", "u1", .epoch⟩ survey (.waitForInput "w") (by cbv) hserves rfl (by cbv)
  · obtain ⟨hsome, hnone⟩ := (process_choice surveys sayGo attentive { store := {} }).2.1 ⟨rfl, rfl⟩
      (fun st h => by cases h)
    cases h : ((surveys.process sayGo).run attentive { store := {} }).1 with
    | none => exact absurd hanswers (hnone.1 h survey hserves)
    | some rep => exact ⟨rep, rfl, hsome rep h⟩

end Dialogue
