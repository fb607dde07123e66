/-
A suspension at a node that is gone. The flow it is in discards it and then tries its own triggers,
before the flows are searched in the order of their ids. So the message is answered as if there had
been no suspension, unless that flow has a trigger for the message and another flow, with a lesser
id, has one too: then the two runs are answered by different flows (`process_stale`).

The two runs are compared up to their warnings, since the discarded suspension is warned of.
-/
import Dialogue.Proofs.Routing.Choice

namespace Dialogue

open Program

variable {r : Registry} {c : RunContext} {p : Partners} {s : World} {st : Suspension} {f : Flow}

/-- A flow that finds no node to go on behind does the same in worlds that differ only in their
warnings. -/
theorem receive_unresumed {s t s₁ t₁ : World} (hs : (f.resumption c).run p s = (none, s₁))
    (ht : (f.resumption c).run p t = (none, t₁)) (h : s₁.muted = t₁.muted) :
    ((f.receive c).run p s).1 = ((f.receive c).run p t).1 ∧
      ((f.receive c).run p s).2.muted = ((f.receive c).run p t).2.muted := by
  unfold Flow.receive
  rw [run_bind, run_bind, hs, ht]
  exact run_muted p _ h

/-! ## The two runs -/

/-- If the flow of a stale suspension has a trigger for the message, it is the one to answer. -/
theorem process_of_answers (hw : s.store.Works) (he : s.entry c = some st)
    (hf : f ∈ r.activeFlows c.message.tenantId) (hid : f.id = st.flowId)
    (ha : f.Answers c.message.body) : ∃ rep s', (f.receive c).run p s = (rep, s') ∧
      rep.flowId = f.id ∧ (r.process c).run p s = (some rep, s') := by
  obtain ⟨rep, s', hr⟩ : ∃ rep s', (f.receive c).run p s = (rep, s') := ⟨_, _, rfl⟩
  obtain ⟨hflow, -, hiff⟩ := receive_entered hr
  have hne : ¬ rep.outcome = .notEngaged := by
    intro hne
    have hnone := (hiff.1 hne).2
    rw [← Flow.isSome_triggerFor, hnone] at ha
    cases ha
  refine ⟨rep, s', hr, hflow, ?_⟩
  unfold Registry.process
  rw [route_parked hw he (Registry.find?_id.2 ⟨hf, hid⟩) hr, if_neg hne]

/-- Otherwise the stale suspension is discarded, and the triggers of the other flows decide. -/
theorem process_of_not_answers (hw : s.store.Works) (he : s.entry c = some st)
    (hf : f ∈ r.activeFlows c.message.tenantId) (hid : f.id = st.flowId)
    (hn : f.node? st.currentNodeId = none) (ha : ¬ f.Answers c.message.body) :
    (r.process c).run p s = (routeByTrigger (r.activeFlows c.message.tenantId) c).run p
      ((s.forget c).warned (.suspendedNodeGone st.currentNodeId)) := by
  have hres : (f.resumption c).run p s = _ := resumption_stale hw he hid hn
  obtain ⟨rep, s', hr⟩ : ∃ rep s', (f.receive c).run p s = (rep, s') := ⟨_, _, rfl⟩
  obtain ⟨-, hresumed, hiff⟩ := receive_entered hr
  have hnone : f.triggerFor c.message.body = none := by
    rw [← Option.not_isSome_iff_eq_none, Flow.isSome_triggerFor]
    exact ha
  have hne : rep.outcome = .notEngaged := hiff.2 ⟨by rw [hresumed, hres]; rfl, hnone⟩
  obtain ⟨-, hs'⟩ := receive_notEngaged hr hne
  cases hres.symm.trans hs'
  unfold Registry.process
  rw [route_parked hw he (Registry.find?_id.2 ⟨hf, hid⟩) hr, if_pos hne]

/-! ## Comparing them -/

/-- Where the flow of a stale suspension has no trigger for the message, or is the first to have one,
the suspension makes no difference but for warnings. -/
theorem process_stale_same (hw : s.store.Works) (he : s.entry c = some st)
    (hf : f ∈ r.activeFlows c.message.tenantId) (hid : f.id = st.flowId)
    (hn : f.node? st.currentNodeId = none)
    (h : f.Answers c.message.body → r.FirstToAnswer c.message.tenantId c.message.body f) :
    ((r.process c).run p s).1 = ((r.process c).run p (s.forget c)).1 ∧
      ((r.process c).run p s).2.muted = ((r.process c).run p (s.forget c)).2.muted := by
  have hwf : (s.forget c).store.Works := hw.drop _ _
  have hplain : (r.process c).run p (s.forget c) = (routeByTrigger _ c).run p (s.forget c) :=
    route_fresh hwf (World.entry_forget s c)
  rw [hplain]
  by_cases ha : f.Answers c.message.body
  · -- both runs start with the trigger of `f`
    obtain ⟨rep, s₁, hr, -, hrun⟩ := process_of_answers (p := p) hw he hf hid ha
    obtain ⟨rep', s₂, hr'⟩ : ∃ rep s₂, (f.receive c).run p (s.forget c) = (rep, s₂) := ⟨_, _, rfl⟩
    have hsame := receive_unresumed (f := f) (p := p) (resumption_stale hw he hid hn)
      (resumption_none hwf (World.entry_forget s c)) rfl
    rw [hr, hr'] at hsame
    rw [hrun, routeByTrigger_some (Registry.find?_answers.2 (h ha)) hr']
    exact ⟨congrArg some hsame.1, hsame.2⟩
  · -- both runs are left to the triggers of the other flows
    rw [process_of_not_answers hw he hf hid hn ha]
    exact run_muted p _ rfl

/-- Where the flow of a stale suspension has a trigger for the message, but another flow is the first
to have one, the answer is that of a different flow. -/
theorem process_stale_differs (hw : s.store.Works) (he : s.entry c = some st)
    (hf : f ∈ r.activeFlows c.message.tenantId) (hid : f.id = st.flowId)
    (ha : f.Answers c.message.body)
    (h : ¬ r.FirstToAnswer c.message.tenantId c.message.body f) :
    ((r.process c).run p s).1 ≠ ((r.process c).run p (s.forget c)).1 := by
  obtain ⟨rep, s₁, -, hflow, hrun⟩ := process_of_answers (p := p) hw he hf hid ha
  have hwf : (s.forget c).store.Works := hw.drop _ _
  have hplain : (r.process c).run p (s.forget c) = (routeByTrigger _ c).run p (s.forget c) :=
    route_fresh hwf (World.entry_forget s c)
  rw [hrun, hplain]
  intro heq
  obtain ⟨-, g, hg, hgid⟩ := routeByTrigger_fresh hwf (World.entry_forget s c) heq.symm
  have hgf : g = f := Registry.eq_of_id_eq (List.mem_of_find?_eq_some hg) hf (hgid.symm.trans hflow)
  rw [hgf] at hg
  exact h (Registry.find?_answers.1 hg)

/-- When a stale suspension is the same as none. In a store that works, for a sender whose suspension
is at a node that its flow does not have: the message is given the same answer, with the same replies
and the same suspension left behind, as without that suspension, exactly if its flow has no trigger
for the message or is the first to have one. -/
theorem process_stale (hw : s.store.Works) (he : s.entry c = some st)
    (hf : r.Serves c.message.tenantId f) (hid : f.id = st.flowId)
    (hn : f.node? st.currentNodeId = none) :
    (((r.process c).run p s).1 = ((r.process c).run p (s.forget c)).1 ∧
      ((r.process c).run p s).2.log.sent = ((r.process c).run p (s.forget c)).2.log.sent ∧
      ((r.process c).run p s).2.entry c = ((r.process c).run p (s.forget c)).2.entry c) ↔
    (f.Answers c.message.body → r.FirstToAnswer c.message.tenantId c.message.body f) := by
  have hmem : f ∈ r.activeFlows c.message.tenantId := Registry.mem_activeFlows.2 hf
  constructor
  · rintro ⟨hans, -⟩ ha
    by_contra h
    exact process_stale_differs hw he hmem hid ha h hans
  · intro h
    obtain ⟨hans, hmuted⟩ := process_stale_same (p := p) hw he hmem hid hn h
    refine ⟨hans, World.sent_of_muted hmuted, ?_⟩
    unfold World.entry
    rw [World.store_of_muted hmuted]

/-- A flow that answers `go` with a text. -/
def greeting (id text : String) : Flow where
  id := id
  name := id
  tenantId := "t1"
  nodes := [.trigger "t" "go", .action "a" text]
  edges := [⟨"e1", "t", "a", none, none⟩]
  createdAt := .epoch
  updatedAt := .epoch

/-- Two flows that answer `go`. -/
def greetings : Registry :=
  (Registry.empty.register (greeting "alpha" "From alpha")).register (greeting "beta" "From beta")

/-- A world in which the sender is parked in a flow, at a node that is gone. -/
def parkedAtGone (flowId : String) : World where
  store := ({} : SuspensionStore).put "t1" "u1" ⟨flowId, "gone", "t1", "u1", .epoch⟩ 1000

/-- In the first of the two flows a stale suspension makes no difference. -/
theorem greetings_stale_alpha :
    ((greetings.process sayGo).run attentive (parkedAtGone "alpha")).1 =
      ((greetings.process sayGo).run attentive ((parkedAtGone "alpha").forget sayGo)).1 := by
  have hf : greetings.FirstToAnswer "t1" "go" (greeting "alpha" "From alpha") :=
    Registry.find?_answers.1 (by cbv)
  have hw : (parkedAtGone "alpha").store.Works := ⟨rfl, rfl⟩
  have he : (parkedAtGone "alpha").entry sayGo = some ⟨"alpha", "gone", "t1", "u1", .epoch⟩ := by cbv
  exact ((process_stale hw he hf.serves rfl (by cbv)).2 fun _ => hf).1

/-- In the second it does: that flow answers, and without the suspension the first one does. -/
theorem greetings_stale_beta :
    (parkedAtGone "beta").store.Works ∧
    (parkedAtGone "beta").entry sayGo = some ⟨"beta", "gone", "t1", "u1", .epoch⟩ ∧
    greetings.Serves "t1" (greeting "beta" "From beta") ∧
    (greeting "beta" "From beta").node? "gone" = none ∧
    ((greetings.process sayGo).run attentive (parkedAtGone "beta")).2.log.sent = ["From beta"] ∧
    ((greetings.process sayGo).run attentive ((parkedAtGone "beta").forget sayGo)).2.log.sent =
      ["From alpha"] ∧
    ((greetings.process sayGo).run attentive (parkedAtGone "beta")).1 ≠
      ((greetings.process sayGo).run attentive ((parkedAtGone "beta").forget sayGo)).1 := by
  refine ⟨⟨rfl, rfl⟩, by cbv, ⟨by cbv, rfl, rfl⟩, by cbv, by cbv, by cbv, ?_⟩
  intro h
  have hb : ((greetings.process sayGo).run attentive (parkedAtGone "beta")).1.map (·.flowId) =
      some "beta" := by cbv
  have ha : ((greetings.process sayGo).run attentive ((parkedAtGone "beta").forget sayGo)).1.map
      (·.flowId) = some "alpha" := by cbv
  rw [h, ha] at hb
  exact absurd hb (by decide)

end Dialogue
