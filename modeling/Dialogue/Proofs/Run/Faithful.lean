/-
What a report tells of its run is so (`receive_faithful`). The records are those of the nodes whose
handlers ran, marked as suspended just where the node waits. A failed reply ends the run, so that
there is one failed record at most, and it is the last (`Ends`). The outcome is read off the records:
whether one of them failed, and which node was parked at last. And a flow that does not engage has
done nothing but to clear away a suspension that had become stale.
-/
import Dialogue.Proofs.Run.Cut
import Dialogue.Proofs.Run.Once

namespace Dialogue

open Program

/-! ## The end of the records -/

/-- How records end: none has failed, or the last one has and no other, that of a node that replies. -/
inductive Ends : Option DeliveryError → List RunRecord → Prop
  | whole {xs} : (∀ x ∈ xs, x.status ≠ .failed) → Ends none xs
  | broken {err xs x} : (∀ y ∈ xs, y.status ≠ .failed) → x.status = .failed →
      x.nodeType = .action ∨ x.nodeType = .ai → Ends (some err) (xs ++ [x])

namespace Ends

variable {e : Option DeliveryError} {xs : List RunRecord} {x : RunRecord}

theorem cons (hx : x.status ≠ .failed) (h : Ends e xs) : Ends e (x :: xs) := by
  cases h with
  | whole hxs => exact .whole (List.forall_mem_cons.2 ⟨hx, hxs⟩)
  | broken hxs hy hty => exact .broken (List.forall_mem_cons.2 ⟨hx, hxs⟩) hy hty

theorem eq_none_iff (h : Ends e xs) : e = none ↔ ∀ x ∈ xs, x.status ≠ .failed := by
  cases h with
  | whole hxs => exact iff_of_true rfl hxs
  | broken _ hy _ =>
    refine iff_of_false (by simp) ?_
    intro h
    exact h _ (by simp) hy

theorem failed (h : Ends e xs) (hx : x ∈ xs) (hf : x.status = .failed) :
    x.nodeType = .action ∨ x.nodeType = .ai := by
  cases h with
  | whole hxs => exact absurd hf (hxs x hx)
  | broken hys hy hty =>
    rcases List.mem_append.1 hx with hx | hx
    · exact absurd hf (hys x hx)
    · cases List.mem_singleton.1 hx
      exact hty

theorem last (h : Ends e xs) {pre post : List RunRecord} (hxs : xs = pre ++ x :: post)
    (hf : x.status = .failed) : post = [] := by
  cases h with
  | whole hall => exact absurd hf (hall x (by simp [hxs]))
  | @broken _ ys y hys _ _ =>
    -- if anything came after `x`, it would be among the records before the last one
    by_contra hne
    refine hys x ?_ hf
    rw [← List.dropLast_append_getLast hne, ← List.cons_append, ← List.append_assoc] at hxs
    rw [(List.append_inj' hxs rfl).1]
    simp

end Ends

section

variable {f : Flow} {c : RunContext} {p : Partners} {s s' : World}

theorem Node.type_of_perform_error {n : Node} {err : DeliveryError} {s₁ : World}
    (h : (n.perform c).run p s = (.error err, s₁)) : n.type = .action ∨ n.type = .ai := by
  obtain ⟨id, role⟩ := n
  cases role with
  | action message => exact .inl rfl
  | ai prompt => exact .inr rfl
  | trigger keyword => cases h
  | logic l => cases h
  | router r => cases h
  | waitForInput => cases h

/-- A record of a passage is that of the node at its end, suspended just if the node waits. -/
theorem Passage.Fits.record_eq {j : Passage} (h : j.Fits f) {x : RunRecord}
    (hx : j.record? c = some x) : ∃ n, f.node? j.edge.target = some n ∧ x.nodeId = n.id ∧
      x.nodeType = n.type ∧ (x.status = .suspended ↔ n.waits = true) := by
  cases j with
  | parked e n => cases hx; exact ⟨n, h.1, rfl, rfl, by simp [h.2]⟩
  | ran e n k => cases hx; exact ⟨n, h.1, rfl, rfl, by simp [h.2]⟩
  | broke e n => cases hx; exact ⟨n, h.1, rfl, rfl, by simp [h.2]⟩
  | dangling e => cases hx
  | met e n => cases hx

namespace Course

variable {agenda : List Edge} {w : Walk} {js : List Passage} {r : Option DeliveryError × Walk}

theorem ends (h : Course f c p agenda w s js r s') : Ends r.1 (js.filterMap (·.record? c)) := by
  induction h with
  | done w s => exact .whole (by simp)
  | dangling _ _ ih | met _ _ _ _ ih => exact ih
  | parked _ _ _ ih => exact ih.cons (by simp)
  | ran _ _ _ _ _ _ ih => exact ih.cons (by simp)
  | broke _ _ _ hp => exact @Ends.broken _ [] _ (by simp) rfl (Node.type_of_perform_error hp)

theorem suspendedAt_eq (h : Course f c p agenda w s js r s') :
    r.2.suspendedAt = (lastParked (js.filterMap (·.record? c))).or w.suspendedAt := by
  induction h with
  | done w s => rfl
  | dangling _ _ ih | met _ _ _ _ ih => exact ih
  | parked _ _ _ ih =>
    rw [ih, lastParked_passages, Option.or_assoc]
    rfl
  | ran _ _ _ _ _ _ ih =>
    rw [ih, lastParked_passages, Option.or_assoc]
    rfl
  | broke _ _ _ _ => rfl

end Course

namespace Turn

variable {resumed : Bool} {entry : Node} {kept : List Edge} {js : List Passage}
  {r : Option DeliveryError × Walk}

theorem ends (h : Turn f c p s resumed entry kept js r s') : Ends r.1 r.2.records := by
  obtain ⟨w, s₂, hc, -⟩ := h.course
  rw [h.records_eq]
  cases resumed with
  | true => exact hc.ends
  | false => exact hc.ends.cons (by simp)

theorem suspendedAt_eq (h : Turn f c p s resumed entry kept js r s') :
    r.2.suspendedAt = lastParked r.2.records := by
  obtain ⟨w, s₂, hc, -, hw, -⟩ := h.course
  rw [hc.suspendedAt_eq, hw, Option.or_none, h.records_eq]
  cases resumed with
  | true => rfl
  | false => exact ((lastParked_cons _ _).trans (Option.or_none ..)).symm

/-- Every record is that of a node of the flow, suspended just if the node waits. The node is the one
its id is resolved to, unless it is a trigger. -/
theorem recorded (h : Turn f c p s resumed entry kept js r s') : ∀ x ∈ r.2.records, ∃ n ∈ f.nodes,
    x.nodeId = n.id ∧ x.nodeType = n.type ∧ (x.status = .suspended ↔ n.waits = true) ∧
      (n.type = .trigger ∨ x.node? f = some n) := by
  intro x hx
  rw [h.records_eq] at hx
  rcases List.mem_append.1 hx with hx | hx
  · -- the record of the trigger that started the run
    cases h with
    | resumed _ _ _ => cases hx
    | started _ ht _ _ =>
      cases List.mem_singleton.1 hx
      obtain ⟨hn, keyword, hrole, -⟩ := Flow.triggerFor_some ht
      exact ⟨entry, hn, rfl, rfl, by simp [Node.waits, hrole], .inl (congrArg NodeRole.type hrole)⟩
  · obtain ⟨j, hj, hx⟩ := List.mem_filterMap.1 hx
    obtain ⟨w, s₂, hc, -⟩ := h.course
    obtain ⟨n, hn, hid, htype, hwaits⟩ := (hc.fits j hj).record_eq hx
    refine ⟨n, Flow.mem_of_node? hn, hid, htype, hwaits, .inr ?_⟩
    unfold RunRecord.node?
    rw [hid, htype, Flow.node?_id hn, Option.filter_some_pos (by simp)]

end Turn

/-! ## Whether a flow engages -/

/-- The store can be read, and has the sender parked in the flow, at a node that is there. -/
def World.Parked (s : World) (c : RunContext) (f : Flow) : Prop :=
  ∃ st n, s.store.get c.message.tenantId c.message.userId = .ok (some st) ∧ st.flowId = f.id ∧
    f.node? st.currentNodeId = some n

/-- The store can be read, and has the sender parked in the flow, at a node that is gone. -/
def World.Stranded (s : World) (c : RunContext) (f : Flow) : Prop :=
  ∃ st, s.store.get c.message.tenantId c.message.userId = .ok (some st) ∧ st.flowId = f.id ∧
    f.node? st.currentNodeId = none

theorem World.sight_eq_some {st : Suspension} : s.sight c = some st ↔
    s.store.get c.message.tenantId c.message.userId = .ok (some st) := by
  unfold sight
  cases s.store.get c.message.tenantId c.message.userId <;> simp

theorem parked_iff_found : s.Parked c f ↔ (f.found (s.sight c)).isSome = true := by
  unfold World.Parked Flow.found
  simp only [Option.isSome_iff_exists, Option.bind_eq_some_iff, Option.filter_eq_some_iff,
    World.sight_eq_some, beq_iff_eq]
  constructor
  · rintro ⟨st, n, hst, hid, hn⟩
    exact ⟨n, st, ⟨hst, hid⟩, hn⟩
  · rintro ⟨n, st, ⟨hst, hid⟩, hn⟩
    exact ⟨st, n, hst, hid, hn⟩

theorem resumption_store_of_elsewhere (h : ∀ st, s.sight c = some st → st.flowId ≠ f.id) :
    ((f.resumption c).run p s).2.store = s.store := by
  have hread : s.answer p (.readState c.message.tenantId c.message.userId) =
      (s.store.get c.message.tenantId c.message.userId, s) := rfl
  unfold Flow.resumption
  rw [run_bind, run_request, hread]
  rcases hget : s.store.get c.message.tenantId c.message.userId with e | _ | st
  · rfl
  · rfl
  · have hne : (st.flowId != f.id) = true := bne_iff_ne.2 (h st (World.sight_eq_some.2 hget))
    simp only [hne, if_true, run_pure]

/-- Where there is nothing to go on behind, looking for a suspension changes the store at most by
clearing away one whose node is gone. -/
theorem resumption_cleared {s₁ : World} (h : (f.resumption c).run p s = (none, s₁)) :
    s₁.store = s.store ∨ s.Stranded c f ∧
      s₁.store = s.store.drop c.message.tenantId c.message.userId := by
  by_cases hin : ∃ st, s.sight c = some st ∧ st.flowId = f.id
  · obtain ⟨st, hst, hid⟩ := hin
    have hgone : f.node? st.currentNodeId = none := by
      have hfound := resumption_found (f := f) (c := c) (p := p) s
      rw [h, hst, Flow.found, Option.filter_some_pos (by simp [hid])] at hfound
      exact hfound.symm
    have hlooked := (run_looks p (resumption_asks f c) s).store
    rw [h] at hlooked
    exact hlooked.imp_right fun hdrop => ⟨⟨st, World.sight_eq_some.1 hst, hid, hgone⟩, hdrop⟩
  · push Not at hin
    left
    rw [← resumption_store_of_elsewhere (p := p) hin, h]

/-! ## Reports -/

theorem lastParked_eq_none {xs : List RunRecord} :
    lastParked xs = none ↔ ∀ x ∈ xs, x.status ≠ .suspended := by
  simp [lastParked]

namespace Walk

variable {w : Walk} {e : Option DeliveryError}

theorem outcome_failed_iff : (∃ reason, w.outcome e = .failed reason) ↔ e ≠ none := by
  unfold outcome
  cases e with
  | some err => simp
  | none => cases w.suspendedAt <;> simp

theorem outcome_suspended_iff {id : String} :
    w.outcome e = .suspended id ↔ e = none ∧ w.suspendedAt = some id := by
  unfold outcome
  cases e with
  | some err => simp
  | none => cases w.suspendedAt <;> simp

theorem outcome_completed_iff : w.outcome e = .completed ↔ e = none ∧ w.suspendedAt = none := by
  unfold outcome
  cases e with
  | some err => simp
  | none => cases w.suspendedAt <;> simp

end Walk

theorem Report.engaged_iff {rep : Report} :
    rep.engaged = true ↔ rep.outcome = .completed ∨ ∃ id, rep.outcome = .suspended id := by
  unfold engaged
  cases rep.outcome <;> simp

/-- What a report tells of its run is so. -/
structure Faithful (f : Flow) (c : RunContext) (p : Partners) (s : World) (rep : Report) (s' : World) :
    Prop where
  recorded : ∀ x ∈ rep.records, ∃ n ∈ f.nodes, x.nodeId = n.id ∧ x.nodeType = n.type ∧
    (x.status = .suspended ↔ n.waits = true)
  failed_type : ∀ x ∈ rep.records, x.status = .failed → x.nodeType = .action ∨ x.nodeType = .ai
  failed_last : ∀ pre x post, rep.records = pre ++ x :: post → x.status = .failed → post = []
  failed : (∃ reason, rep.outcome = .failed reason) ↔ ∃ x ∈ rep.records, x.status = .failed
  suspended : ∀ id, rep.outcome = .suspended id ↔
    (∀ x ∈ rep.records, x.status ≠ .failed) ∧ lastParked rep.records = some id
  completed : rep.outcome = .completed ↔
    (s.Parked c f ∨ f.Answers c.message.body) ∧ ∀ x ∈ rep.records, x.status = .continued
  notEngaged : rep.outcome = .notEngaged ↔ ¬ s.Parked c f ∧ ¬ f.Answers c.message.body
  /-- A flow that does not engage asks nothing of those outside, and leaves the store as it was, or
  without a suspension that was stale. -/
  idle : rep.outcome = .notEngaged → rep.records = [] ∧ rep.replies = 0 ∧
    (f.receive c).outward p s = [] ∧ s'.log.muted = s.log.muted ∧
    (s'.store = s.store ∨ s.Stranded c f ∧
      s'.store = s.store.drop c.message.tenantId c.message.userId)
  engaged : rep.engaged = true ↔ rep.outcome = .completed ∨ ∃ id, rep.outcome = .suspended id
  resumed : rep.resumed = true ↔ s.Parked c f
  /-- A run that is not resumed starts with the record of the trigger that matches. -/
  started : rep.resumed = false → rep.outcome ≠ .notEngaged → ∃ n,
    f.triggerFor c.message.body = some n ∧
      rep.records.head? = some ⟨n.id, n.type, c.now, c.now, .continued⟩

theorem receive_entered_iff {rep : Report} (h : (f.receive c).run p s = (rep, s')) :
    (rep.resumed = true ↔ s.Parked c f) ∧
      (rep.outcome = .notEngaged ↔ ¬ s.Parked c f ∧ ¬ f.Answers c.message.body) := by
  obtain ⟨-, hresumed, hne⟩ := receive_entered h
  rw [resumption_found] at hresumed
  have hparked : rep.resumed = true ↔ s.Parked c f := by rw [hresumed, parked_iff_found]
  refine ⟨hparked, ?_⟩
  rw [hne, ← hparked, ← Flow.isSome_triggerFor]
  simp

/-- The report of a turn tells of its end what its records tell. -/
theorem Turn.report_outcome {resumed : Bool} {entry : Node} {kept : List Edge} {js : List Passage}
    {r : Option DeliveryError × Walk} (h : Turn f c p s resumed entry kept js r s') :
    ((∃ reason, r.2.outcome r.1 = .failed reason) ↔ ∃ x ∈ r.2.records, x.status = .failed) ∧
    (∀ id, r.2.outcome r.1 = .suspended id ↔
      (∀ x ∈ r.2.records, x.status ≠ .failed) ∧ lastParked r.2.records = some id) ∧
    (r.2.outcome r.1 = .completed ↔ ∀ x ∈ r.2.records, x.status = .continued) := by
  have hnone := h.ends.eq_none_iff
  refine ⟨?_, fun id => ?_, ?_⟩
  · rw [Walk.outcome_failed_iff, ne_eq, hnone]
    simp
  · rw [Walk.outcome_suspended_iff, hnone, h.suspendedAt_eq]
  · rw [Walk.outcome_completed_iff, hnone, h.suspendedAt_eq, lastParked_eq_none, ← forall₂_and]
    refine forall₂_congr fun x _ => ?_
    cases x.status <;> simp

theorem faithful_notEngaged {s₁ : World} (hr : (f.resumption c).run p s = (none, s₁))
    (ht : f.triggerFor c.message.body = none)
    (h : (f.receive c).run p s = (.notEngaged f.id 0, s₁)) :
    Faithful f c p s (.notEngaged f.id 0) s₁ := by
  obtain ⟨hresumed, hne⟩ := receive_entered_iff h
  obtain ⟨hparked, hanswers⟩ := hne.1 rfl
  have hlooked := run_looks p (resumption_asks f c) s
  rw [hr] at hlooked
  exact {
    recorded := by simp [Report.notEngaged]
    failed_type := by simp [Report.notEngaged]
    failed_last := by simp [Report.notEngaged]
    failed := by simp [Report.notEngaged]
    suspended := by simp [Report.notEngaged, lastParked]
    completed := by simp [Report.notEngaged, hparked, hanswers]
    notEngaged := hne
    idle := by
      intro _
      refine ⟨rfl, rfl, ?_, hlooked.muted, resumption_cleared hr⟩
      unfold Flow.receive
      rw [outward_bind, resumption_outward, hr]
      dsimp only
      rw [ht]
      rfl
    engaged := Report.engaged_iff
    resumed := hresumed
    started := by simp [Report.notEngaged] }

theorem Turn.faithful {resumed : Bool} {entry : Node} {kept : List Edge} {js : List Passage}
    {r : Option DeliveryError × Walk} (h : Turn f c p s resumed entry kept js r s') :
    Faithful f c p s (r.2.report f resumed r.1) (s'.closed r.1) := by
  obtain ⟨hresumed, hne⟩ := receive_entered_iff h.run_eq
  have hengaged := r.2.report_engages (f := f) resumed r.1
  obtain ⟨hfailed, hsuspended, hcompleted⟩ := h.report_outcome
  exact {
    recorded := by
      intro x hx
      obtain ⟨n, hn, hid, htype, hwaits, -⟩ := h.recorded x hx
      exact ⟨n, hn, hid, htype, hwaits⟩
    failed_type := fun x => h.ends.failed
    failed_last := fun pre x post => h.ends.last
    failed := hfailed
    suspended := hsuspended
    completed := by
      have hin : s.Parked c f ∨ f.Answers c.message.body := by
        by_contra hout
        exact hengaged (hne.2 (not_or.1 hout))
      rw [and_iff_right hin]
      exact hcompleted
    notEngaged := hne
    idle := fun he => absurd he hengaged
    engaged := Report.engaged_iff
    resumed := hresumed
    started := by
      intro hfresh _
      cases h with
      | resumed _ _ _ => cases hfresh
      | started hr htr hk hc =>
        refine ⟨entry, htr, ?_⟩
        show r.2.records.head? = _
        rw [(Turn.started hr htr hk hc).records_eq]
        rfl }

/-- What a report tells of its run is so: of each record, of the outcome, and of how the flow came to
engage or not. -/
theorem receive_faithful {rep : Report} (h : (f.receive c).run p s = (rep, s')) :
    Faithful f c p s rep s' := by
  rcases receive_cases f c p s with ⟨s₁, hr, ht, hrun⟩ | ⟨resumed, entry, kept, js, r, s₁, ht, hrun⟩
  · cases hrun.symm.trans h
    exact faithful_notEngaged hr ht hrun
  · cases hrun.symm.trans h
    exact ht.faithful

end

/-- Someone says a word that starts no flow. -/
def sayStop : RunContext :=
  { sayGo with message := { sayGo.message with body := "stop" } }

/-- A world in which that sender was parked in `tour`, at a node that is not there. -/
def astray : World where
  store := ({} : SuspensionStore).put "t1" "u1" ⟨"tour", "x", "t1", "u1", .epoch⟩ 1

/-- Where only one text is delivered, `tour` fails, behind the node where it parked. -/
theorem tour_statuses : ((tour.receive sayGo).run (limited 1 (fun _ text => ⟨text⟩) none)
    { store := {} }).1.records.map (·.status) = [.continued, .suspended, .continued, .failed] := by
  have hfound : (tour.resumption sayGo).run (limited 1 (fun _ text => ⟨text⟩) none) { store := {} } =
      (none, { store := {} }) := by cbv
  have htrigger : tour.triggerFor sayGo.message.body = some (.trigger "t" "go") := by cbv
  have hwalk : ((walkFromTrigger ⟨tour, .ofFlow tour, sayGo⟩ (.trigger "t" "go")).run
      (limited 1 (fun _ text => ⟨text⟩) none) { store := {} }).1.2.records.map (·.status) =
      [.continued, .suspended, .continued, .failed] := by cbv
  -- what is left is to log the failure and to word it, which the records do not depend on
  unfold Flow.receive
  rw [run_bind, hfound]
  dsimp only
  rw [htrigger]
  dsimp only
  rw [run_bind, finish_run]
  exact hwalk

/-- `tour` fails where it parked before, so that it counts as failed. And where a sender was parked at
a node that is gone, a word that starts nothing does no more than to clear that away. -/
theorem tour_faithful :
    (∃ rep s', (tour.receive sayGo).run (limited 1 (fun _ text => ⟨text⟩) none) { store := {} } =
        (rep, s') ∧ rep.records.map (·.status) = [.continued, .suspended, .continued, .failed] ∧
      Faithful tour sayGo (limited 1 (fun _ text => ⟨text⟩) none) { store := {} } rep s') ∧
    ∃ rep s', (tour.receive sayStop).run (steady none) astray = (rep, s') ∧
      rep.outcome = .notEngaged ∧ s'.store.entries = [] ∧
      Faithful tour sayStop (steady none) astray rep s' := by
  have hstale : (tour.receive sayStop).run (steady none) astray = (.notEngaged tour.id 0,
      { store := {}, log := { warnings := [.suspendedNodeGone "x"] } }) := by cbv
  exact ⟨⟨_, _, rfl, tour_statuses, receive_faithful rfl⟩,
    _, _, hstale, rfl, rfl, receive_faithful hstale⟩

end Dialogue
