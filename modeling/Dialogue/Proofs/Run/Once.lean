/-
A message is handled in bounded time, and nothing is done twice for it. Whatever the flow, the partners
and the store, the requests that a message causes are bounded by the edges of the flow, each edge is
followed at most once, no node but one that waits is run twice, and what is asked of those outside is
the deeds of distinct nodes, each with one reply and one question at most (`receive_once`).
-/
import Dialogue.Proofs.Run.Indifference
import Dialogue.Proofs.Run.Reach
import Dialogue.Proofs.Run.Requests

namespace Dialogue

open Program

theorem Node.type_eq_waitForInput {n : Node} : n.type = .waitForInput ↔ n.waits = true := by
  unfold type waits
  cases n.role <;> simp [NodeRole.type]

section

variable {f : Flow} {c : RunContext} {p : Partners} {s s' : World}

/-! ## Parking, entering and reporting -/

theorem park_within (n : Node) : (park ⟨f, .ofFlow f, c⟩ n).Within 2 := by
  unfold park
  refine within_request_bind fun a => ?_
  cases a with
  | ok _ => exact within_pure _ 1
  | error e => exact within_warn_bind (within_pure () 0)

theorem park_outward (n : Node) (s : World) : (park ⟨f, .ofFlow f, c⟩ n).outward p s = [] :=
  Asks.outward_eq_nil (park_asks trivial fun _ => trivial) s

theorem resumption_within : (f.resumption c).Within 4 := by
  unfold Flow.resumption
  refine within_request_bind fun a => ?_
  rcases a with e | _ | st
  · exact within_warn_bind (within_pure _ 2)
  · exact within_pure _ 3
  · refine within_ite (within_pure _ 3) (within_request_bind fun b => ?_)
    cases f.node? st.currentNodeId with
    | none =>
      cases b with
      | ok _ => exact within_warn_bind (within_pure _ 1)
      | error e => exact within_warn_bind (within_warn_bind (within_pure _ 0))
    | some n =>
      cases b with
      | ok _ => exact within_pure _ 2
      | error e => exact within_warn_bind (within_pure _ 1)

theorem resumption_outward (s : World) : (f.resumption c).outward p s = [] :=
  ((resumption_asks f c).mono fun _ => Request.Looks.internal).outward_eq_nil s

/-- A flow goes on behind nodes of its own only. -/
theorem mem_of_resumption {n : Node} {s₁ : World} (h : (f.resumption c).run p s = (some n, s₁)) :
    n ∈ f.nodes := by
  have hfound : f.found (s.sight c) = some n := by rw [← resumption_found (p := p), h]
  obtain ⟨st, -, hn⟩ := Option.bind_eq_some_iff.1 hfound
  exact Flow.mem_of_node? hn

theorem finish_within (resumed : Bool) (r : Option DeliveryError × Walk) :
    (Flow.receive.finish f resumed r).Within 1 := by
  obtain ⟨e | e, w⟩ := r
  · exact within_pure _ 1
  · exact within_warn_bind (within_pure _ 0)

theorem finish_outward (resumed : Bool) (r : Option DeliveryError × Walk) (s : World) :
    (Flow.receive.finish f resumed r).outward p s = [] := by
  obtain ⟨e | e, w⟩ := r <;> rfl

/-! ## The requests of a walk -/

namespace Course

variable {agenda : List Edge} {w : Walk} {js : List Passage} {r : Option DeliveryError × Walk}

/-- Following an edge takes five requests at most. -/
theorem length_asked (h : Course f c p agenda w s js r s') :
    ((follow ⟨f, .ofFlow f, c⟩ agenda w).asked p s).length ≤ 5 * js.length := by
  induction h with
  | done w s => rw [follow]; exact Nat.le_refl 0
  | dangling hn _ ih =>
    rw [follow_dangling _ _ hn]
    exact ((within_tolerate _).length_asked_bind _).trans (Nat.add_le_add ih (by decide))
  | parked hn hw _ ih =>
    rw [follow_parked _ _ hn hw]
    exact ((park_within _).length_asked_bind _).trans (Nat.add_le_add ih (by decide))
  | met hn hw hv _ ih =>
    rw [follow_met _ _ hn hw hv]
    exact ((within_tolerate _).length_asked_bind _).trans (Nat.add_le_add ih (by decide))
  | @ran _ _ _ s n _ s₁ _ _ _ _ _ hn hw hv hp hk _ ih =>
    rw [follow_fresh _ _ hn hw hv]
    refine ((n.perform_within c).length_asked_bind s).trans ?_
    rw [hp]
    refine Nat.add_le_add_right (m := 5 * _ + 3) ?_ 2
    refine ((n.keptEdges_within c _).length_asked_bind s₁).trans ?_
    rw [hk]
    exact Nat.add_le_add_right ih 3
  | @broke _ _ _ s n _ _ hn hw hv hp =>
    rw [follow_fresh _ _ hn hw hv]
    refine ((n.perform_within c).length_asked_bind s).trans ?_
    rw [hp]
    exact (by decide : 0 + 2 ≤ 5)

/-- What a walk asks of those outside is the deeds of the nodes that were run, in their order. -/
theorem deeds (h : Course f c p agenda w s js r s') : ∃ deeds : List (Node × List Request),
    deeds.map (·.1) = runners js ∧
      (follow ⟨f, .ofFlow f, c⟩ agenda w).outward p s = deeds.flatMap (·.2) ∧
      ∀ d ∈ deeds, d.1.Deed c d.2 := by
  induction h with
  | done w s => exact ⟨[], rfl, by rw [follow]; rfl, by simp⟩
  | dangling hn _ ih =>
    rw [follow_dangling _ _ hn, outward_bind]
    exact ih
  | parked hn hw _ ih =>
    rw [follow_parked _ _ hn hw, outward_bind, park_outward]
    exact ih
  | met hn hw hv _ ih =>
    rw [follow_met _ _ hn hw hv, outward_bind]
    exact ih
  | @ran e _ _ s n k s₁ _ _ _ _ _ hn hw hv hp hk _ ih =>
    obtain ⟨ds, hds, hout, hd⟩ := ih
    rw [follow_fresh _ _ hn hw hv, outward_bind, hp]
    dsimp only
    rw [outward_bind, hk, hout, ← List.append_assoc]
    refine ⟨(n, _) :: ds, congrArg (n :: ·) hds, rfl, List.forall_mem_cons.2 ⟨?_, hd⟩⟩
    exact n.perform_keptEdges_deed s s₁ (f.outgoing n.id)
  | @broke e _ _ s n err s₁ hn hw hv hp =>
    rw [follow_fresh _ _ hn hw hv, outward_bind, hp]
    refine ⟨[(n, (n.perform c).outward p s)], rfl, ?_, List.forall_mem_singleton.2 (n.perform_deed s)⟩
    simp

end Course

/-! ## The requests of a turn -/

namespace Turn

variable {resumed : Bool} {entry : Node} {kept : List Edge} {js : List Passage}
  {r : Option DeliveryError × Walk}

/-- A turn looks for a suspension, chooses the edges to keep at the entry, walks, and reports. -/
theorem asked_eq (h : Turn f c p s resumed entry kept js r s') : ∃ w s₁ s₂,
    Course f c p kept w s₂ js r s' ∧ (f.receive c).asked p s = (f.resumption c).asked p s ++
      ((entry.keptEdges c (f.outgoing entry.id)).asked p s₁ ++
        (follow ⟨f, .ofFlow f, c⟩ kept w).asked p s₂ ++
        (Flow.receive.finish f resumed r).asked p s') := by
  unfold Flow.receive
  rw [asked_bind]
  cases h with
  | @resumed _ s₁ _ s₂ _ _ _ hr hk hc =>
    refine ⟨_, s₁, s₂, hc, ?_⟩
    rw [hr]
    dsimp only
    rw [walkFromSuspension_eq, asked_bind, asked_bind, run_bind, hk, hc.run_eq]
  | @started s₁ _ _ s₂ _ _ _ hr ht hk hc =>
    obtain ⟨-, keyword, hrole, -⟩ := Flow.triggerFor_some ht
    refine ⟨_, s₁, s₂, hc, ?_⟩
    rw [hr]
    dsimp only
    rw [ht]
    dsimp only
    rw [walkFromTrigger_eq f c hrole, asked_bind, asked_bind, run_bind, hk, hc.run_eq]

theorem entry_mem (h : Turn f c p s resumed entry kept js r s') : entry ∈ f.nodes := by
  cases h with
  | resumed hr _ _ => exact mem_of_resumption hr
  | started _ ht _ _ => exact (Flow.triggerFor_some ht).1

theorem runners_mem (h : Turn f c p s resumed entry kept js r s') : ∀ n ∈ runners js, n ∈ f.nodes := by
  obtain ⟨w, s₂, hc, -⟩ := h.course
  intro n hn
  obtain ⟨j, hj, hn⟩ := List.mem_filterMap.1 hn
  exact Flow.mem_of_node? ((hc.fits j hj).of_runner hn).1

/-- The entry and the nodes that were run are all different. -/
theorem nodup_runners (h : Turn f c p s resumed entry kept js r s') :
    ((entry :: runners js).map (·.id)).Nodup := by
  obtain ⟨w, s₂, hc, hv, -⟩ := h.course
  obtain ⟨hd, hf⟩ := hc.nodup_runners
  refine List.nodup_cons.2 ⟨fun hm => ?_, hd⟩
  exact hf _ hm (by rw [hv]; exact List.mem_singleton_self _)

/-- Every edge of the flow is followed at most once: no edge is followed more often than the flow has
it. -/
theorem edges_subperm (h : Turn f c p s resumed entry kept js r s') :
    (js.map (·.edge)).Subperm f.edges := by
  obtain ⟨w, s₂, hc, -⟩ := h.course
  obtain ⟨left, hp, -⟩ := hc.edges_left
  have hkept : (kept ++ js.flatMap (·.kept)).Subperm f.edges := by
    rw [← selections_flatMap entry]
    exact h.kept_perm.subperm.trans List.filter_sublist.subperm
  exact (List.sublist_append_left _ left).subperm.trans (hp.subperm.trans hkept)

/-- What a turn asks of those outside is the deeds of its entry and of the nodes that were run. -/
theorem deeds (h : Turn f c p s resumed entry kept js r s') : ∃ deeds : List (Node × List Request),
    deeds.map (·.1) = entry :: runners js ∧
      (f.receive c).outward p s = deeds.flatMap (·.2) ∧ ∀ d ∈ deeds, d.1.Deed c d.2 := by
  obtain ⟨w, s₁, s₂, hc, hasked⟩ := h.asked_eq
  obtain ⟨ds, hds, hout, hd⟩ := hc.deeds
  refine ⟨(entry, (entry.keptEdges c (f.outgoing entry.id)).outward p s₁) :: ds,
    congrArg (entry :: ·) hds, ?_, List.forall_mem_cons.2 ⟨entry.keptEdges_deed s₁ _, hd⟩⟩
  have h1 := resumption_outward (f := f) (c := c) (p := p) s
  have h2 := finish_outward (f := f) (p := p) resumed r s'
  unfold outward at h1 h2 hout ⊢
  rw [hasked, List.filter_append, List.filter_append, List.filter_append, h1, h2, hout,
    List.append_nil, List.nil_append, List.flatMap_cons]

/-- The number of requests in a turn is bounded by the edges of the flow. -/
theorem length_asked (h : Turn f c p s resumed entry kept js r s') :
    ((f.receive c).asked p s).length ≤ 8 + 5 * f.edges.length := by
  obtain ⟨w, s₁, s₂, hc, hasked⟩ := h.asked_eq
  have hlen : js.length ≤ f.edges.length := by simpa using h.edges_subperm.length_le
  have h1 := (resumption_within (f := f) (c := c)).length_asked (p := p) s
  have h2 := (entry.keptEdges_within c (f.outgoing entry.id)).length_asked (p := p) s₁
  have h3 := hc.length_asked
  have h4 := (finish_within (f := f) resumed r).length_asked (p := p) s'
  rw [hasked]
  simp only [List.length_append]
  omega

/-- The records of nodes that do not wait are those of the trigger, if it ran, and of the nodes that
were run. -/
theorem records_running (h : Turn f c p s resumed entry kept js r s') :
    (r.2.records.filter (·.nodeType != .waitForInput)).map (·.nodeId) =
      ((if resumed then [] else [entry]) ++ runners js).map (·.id) := by
  obtain ⟨w, s₂, hc, -⟩ := h.course
  have hentry : ((if resumed then [] else [(⟨entry.id, entry.type, c.now, c.now, .continued⟩ :
      RunRecord)]).filter (·.nodeType != .waitForInput)).map (·.nodeId) =
        (if resumed then [] else [entry]).map (·.id) := by
    cases h with
    | resumed _ _ _ => rfl
    | started _ ht _ _ =>
      obtain ⟨-, keyword, hrole, -⟩ := Flow.triggerFor_some ht
      simp [Node.type, NodeRole.type, hrole]
  have hpassages : ((js.filterMap (·.record? c)).filter (·.nodeType != .waitForInput)).map
      (·.nodeId) = (runners js).map (·.id) := by
    unfold runners
    rw [List.filter_filterMap, List.map_filterMap, List.map_filterMap]
    refine List.filterMap_congr fun j hj => ?_
    have hfit := hc.fits j hj
    cases j with
    | dangling e => rfl
    | met e n => rfl
    | parked e n => simp [Passage.record?, Passage.runner?, Node.type_eq_waitForInput, hfit.2]
    | ran e n k => simp [Passage.record?, Passage.runner?, Node.type_eq_waitForInput, hfit.2]
    | broke e n => simp [Passage.record?, Passage.runner?, Node.type_eq_waitForInput, hfit.2]
  rw [h.records_eq, List.filter_append, List.map_append, hentry, hpassages, List.map_append]

end Turn

end

/-- A message is handled in bounded time, and nothing is done twice for it. Its requests are bounded by
the edges of the flow, whatever they are answered; no two records of nodes that do not wait are of one
id; each edge is followed at most once; and what is asked of those outside is the deeds of nodes with
different ids, each with one reply and one question at most. -/
theorem receive_once {f : Flow} {c : RunContext} {p : Partners} {s s' : World} {rep : Report}
    (h : (f.receive c).run p s = (rep, s')) :
    ((f.receive c).asked p s).length ≤ 8 + 5 * f.edges.length ∧
      rep.records.length ≤ 1 + f.edges.length ∧
      ((rep.records.filter (·.nodeType != .waitForInput)).map (·.nodeId)).Nodup ∧
      (rep.outcome = .notEngaged → (f.receive c).outward p s = []) ∧
      (rep.outcome ≠ .notEngaged → ∃ entry kept js r s₁, Turn f c p s rep.resumed entry kept js r s₁ ∧
        r.2.report f rep.resumed r.1 = rep ∧ (js.map (·.edge)).Subperm f.edges ∧
        ∃ deeds : List (Node × List Request), deeds.map (·.1) = entry :: runners js ∧
          (f.receive c).outward p s = deeds.flatMap (·.2) ∧
          (deeds.map (·.1.id)).Nodup ∧ ∀ d ∈ deeds, d.1 ∈ f.nodes ∧ d.1.Deed c d.2 ∧
            d.2.countP (·.isReply) ≤ 1 ∧ d.2.countP (·.isQuestion) ≤ 1) := by
  rcases receive_cases f c p s with ⟨s₁, hr, ht, hrun⟩ | ⟨resumed, entry, kept, js, r, s₁, ht, hrun⟩
  · cases hrun.symm.trans h
    have hasked : (f.receive c).asked p s = (f.resumption c).asked p s := by
      unfold Flow.receive
      rw [asked_bind, hr, ht]
      exact List.append_nil _
    have hlen := (resumption_within (f := f) (c := c)).length_asked (p := p) s
    refine ⟨by rw [hasked]; omega, Nat.zero_le _, .nil, fun _ => ?_, fun hne => absurd rfl hne⟩
    unfold outward
    rw [hasked]
    exact resumption_outward s
  · cases hrun.symm.trans h
    have hlen : js.length ≤ f.edges.length := by simpa using ht.edges_subperm.length_le
    refine ⟨ht.length_asked, ?_, ?_, fun he => absurd he (r.2.report_engages resumed r.1), fun _ => ?_⟩
    · show r.2.records.length ≤ _
      rw [ht.records_eq, List.length_append]
      refine Nat.add_le_add ?_ ((List.length_filterMap_le ..).trans hlen)
      split <;> simp
    · show ((r.2.records.filter _).map _).Nodup
      rw [ht.records_running]
      refine ht.nodup_runners.sublist (List.Sublist.map _ ?_)
      split
      · exact List.sublist_cons_self ..
      · exact .refl _
    · obtain ⟨ds, hds, hout, hd⟩ := ht.deeds
      refine ⟨entry, kept, js, r, s₁, ht, rfl, ht.edges_subperm, ds, hds, hout, ?_, fun d hmem => ?_⟩
      · have hids : ds.map (·.1.id) = (entry :: runners js).map (·.id) := by
          rw [← hds, List.map_map]
          rfl
        rw [hids]
        exact ht.nodup_runners
      · have hdeed := hd d hmem
        have hnode : d.1 ∈ entry :: runners js := hds ▸ List.mem_map_of_mem hmem
        refine ⟨?_, hdeed, hdeed.replies_le, hdeed.questions_le⟩
        exact List.forall_mem_cons.2 ⟨ht.entry_mem, ht.runners_mem⟩ _ hnode

/-- In `survey` the node `a` leads to itself, and two edges lead to `w`: the greeting makes `a` send one
reply, and parks the run at `w` twice. -/
theorem survey_once : ∃ rep s', (survey.receive sayGo).run attentive { store := {} } = (rep, s') ∧
    rep.visited = ["t", "a", "w", "w"] ∧
      ((rep.records.filter (·.nodeType != .waitForInput)).map (·.nodeId)).Nodup ∧
      ∃ deeds : List (Node × List Request), deeds.flatMap (·.2) = [.send "A"] ∧
        (deeds.map (·.1.id)).Nodup := by
  obtain ⟨rep, s', hrun⟩ : ∃ rep s',
      (survey.receive sayGo).run attentive { store := {} } = (rep, s') := ⟨_, _, rfl⟩
  have ho : rep.outcome = .suspended "w" := (congrArg (·.1.outcome) hrun).symm.trans (by cbv)
  have hv : rep.visited = ["t", "a", "w", "w"] := (congrArg (·.1.visited) hrun).symm.trans (by cbv)
  obtain ⟨-, -, hd, -, hengaged⟩ := receive_once hrun
  obtain ⟨_, _, _, _, _, -, -, -, ds, -, hout, hds, -⟩ := hengaged (by rw [ho]; simp)
  have hsent : (survey.receive sayGo).outward attentive { store := {} } = [.send "A"] := by cbv
  exact ⟨rep, s', hrun, hv, hd, ds, hout.symm.trans hsent, hds⟩

end Dialogue
