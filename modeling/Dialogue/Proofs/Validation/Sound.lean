/-
What validation promises of runs. Whatever messages a flow is given, in a store without suspensions in
it: no handler runs, and no run is parked, at a node that validation finds out of reach; if validation
finds no dangling edge, no run comes upon one; and if it finds no trigger, or none with a keyword, no
run ever starts (`Flow.validation_sound`).

Validation follows all edges between nodes, from the id of every trigger. A run follows some of them,
from a trigger or behind a suspension, and leaves suspensions only where it came: that the ids in the
store are reached is what every message keeps (`Flow.Kept`).
-/
import Dialogue.Proofs.Run.Indifference
import Dialogue.Proofs.Run.Reach
import Dialogue.Proofs.Validation.Issues
import Dialogue.Routing.Desk

namespace Dialogue

open Program

/-- A blank text is empty in normal form. -/
theorem Text.normalize_of_allBlank {s : String} (h : Text.allBlank s = true) :
    Text.normalize s = "" := by
  unfold Text.allBlank at h
  unfold Text.normalize Text.trim Text.stripWhere Text.stripEnds
  rw [List.dropWhile_eq_nil_iff.2 (List.all_eq_true.1 h)]
  rfl

/-! ## What a program writes -/

/-- A request that writes nothing but such suspensions. -/
def Request.Writes (W : Suspension → Prop) : Request → Prop
  | .writeState _ _ st _ => W st
  | _ => True

section

variable {W : Suspension → Prop} {p : Partners}

theorem World.of_peek_answer {s : World} {r : Request} (h : r.Writes W) {t u : String}
    {st : Suspension} (hst : (s.answer p r).2.store.peek t u = some st) :
    W st ∨ s.store.peek t u = some st := by
  induction r using Request.store_cases with
  | storeless r hr => rw [World.answer_store p s hr.spares] at hst; exact .inr hst
  | read t' u' => exact .inr hst
  | write t' u' a ttl =>
    simp only [answer, SuspensionStore.set] at hst
    split at hst
    · rcases SuspensionStore.of_peek_put hst with rfl | hst
      · exact .inl h
      · exact .inr hst
    · exact .inr hst
  | drop t' u' =>
    simp only [answer, SuspensionStore.delete] at hst
    split at hst
    · exact .inr (SuspensionStore.of_peek_drop hst)
    · exact .inr hst

/-- What is found after a program was written by it or was there before. -/
theorem Program.of_peek_run {α : Type} {x : Program α} (h : x.Asks (Request.Writes W)) {s : World}
    {t u : String} {st : Suspension} (hst : (x.run p s).2.store.peek t u = some st) :
    W st ∨ s.store.peek t u = some st := by
  induction x generalizing s with
  | done a => exact .inr hst
  | ask r next ih => exact (ih _ (h.2 _) hst).elim .inl (World.of_peek_answer h.1)

theorem Request.Looks.writes {c : RunContext} {r : Request} (h : r.Looks c) : r.Writes W := by
  cases r with
  | writeState t u st ttl => exact h.elim
  | readState t u => trivial
  | dropState t u => trivial
  | send text => trivial
  | classify prompt => trivial
  | respond call => trivial
  | warn w => trivial

end

section

variable {f : Flow} {c : RunContext} {p : Partners} {s s' : World}

/-- What is found after looking for a suspension was there before. -/
theorem of_peek_resumption {t u : String} {st : Suspension}
    (h : ((f.resumption c).run p s).2.store.peek t u = some st) : s.store.peek t u = some st :=
  (of_peek_run (W := fun _ => False)
    ((resumption_asks f c).mono fun _ => Request.Looks.writes) h).elim False.elim id

theorem of_peek_park {n : Node} {t u : String} {st : Suspension}
    (h : ((park ⟨f, .ofFlow f, c⟩ n).run p s).2.store.peek t u = some st) :
    st.currentNodeId = n.id ∨ s.store.peek t u = some st :=
  of_peek_run (W := fun st => st.currentNodeId = n.id) (park_asks rfl fun _ => trivial) h

/-- What is found after a walk is at a node where it was parked, or was there before. -/
theorem Course.of_peek {agenda : List Edge} {w : Walk} {js : List Passage}
    {r : Option DeliveryError × Walk} (h : Course f c p agenda w s js r s') {t u : String}
    {st : Suspension} (hst : s'.store.peek t u = some st) :
    (∃ e n, .parked e n ∈ js ∧ st.currentNodeId = n.id) ∨ s.store.peek t u = some st := by
  induction h with
  | done w s => exact .inr hst
  | dangling _ _ ih | met _ _ _ _ ih =>
    exact (ih hst).imp_left fun ⟨e, n, hj, hn⟩ => ⟨e, n, List.mem_cons_of_mem _ hj, hn⟩
  | @parked e _ _ _ n _ _ _ _ _ _ ih =>
    rcases ih hst with ⟨e', n', hj, hn⟩ | h
    · exact .inl ⟨e', n', List.mem_cons_of_mem _ hj, hn⟩
    · exact (of_peek_park h).imp_left fun hn => ⟨e, n, List.mem_cons_self .., hn⟩
  | @ran e _ _ s n k s₁ _ s₂ _ _ _ _ _ _ hp hk _ ih =>
    have h1 : s₁.store = s.store := Node.store_of_perform hp
    have h2 : s₂.store = s₁.store := Node.store_of_keptEdges hk
    rw [h2, h1] at ih
    exact (ih hst).imp_left fun ⟨e, n, hj, hn⟩ => ⟨e, n, List.mem_cons_of_mem _ hj, hn⟩
  | @broke e _ _ s n err s₁ _ _ _ hp =>
    have h1 : s₁.store = s.store := Node.store_of_perform hp
    rw [h1] at hst
    exact .inr hst

/-- A flow goes on behind the node of a suspension in it that is in the store. -/
theorem peek_of_resumption {n : Node} {s₁ : World} (h : (f.resumption c).run p s = (some n, s₁)) :
    ∃ t u st, s.store.peek t u = some st ∧ st.flowId = f.id ∧ st.currentNodeId = n.id := by
  have hfound : f.found (s.sight c) = some n := by
    rw [← resumption_found (p := p), h]
  obtain ⟨st, hst, hn⟩ := Option.bind_eq_some_iff.1 hfound
  obtain ⟨hst, hid⟩ := Option.filter_eq_some_iff.1 hst
  refine ⟨c.message.tenantId, c.message.userId, st, ?_, by simpa using hid, (Flow.id_of_node? hn).symm⟩
  unfold World.sight SuspensionStore.get at hst
  split at hst
  · rename_i o ho
    split at ho
    · cases ho
      exact hst
    · cases ho
  · cases hst

/-! ## Where a run comes -/

/-- The ids of nodes at which senders are parked in this flow are reached from its triggers. -/
def Flow.Kept (f : Flow) (s : SuspensionStore) : Prop :=
  ∀ t u st, s.peek t u = some st → st.flowId = f.id → f.Reached st.currentNodeId

namespace Turn

variable {resumed : Bool} {entry : Node} {kept : List Edge} {js : List Passage}
  {r : Option DeliveryError × Walk}

theorem entry_reached (h : Turn f c p s resumed entry kept js r s') (hs : f.Kept s.store) :
    f.Reached entry.id := by
  cases h with
  | resumed hr _ _ =>
    obtain ⟨t, u, st, hst, hid, hn⟩ := peek_of_resumption hr
    rw [← hn]
    exact hs t u st hst hid
  | started _ ht _ _ =>
    obtain ⟨hn, keyword, hr, -⟩ := Flow.triggerFor_some ht
    exact Flow.reached_trigger (List.mem_filter.2 ⟨hn, by simp [Node.type, NodeRole.type, hr]⟩)

/-- The edges that are followed are edges of the flow, and leave ids that are reached if the entry is
reached. -/
theorem edge_reached (h : Turn f c p s resumed entry kept js r s') :
    ∀ j ∈ js, j.edge ∈ f.edges ∧ (f.Reached entry.id → f.Reached j.edge.source) := by
  have hout : ∀ {q : Edge → Bool} {id : String} {e : Edge}, e ∈ (f.outgoing id).filter q →
      e ∈ f.edges ∧ e.source = id := by
    intro q id e he
    obtain ⟨he, hs⟩ := List.mem_filter.1 (List.mem_filter.1 he).1
    exact ⟨he, beq_iff_eq.1 hs⟩
  obtain ⟨w, s₂, hc, -⟩ := h.course
  refine hc.edge_induction
    (P := fun e => e ∈ f.edges ∧ (f.Reached entry.id → f.Reached e.source)) (fun e he => ?_)
    fun e n k hj he e' he' => ?_
  · obtain ⟨q, hq⟩ := h.kept_filter
    rw [hq] at he
    exact ⟨(hout he).1, fun hr => (hout he).2 ▸ hr⟩
  · have hx : (n.id, k) ∈ expansions js := List.mem_filterMap.2 ⟨_, hj, rfl⟩
    obtain ⟨q, hq⟩ := hc.kept_filter _ hx
    dsimp only at hq
    rw [hq] at he'
    refine ⟨(hout he').1, fun hr => ?_⟩
    have hn : f.node? e.target = some n := (hc.fits _ hj).1
    rw [(hout he').2, Flow.id_of_node? hn]
    exact (he.2 hr).edge he.1 (Flow.joins_iff.2 ⟨(he.2 hr).hasNode, Flow.hasNode_of_node? hn⟩)

/-- A node that an edge leads to is reached if the entry is. -/
theorem target_reached (h : Turn f c p s resumed entry kept js r s') (hr : f.Reached entry.id)
    {j : Passage} (hj : j ∈ js) {n : Node} (hn : f.node? j.edge.target = some n) : f.Reached n.id := by
  obtain ⟨he, hs⟩ := h.edge_reached j hj
  rw [Flow.id_of_node? hn]
  exact (hs hr).edge he (Flow.joins_iff.2 ⟨(hs hr).hasNode, Flow.hasNode_of_node? hn⟩)

/-- What is found after a turn is at a node where it was parked, or was there before. -/
theorem of_peek (h : Turn f c p s resumed entry kept js r s') {t u : String} {st : Suspension}
    (hst : s'.store.peek t u = some st) :
    (∃ e n, .parked e n ∈ js ∧ st.currentNodeId = n.id) ∨ s.store.peek t u = some st := by
  obtain ⟨o, w, s₁, s₂, hr, hk, hc⟩ := h.stages
  refine (hc.of_peek hst).imp_right fun hst => of_peek_resumption (f := f) (c := c) (p := p) ?_
  have hstore : s₂.store = s₁.store := Node.store_of_keptEdges hk
  rw [hr, ← hstore]
  exact hst

theorem record_reached (h : Turn f c p s resumed entry kept js r s') (hr : f.Reached entry.id) :
    ∀ x ∈ r.2.records, f.Reached x.nodeId := by
  intro x hx
  rw [h.records_eq] at hx
  rcases List.mem_append.1 hx with hx | hx
  · split at hx
    · cases hx
    · cases List.mem_singleton.1 hx
      exact hr
  · obtain ⟨j, hj, hx⟩ := List.mem_filterMap.1 hx
    obtain ⟨w, s₂, hc, -⟩ := h.course
    obtain ⟨n, hn, hid⟩ := (hc.fits j hj).of_record hx
    rw [← hid]
    exact h.target_reached hr hj hn

end Turn

/-! ## One message -/

/-- A message comes to no node, and parks a run at none, that is not reached from a trigger. -/
theorem receive_reached (hs : f.Kept s.store) {rep : Report} (h : (f.receive c).run p s = (rep, s')) :
    (∀ x ∈ rep.records, f.Reached x.nodeId) ∧ f.Kept s'.store := by
  rcases receive_cases f c p s with ⟨s₁, hr, -, hrun⟩ | ⟨resumed, entry, kept, js, r, s₁, ht, hrun⟩
  · cases hrun.symm.trans h
    refine ⟨fun x hx => (List.not_mem_nil hx).elim, fun t u st hst => hs t u st ?_⟩
    exact of_peek_resumption (p := p) (by rw [hr]; exact hst)
  · cases hrun.symm.trans h
    have hentry := ht.entry_reached hs
    refine ⟨ht.record_reached hentry, fun t u st hst hid => ?_⟩
    rw [World.closed_store] at hst
    rcases ht.of_peek hst with ⟨e, n, hj, hn⟩ | hst
    · -- the run was parked there, so an edge led it there
      rw [hn]
      obtain ⟨_, _, _, _, _, _, hc⟩ := ht.stages
      exact ht.target_reached hentry hj (hc.fits _ hj).1
    · exact hs t u st hst hid

/-- Where all edges join nodes, no turn comes upon one that leads to none. -/
theorem Turn.not_dangling {resumed : Bool} {entry : Node} {kept : List Edge} {js : List Passage}
    {r : Option DeliveryError × Walk} (h : Turn f c p s resumed entry kept js r s')
    (hf : ∀ e ∈ f.edges, f.joins e = true) (e : Edge) : .dangling e ∉ js := by
  intro hj
  obtain ⟨_, _, _, _, _, _, hc⟩ := h.stages
  have hnone : f.node? e.target = none := hc.fits _ hj
  obtain ⟨n, hn⟩ := Flow.exists_node? (Flow.joins_iff.1 (hf e (h.edge_reached _ hj).1)).2
  cases hnone.symm.trans hn

/-- Where all edges join nodes, no message logs that one leads to none. -/
theorem receive_joined (hf : ∀ e ∈ f.edges, f.joins e = true) {rep : Report}
    (h : (f.receive c).run p s = (rep, s')) {e n : String}
    (hw : .tolerated (.nodeReference e n) ∈ s'.log.edgeWarnings) :
    .tolerated (.nodeReference e n) ∈ s.log.edgeWarnings := by
  rcases receive_cases f c p s with ⟨s₁, hr, -, hrun⟩ | ⟨resumed, entry, kept, js, r, s₁, ht, hrun⟩
  · cases hrun.symm.trans h
    have hlog := resumption_edgeWarnings (f := f) (c := c) (p := p) s
    rw [hr] at hlog
    rw [← hlog]
    exact hw
  · cases hrun.symm.trans h
    rw [World.closed_edgeWarnings, ht.edgeWarnings_eq] at hw
    rcases List.mem_append.1 hw with hw | hw
    · exact hw
    · obtain ⟨j, hj, hw⟩ := List.mem_filterMap.1 hw
      cases j with
      | dangling e' => exact absurd hj (ht.not_dangling hf e')
      | met e' m => cases hw
      | parked e' m => cases hw
      | ran e' m k => cases hw
      | broke e' m => cases hw

/-- No sender is parked in the flow. -/
def Flow.Absent (f : Flow) (s : SuspensionStore) : Prop :=
  ∀ t u st, s.peek t u = some st → st.flowId ≠ f.id

/-- A flow without a trigger that can match, and in which nobody is parked, does nothing. -/
theorem receive_idle (hs : f.Absent s.store) (hf : ∀ body, f.triggerFor body = none) {rep : Report}
    (h : (f.receive c).run p s = (rep, s')) :
    rep = .notEngaged f.id 0 ∧ s'.log.sent = s.log.sent ∧ f.Absent s'.store := by
  rcases receive_cases f c p s with ⟨s₁, hr, -, hrun⟩ | ⟨resumed, entry, kept, js, r, s₁, ht, -⟩
  · cases hrun.symm.trans h
    have hlook := run_looks p (resumption_asks f c) s
    rw [hr] at hlook
    refine ⟨rfl, hlook.sent, fun t u st hst => hs t u st ?_⟩
    exact of_peek_resumption (p := p) (by rw [hr]; exact hst)
  · cases ht with
    | resumed hr _ _ =>
      obtain ⟨t, u, st, hst, hid, -⟩ := peek_of_resumption hr
      exact absurd hid (hs t u st hst)
    | started _ ht _ _ => cases (hf _).symm.trans ht

end

/-! ## Many messages -/

namespace Flow

/-- Messages given to one flow, one after another, each some time after the one before. -/
def receiveAll (f : Flow) (s : SuspensionStore) : List (Nat × Visit) → List Exchange × SuspensionStore
  | [] => ([], s)
  | (pause, v) :: vs =>
    let (x, s) := v.receive f (s.advance pause)
    let (xs, s) := f.receiveAll s vs
    (x :: xs, s)

variable {f : Flow}

/-- What time and every message keep is kept by many messages, and what every message shows that is
given to the flow in such a store is shown by all of them. -/
theorem receiveAll_induction {I : SuspensionStore → Prop} {P : Exchange → Prop}
    (hadvance : ∀ s millis, I s → I (s.advance millis))
    (hreceive : ∀ s (v : Visit), I s → P (v.receive f s).1 ∧ I (v.receive f s).2)
    {s : SuspensionStore} (hs : I s) (vs : List (Nat × Visit)) :
    (∀ x ∈ (f.receiveAll s vs).1, P x) ∧ I (f.receiveAll s vs).2 := by
  induction vs generalizing s with
  | nil => exact ⟨fun x hx => (List.not_mem_nil hx).elim, hs⟩
  | cons v vs ih =>
    obtain ⟨hx, hs'⟩ := hreceive _ v.2 (hadvance s v.1 hs)
    obtain ⟨hxs, hs''⟩ := ih hs'
    exact ⟨List.forall_mem_cons.2 ⟨hx, hxs⟩, hs''⟩

theorem receiveAll_reached {s : SuspensionStore} (hs : f.Kept s) (vs : List (Nat × Visit)) :
    (∀ x ∈ (f.receiveAll s vs).1, ∀ rep, x.report = some rep → ∀ rec ∈ rep.records,
      f.Reached rec.nodeId) ∧ f.Kept (f.receiveAll s vs).2 := by
  refine receiveAll_induction (fun s millis hs t u st hst => ?_) (fun s v hs => ?_) hs vs
  · exact hs t u st (SuspensionStore.of_peek_advance hst)
  · obtain ⟨hrec, hkept⟩ := receive_reached (c := v.context) (p := v.partners)
      (s := { store := s }) hs rfl
    exact ⟨fun rep hrep => Option.some.inj hrep ▸ hrec, hkept⟩

theorem receiveAll_joined (hf : ∀ e ∈ f.edges, f.joins e = true) (s : SuspensionStore)
    (vs : List (Nat × Visit)) : ∀ x ∈ (f.receiveAll s vs).1, ∀ e n,
      .tolerated (.nodeReference e n) ∉ x.log.warnings := by
  refine (receiveAll_induction (I := fun _ => True) (fun _ _ _ => trivial) (fun s v _ => ?_)
    trivial vs).1
  refine ⟨fun e n hw => ?_, trivial⟩
  have hw' := receive_joined hf (s := { store := s }) (c := v.context) (p := v.partners) rfl
    (List.mem_filter.2 ⟨hw, rfl⟩)
  exact List.not_mem_nil hw'

theorem receiveAll_idle (hf : ∀ body, f.triggerFor body = none) {s : SuspensionStore}
    (hs : f.Absent s) (vs : List (Nat × Visit)) : ∀ x ∈ (f.receiveAll s vs).1,
      x.report = some (.notEngaged f.id 0) ∧ x.log.sent = [] := by
  refine (receiveAll_induction (fun s millis hs t u st hst => ?_) (fun s v hs => ?_) hs vs).1
  · exact hs t u st (SuspensionStore.of_peek_advance hst)
  · obtain ⟨hrep, hsent, habsent⟩ := receive_idle (c := v.context) (p := v.partners)
      (s := { store := s }) hs hf rfl
    exact ⟨⟨congrArg some hrep, hsent⟩, habsent⟩

/-- A trigger with a blank keyword matches nothing. -/
theorem triggerFor_of_allBlank
    (h : ∀ n ∈ f.nodes, ∀ keyword, n.role = .trigger keyword → Text.allBlank keyword = true)
    (body : String) : f.triggerFor body = none := by
  cases ht : f.triggerFor body with
  | none => rfl
  | some n =>
    obtain ⟨hn, keyword, hr, hne, -⟩ := triggerFor_some ht
    exact absurd (Text.normalize_of_allBlank (h n hn keyword hr)) hne

/-- Validation is sound. In a store in which no sender is parked in the flow, whatever messages the flow
is given and whenever: no handler runs, and no sender is parked, at an id that is reported to be out of
reach; if no edge is reported to be dangling, no warning is logged of an edge to a missing node; and if
the lack of a trigger is reported, or a blank keyword as often as there are triggers, under every id,
nothing ever engages and nothing is sent. -/
theorem validation_sound (f : Flow) (s : SuspensionStore)
    (hs : ∀ t u st, s.peek t u = some st → st.flowId ≠ f.id) (vs : List (Nat × Visit)) :
    (∀ id, .unreachable id ∈ f.validate →
      (∀ x ∈ (f.receiveAll s vs).1, ∀ rep, x.report = some rep → id ∉ rep.visited) ∧
      ∀ t u st, (f.receiveAll s vs).2.peek t u = some st → st.flowId = f.id →
        st.currentNodeId ≠ id) ∧
    ((∀ e n, .danglingEdge e n ∉ f.validate) →
      ∀ x ∈ (f.receiveAll s vs).1, ∀ e n, .tolerated (.nodeReference e n) ∉ x.log.warnings) ∧
    (.noTrigger ∈ f.validate ∨
        (∀ id, f.triggers.countP (·.id == id) ≤ f.validate.count (.emptyTriggerKeyword id)) →
      ∀ x ∈ (f.receiveAll s vs).1, x.report = some (.notEngaged f.id 0) ∧ x.log.sent = []) := by
  refine ⟨fun id hid => ?_, fun hno => ?_, fun htrig => ?_⟩
  · obtain ⟨-, -, hun⟩ := unreachable_mem_validate.1 hid
    obtain ⟨hrec, hkept⟩ := receiveAll_reached
      (fun t u st hst he => absurd he (hs t u st hst)) vs
    refine ⟨fun x hx rep hrep hmem => ?_, fun t u st hst he hn => ?_⟩
    · obtain ⟨rec, hr, rfl⟩ := List.mem_map.1 hmem
      exact hun (hrec x hx rep hrep rec hr)
    · exact hun (hn ▸ hkept t u st hst he)
  · refine receiveAll_joined (fun e he => joins_iff.2 ⟨?_, ?_⟩) s vs
    · by_contra h
      exact hno e.id e.source (danglingEdge_mem_validate.2 ⟨e, he, rfl, .inl rfl, by simpa using h⟩)
    · by_contra h
      exact hno e.id e.target (danglingEdge_mem_validate.2 ⟨e, he, rfl, .inr rfl, by simpa using h⟩)
  · refine receiveAll_idle (triggerFor_of_allBlank fun n hn keyword hr => ?_) hs vs
    rcases htrig with h | h
    · have hn' : n ∈ f.triggers := List.mem_filter.2 ⟨hn, by simp [Node.type, NodeRole.type, hr]⟩
      rw [noTrigger_mem_validate.1 h] at hn'
      cases hn'
    · exact allBlank_of_reported h hn hr

/-- `survey` with a node to which nothing leads. -/
def island : Flow :=
  survey.addNode (.action "x" "X")

/-- A flow of two triggers with one id. -/
def twins (keyword keyword' : String) : Flow :=
  { survey with nodes := [.trigger "t" keyword, .trigger "t" keyword'], edges := [] }

/-- A sender says the keyword of `survey`, and something else after a while. -/
def twoVisits : List (Nat × Visit) :=
  [(0, ⟨sayGo, attentive⟩), (5, ⟨{ sayGo with message := ⟨"on", ⟨"u1", []⟩, "t1", none⟩ }, attentive⟩)]

/-- In `island` two messages come to every other node, and `twins` with blank keywords never engage. -/
theorem island_sound :
    .unreachable "x" ∈ island.validate ∧ (∀ e n, .danglingEdge e n ∉ island.validate) ∧
    (island.receiveAll {} twoVisits).1.map (·.report.map (·.visited)) =
      [some ["t", "a", "w", "w"], some ["b"]] ∧
    (∀ x ∈ (island.receiveAll {} twoVisits).1, ∀ rep, x.report = some rep → "x" ∉ rep.visited) ∧
    (∀ x ∈ (island.receiveAll {} twoVisits).1, ∀ e n,
      .tolerated (.nodeReference e n) ∉ x.log.warnings) ∧
    (∀ x ∈ ((twins "" " ").receiveAll {} twoVisits).1,
      x.report = some (.notEngaged "survey" 0) ∧ x.log.sent = []) := by
  have hempty : ∀ (f : Flow) (t u : String) (st : Suspension),
      ({} : SuspensionStore).peek t u = some st → st.flowId ≠ f.id := fun _ _ _ _ h => by cases h
  have hisland : island.validate = [.cycle ["a"], .unreachable "x"] := by cbv
  have hx : .unreachable "x" ∈ island.validate := by rw [hisland]; decide
  have hno : ∀ e n, .danglingEdge e n ∉ island.validate := by rw [hisland]; simp
  have htwins : ∀ id, (twins "" " ").triggers.countP (·.id == id) ≤
      (twins "" " ").validate.count (.emptyTriggerKeyword id) := by
    intro id
    have hv : (twins "" " ").validate =
        [.duplicateNodeId "t", .emptyTriggerKeyword "t", .emptyTriggerKeyword "t"] := by cbv
    rw [hv]
    by_cases hid : "t" = id
    · subst hid
      decide
    · have hb : ("t" == id) = false := beq_eq_false_iff_ne.2 hid
      simp [twins, triggers, Node.trigger, Node.type, NodeRole.type, hb]
  obtain ⟨hreach, hjoin, -⟩ := validation_sound island {} (hempty _) twoVisits
  exact ⟨hx, hno, by cbv, fun x hmem => (hreach "x" hx).1 x hmem, hjoin hno,
    (validation_sound (twins "" " ") {} (hempty _) twoVisits).2.2 (.inr htwins)⟩

/-- That a blank keyword is reported under the id of every trigger does not tell as much, where two
triggers have one id. -/
example : (twins "" "go").validate = [.duplicateNodeId "t", .emptyTriggerKeyword "t"] ∧
    ((twins "" "go").receiveAll {} twoVisits).1.map (·.report.map (·.outcome)) =
      [some .completed, some .notEngaged] := by
  constructor <;> cbv

end Flow

end Dialogue
