/-
The suspension that a message leaves behind. In a store that works, a flow takes up the sender's
suspension if it is one of its own, and every other one stays; then each branch that parks writes
over what an earlier branch wrote, so that what is left is the node parked at last (`receive_store`).
-/
import Dialogue.Proofs.Run.Turn
import Dialogue.Proofs.Suspension.Store

namespace Dialogue

open Program

/-! ## The entry of the sender -/

section

variable (s : World) (c : RunContext)

/-- The live suspension of the sender. -/
def World.entry : Option Suspension :=
  s.store.peek c.message.tenantId c.message.userId

/-- The world without a suspension of the sender. -/
def World.forget : World :=
  { s with store := s.store.drop c.message.tenantId c.message.userId }

@[simp] theorem World.entry_forget : (s.forget c).entry c = none :=
  s.store.peek_drop _ _

@[simp] theorem World.forget_store :
    (s.forget c).store = s.store.drop c.message.tenantId c.message.userId := rfl

/-- The world without a suspension of the sender in this flow. -/
def World.claimed (flowId : String) : World :=
  if (s.entry c).any (·.flowId == flowId) then s.forget c else s

theorem World.entry_claimed (flowId : String) :
    (s.claimed c flowId).entry c = (s.entry c).filter (·.flowId != flowId) := by
  unfold claimed
  cases he : s.entry c with
  | none => exact he
  | some st =>
    by_cases hf : st.flowId = flowId
    · rw [Option.filter_some_neg (by simp [hf]), if_pos (by simp [hf]), entry_forget]
    · rw [Option.filter_some_pos (by simp [hf]), if_neg (by simp [hf]), he]

/-- A suspension in another flow is left alone. -/
theorem World.claimed_eq_self {flowId : String}
    (h : ∀ st, s.entry c = some st → st.flowId ≠ flowId) : s.claimed c flowId = s := by
  unfold claimed
  cases he : s.entry c with
  | none => rfl
  | some st => rw [if_neg (by simp [h st he])]

variable (p : Partners) {s : World} (hw : s.store.Works)
include hw

theorem World.answer_read :
    s.answer p (.readState c.message.tenantId c.message.userId) = (.ok (s.entry c), s) :=
  Prod.ext (SuspensionStore.get_eq _ _ hw.readable) rfl

theorem World.answer_drop :
    s.answer p (.dropState c.message.tenantId c.message.userId) = (.ok (), s.forget c) := by
  simp only [World.answer, SuspensionStore.delete_eq _ _ hw.writable, World.forget]

end

/-! ## Looking for a suspension -/

/-- Between two worlds nothing was done but to look for the sender's suspension: nothing was sent
and nothing asked, and the store is as it was, or without that suspension. -/
structure World.Looked (c : RunContext) (s t : World) : Prop where
  sent : t.log.sent = s.log.sent
  prompts : t.log.prompts = s.log.prompts
  calls : t.log.calls = s.log.calls
  store : t.store = s.store ∨ t.store = (s.forget c).store

/-- A request that looks for the sender's suspension, drops it, or warns of anything but an edge. -/
def Request.Looks (c : RunContext) : Request → Prop
  | .readState t u => t = c.message.tenantId ∧ u = c.message.userId
  | .dropState t u => t = c.message.tenantId ∧ u = c.message.userId
  | .warn w => w.ofEdge = false
  | _ => False

theorem World.Looked.refl (c : RunContext) (s : World) : s.Looked c s :=
  ⟨rfl, rfl, rfl, .inl rfl⟩

theorem World.Looked.trans {c : RunContext} {s t u : World} (h : s.Looked c t) (h' : t.Looked c u) :
    s.Looked c u := by
  refine ⟨h'.sent.trans h.sent, h'.prompts.trans h.prompts, h'.calls.trans h.calls, ?_⟩
  rcases h.store with h1 | h1 <;> rcases h'.store with h2 | h2
  · exact .inl (h2.trans h1)
  · exact .inr (by rw [h2, forget_store, h1, forget_store])
  · exact .inr (h2.trans h1)
  · exact .inr (by rw [h2, forget_store, h1, forget_store, SuspensionStore.drop_drop])

theorem World.answer_looks {c : RunContext} (p : Partners) (s : World) {r : Request}
    (h : r.Looks c) : s.Looked c (s.answer p r).2 := by
  cases r with
  | readState t u => exact .refl c s
  | dropState t u =>
    obtain ⟨rfl, rfl⟩ := h
    refine ⟨rfl, rfl, rfl, ?_⟩
    simp only [answer, SuspensionStore.delete]
    split
    · exact .inr rfl
    · exact .inl rfl
  | warn w => exact ⟨rfl, rfl, rfl, .inl rfl⟩
  | writeState t u state ttl => exact h.elim
  | send text => exact h.elim
  | classify prompt => exact h.elim
  | respond call => exact h.elim

theorem Program.run_looks {c : RunContext} {α : Type} (p : Partners) {x : Program α}
    (h : x.Asks (Request.Looks c)) (s : World) : s.Looked c (x.run p s).2 :=
  run_relates (.refl c) (fun _ _ _ => .trans) (fun s _ hr => World.answer_looks p s hr) h s

theorem Request.Looks.offEdge {c : RunContext} {r : Request} (h : r.Looks c) : r.OffEdge := by
  cases r with
  | warn w => exact h
  | readState t u => trivial
  | writeState t u state ttl => trivial
  | dropState t u => trivial
  | send text => trivial
  | classify prompt => trivial
  | respond call => trivial

theorem Request.Looks.internal {c : RunContext} {r : Request} (h : r.Looks c) : r.Internal := by
  cases r with
  | readState t u => trivial
  | dropState t u => trivial
  | warn w => trivial
  | writeState t u state ttl => exact h.elim
  | send text => exact h.elim
  | classify prompt => exact h.elim
  | respond call => exact h.elim

theorem resumption_asks (f : Flow) (c : RunContext) : (f.resumption c).Asks (Request.Looks c) := by
  unfold Flow.resumption
  refine asks_bind (asks_request ⟨rfl, rfl⟩) fun a => ?_
  rcases a with e | _ | st
  · exact asks_bind (asks_warn rfl) fun _ => asks_pure _
  · exact asks_pure _
  · refine asks_ite (asks_pure _) (asks_bind (asks_request ⟨rfl, rfl⟩) fun b => ?_)
    cases f.node? st.currentNodeId with
    | none =>
      cases b with
      | ok _ => exact asks_bind (asks_warn rfl) fun _ => asks_pure _
      | error e =>
        refine asks_bind (asks_warn rfl) fun _ => ?_
        exact asks_bind (asks_warn rfl) fun _ => asks_pure _
    | some n =>
      cases b with
      | ok _ => exact asks_pure _
      | error e => exact asks_bind (asks_warn rfl) fun _ => asks_pure _

/-! ## The suspension that is left behind -/

/-- The id of the node that records tell was parked at last. -/
def lastParked (records : List RunRecord) : Option String :=
  ((records.filter (·.status == .suspended)).getLast?).map (·.nodeId)

/-- The suspension that a report tells was left behind: at the node parked at last. -/
def Report.parking (c : RunContext) (rep : Report) : Option Suspension :=
  (lastParked rep.records).map fun id => ⟨rep.flowId, id, c.message.tenantId, c.message.userId, c.now⟩

/-- The store with a suspension of the sender written, if there is one to write. -/
def SuspensionStore.keep (s : SuspensionStore) (c : RunContext) : Option Suspension → SuspensionStore
  | some st => s.put c.message.tenantId c.message.userId st c.config.suspensionTtl
  | none => s

theorem lastParked_cons (x : RunRecord) (l : List RunRecord) :
    lastParked (x :: l) = (lastParked l).or (if x.status = .suspended then some x.nodeId else none) := by
  unfold lastParked
  rw [List.filter_cons]
  by_cases h : x.status = .suspended
  · rw [if_pos (by simp [h]), if_pos h, List.getLast?_cons]
    cases (l.filter (·.status == .suspended)).getLast? <;> rfl
  · rw [if_neg (by simp [h]), if_neg h, Option.or_none]

/-- Of the passages of a walk only those at which it was parked bear on the node parked at last. -/
theorem lastParked_passages (c : RunContext) (j : Passage) (js : List Passage) :
    lastParked ((j :: js).filterMap (·.record? c)) =
      (lastParked (js.filterMap (·.record? c))).or j.parkedAt? := by
  rw [List.filterMap_cons]
  cases j with
  | dangling e => exact (Option.or_none ..).symm
  | met e n => exact (Option.or_none ..).symm
  | parked e n => exact lastParked_cons _ _
  | ran e n kept => exact lastParked_cons _ _
  | broke e n => exact lastParked_cons _ _

theorem SuspensionStore.peek_keep (s : SuspensionStore) {c : RunContext}
    (ht : 0 < c.config.suspensionTtl) (o : Option Suspension) :
    (s.keep c o).peek c.message.tenantId c.message.userId =
      o.or (s.peek c.message.tenantId c.message.userId) := by
  cases o with
  | none => rfl
  | some st => exact s.peek_put _ _ st ht

/-- The suspension that is there after writing one, or none, is the one that was written, or the one
before if none was. -/
theorem SuspensionStore.of_peek_keep {s : SuspensionStore} {c : RunContext} {o : Option Suspension} {st : Suspension}
    (h : (s.keep c o).peek c.message.tenantId c.message.userId = some st) :
    o = some st ∨ o = none ∧ s.peek c.message.tenantId c.message.userId = some st := by
  cases o with
  | none => exact .inr ⟨rfl, h⟩
  | some st' =>
    left
    unfold SuspensionStore.keep SuspensionStore.peek SuspensionStore.put at h
    rw [Table.get?_insert, if_pos rfl] at h
    dsimp only at h
    split at h
    · exact h
    · cases h

/-- Only what is written last counts. -/
theorem SuspensionStore.keep_put (s : SuspensionStore) (c : RunContext) (st : Suspension)
    (o : Option Suspension) :
    (s.put c.message.tenantId c.message.userId st c.config.suspensionTtl).keep c o =
      s.keep c (o.or (some st)) := by
  cases o with
  | none => rfl
  | some st' => exact s.put_put _ _ st st' _ _

section

variable {f : Flow} {c : RunContext} {p : Partners}

/-! ## Taking up a suspension -/

theorem resumption_edgeWarnings (s : World) :
    ((f.resumption c).run p s).2.log.edgeWarnings = s.log.edgeWarnings :=
  run_edgeWarnings p ((resumption_asks f c).mono fun _ => Request.Looks.offEdge) s

/-- In a store that works: the sender's suspension is taken up if it is in this flow, whether or not
its node is still there, and is left alone otherwise. -/
theorem resumption_run {s : World} (hw : s.store.Works) : (f.resumption c).run p s =
    match (s.entry c).filter (·.flowId == f.id) with
    | none => (none, s)
    | some st =>
      match f.node? st.currentNodeId with
      | some n => (some n, s.forget c)
      | none => (none, (s.forget c).warned (.suspendedNodeGone st.currentNodeId)) := by
  unfold Flow.resumption
  simp only [run_bind, run_request]
  rw [World.answer_read c p hw]
  cases he : s.entry c with
  | none => rfl
  | some st =>
    by_cases hf : st.flowId = f.id
    · have hb : (st.flowId != f.id) = false := by simp [hf]
      have hs : (some st).filter (·.flowId == f.id) = some st := Option.filter_some_pos (by simp [hf])
      simp only [hb, Bool.false_eq_true, if_false, run_bind, run_request, World.answer_drop c p hw, hs]
      cases f.node? st.currentNodeId with
      | none => rfl
      | some n => rfl
    · have hb : (st.flowId != f.id) = true := by simp [hf]
      have hs : (some st).filter (·.flowId == f.id) = none := Option.filter_some_neg (by simp [hf])
      simp only [hb, if_true, run_pure, hs]

theorem resumption_none {s : World} (hw : s.store.Works) (he : s.entry c = none) :
    (f.resumption c).run p s = (none, s) := by
  rw [resumption_run hw, he]
  rfl

/-- A suspension at a node of this flow is taken up. -/
theorem resumption_live {s : World} (hw : s.store.Works) {st : Suspension}
    (he : s.entry c = some st) (hid : f.id = st.flowId) {n : Node}
    (hn : f.node? st.currentNodeId = some n) : (f.resumption c).run p s = (some n, s.forget c) := by
  rw [resumption_run hw, he, Option.filter_some_pos (by simp [hid])]
  dsimp only
  rw [hn]

/-- A suspension whose node is gone is discarded. -/
theorem resumption_stale {s : World} (hw : s.store.Works) {st : Suspension}
    (he : s.entry c = some st) (hid : f.id = st.flowId) (hn : f.node? st.currentNodeId = none) :
    (f.resumption c).run p s =
      (none, (s.forget c).warned (.suspendedNodeGone st.currentNodeId)) := by
  rw [resumption_run hw, he, Option.filter_some_pos (by simp [hid])]
  dsimp only
  rw [hn]

/-- What taking up a suspension does to the store. -/
theorem resumption_store {s s' : World} (hw : s.store.Works) {o : Option Node}
    (h : (f.resumption c).run p s = (o, s')) : s'.store = (s.claimed c f.id).store := by
  rw [resumption_run hw] at h
  unfold World.claimed
  cases he : s.entry c with
  | none => rw [he] at h; cases h; rfl
  | some st =>
    rw [he] at h
    by_cases hf : st.flowId = f.id
    · rw [Option.filter_some_pos (by simp [hf])] at h
      rw [if_pos (by simp [hf])]
      dsimp only at h
      cases hn : f.node? st.currentNodeId with
      | none => rw [hn] at h; cases h; rfl
      | some n => rw [hn] at h; cases h; rfl
    · rw [Option.filter_some_neg (by simp [hf])] at h
      rw [if_neg (by simp [hf])]
      cases h
      rfl

/-! ## Leaving one behind -/

theorem park_run {n : Node} {s : World} (hw : s.store.Works) :
    ((park ⟨f, .ofFlow f, c⟩ n).run p s).2.store = s.store.put c.message.tenantId c.message.userId
      ⟨f.id, n.id, c.message.tenantId, c.message.userId, c.now⟩ c.config.suspensionTtl := by
  unfold park
  simp only [run_bind, run_request, World.answer, SuspensionStore.set_eq _ _ hw.writable, run_pure]

/-- A course leaves the suspension at the node it parked at last. -/
theorem Course.store_eq {agenda : List Edge} {w : Walk} {s s' : World} {js : List Passage}
    {r : Option DeliveryError × Walk} (h : Course f c p agenda w s js r s') (hw : s.store.Works) :
    s'.store = s.store.keep c ((lastParked (js.filterMap (·.record? c))).map fun id =>
      ⟨f.id, id, c.message.tenantId, c.message.userId, c.now⟩) := by
  induction h with
  | done w s => rfl
  | dangling _ _ ih => exact ih hw
  | met _ _ _ _ ih => exact ih hw
  | @parked e agenda w s n js r s' _ _ _ ih =>
    have hs : ((park ⟨f, .ofFlow f, c⟩ n).run p s).2.store = _ := park_run hw
    -- what is written here stays only if no later passage writes
    rw [ih (by rw [hs]; exact hw.put _ _ _ _), hs, SuspensionStore.keep_put]
    rw [lastParked_passages]
    cases lastParked (js.filterMap (·.record? c)) <;> rfl
  | @ran e agenda w s n k s₁ kept s₂ js r s' _ _ _ hp hk _ ih =>
    have h1 : s₁.store = s.store := Node.store_of_perform hp
    have h2 : s₂.store = s₁.store := Node.store_of_keptEdges hk
    rw [ih (by rw [h2, h1]; exact hw), h2, h1, lastParked_passages]
    exact congrArg _ (congrArg _ (Option.or_none ..).symm)
  | @broke e agenda w s n err s₁ _ _ _ hp =>
    have h1 : s₁.store = s.store := Node.store_of_perform hp
    rw [h1]
    rfl

variable {s s' : World}

theorem World.claimed_works (hw : s.store.Works) (flowId : String) : (s.claimed c flowId).store.Works := by
  unfold claimed
  split
  · exact hw.drop _ _
  · exact hw

/-- A turn leaves the suspension that its report tells of, in place of one it took up. -/
theorem Turn.store_eq {resumed : Bool} {entry : Node} {kept : List Edge} {js : List Passage}
    {r : Option DeliveryError × Walk} (h : Turn f c p s resumed entry kept js r s')
    (hw : s.store.Works) :
    s'.store = (s.claimed c f.id).store.keep c ((r.2.report f resumed r.1).parking c) := by
  obtain ⟨n, w, s₁, s₂, hr, hk, hc, hrec⟩ : ∃ n w s₁ s₂, (f.resumption c).run p s = (n, s₁) ∧
      (entry.keptEdges c (f.outgoing entry.id)).run p s₁ = (kept, s₂) ∧
      Course f c p kept w s₂ js r s' ∧ lastParked (w.records ++ js.filterMap (·.record? c)) =
        lastParked (js.filterMap (·.record? c)) := by
    cases h with
    | resumed hr hk hc => exact ⟨_, _, _, _, hr, hk, hc, rfl⟩
    | started hr _ hk hc =>
      refine ⟨_, _, _, _, hr, hk, hc, ?_⟩
      exact (lastParked_cons _ _).trans (Option.or_none ..)
  have h1 : s₁.store = (s.claimed c f.id).store := resumption_store hw hr
  have h2 : s₂.store = s₁.store := Node.store_of_keptEdges hk
  rw [hc.store_eq (by rw [h2, h1]; exact World.claimed_works hw _), h2, h1, ← hrec, ← hc.records_eq]
  rfl

/-- The warnings of edges that a turn adds are those of its passages. -/
theorem Turn.edgeWarnings_eq {resumed : Bool} {entry : Node} {kept : List Edge} {js : List Passage}
    {r : Option DeliveryError × Walk} (h : Turn f c p s resumed entry kept js r s') :
    s'.log.edgeWarnings = s.log.edgeWarnings ++ js.filterMap (·.warning?) := by
  obtain ⟨o, w, s₁, s₂, hr, hk, hc⟩ := h.stages
  have h1 : s₁.log.edgeWarnings = s.log.edgeWarnings := by
    have := resumption_edgeWarnings (f := f) (c := c) (p := p) s
    rwa [hr] at this
  have h2 : s₂.log.edgeWarnings = s₁.log.edgeWarnings := Node.edgeWarnings_of_keptEdges hk
  rw [hc.edgeWarnings_eq, h2, h1]

/-- What handling a message in a flow does to the store. -/
theorem receive_store (hw : s.store.Works) {rep : Report} (h : (f.receive c).run p s = (rep, s')) :
    rep.flowId = f.id ∧ s'.store = (s.claimed c f.id).store.keep c (rep.parking c) := by
  rcases receive_cases f c p s with ⟨s₁, hr, -, hrun⟩ | ⟨resumed, entry, kept, js, r, s₁, ht, hrun⟩
  · cases hrun.symm.trans h
    exact ⟨rfl, resumption_store hw hr⟩
  · cases hrun.symm.trans h
    rw [World.closed_store]
    exact ⟨rfl, ht.store_eq hw⟩

/-- The sender's suspension after a message in a flow: the one that the report tells of, or else the
one before, unless it was in this flow. -/
theorem receive_entry (hw : s.store.Works) (ht : 0 < c.config.suspensionTtl) {rep : Report}
    (h : (f.receive c).run p s = (rep, s')) :
    s'.entry c = (rep.parking c).or ((s.entry c).filter (·.flowId != f.id)) := by
  rw [← World.entry_claimed]
  unfold World.entry
  rw [(receive_store hw h).2]
  exact SuspensionStore.peek_keep _ ht _

/-- The suspension that is there after a message in a flow is the one that the report tells of, or else
the one before, in another flow. -/
theorem receive_left (hw : s.store.Works) {rep : Report} (h : (f.receive c).run p s = (rep, s'))
    {st : Suspension} (he : s'.entry c = some st) : rep.parking c = some st ∨
      rep.parking c = none ∧ s.entry c = some st ∧ st.flowId ≠ f.id := by
  unfold World.entry at he
  rw [(receive_store hw h).2] at he
  rcases SuspensionStore.of_peek_keep he with hp | ⟨hp, hs⟩
  · exact .inl hp
  · right
    change (s.claimed c f.id).entry c = some st at hs
    rw [World.entry_claimed] at hs
    obtain ⟨hs, hf⟩ := Option.filter_eq_some_iff.1 hs
    exact ⟨hp, hs, by simpa using hf⟩

theorem receive_works (hw : s.store.Works) {rep : Report} (h : (f.receive c).run p s = (rep, s')) :
    s'.store.Works := by
  rw [(receive_store hw h).2]
  have hc : (s.claimed c f.id).store.Works := World.claimed_works hw _
  cases rep.parking c with
  | none => exact hc
  | some st => exact hc.put _ _ _ _

end

end Dialogue
