/-
Stores that refuse. A store that cannot be read is as good as an empty one, and a store that can be
read but not written is as good as one that works and is set back after every message; the answers
and the replies are the same, message by message, and what cannot be written stays (`faults_unseen`).

The case to look at is a delete that is refused: the suspension is still there when routing turns to
another flow. It is of no account to that one, for it is in a flow with another id, or in one that is
not there (`route_alike`).
-/
import Dialogue.Proofs.Routing.Desk
import Dialogue.Proofs.Run.Indifference

namespace Dialogue

open Program

section

variable {flows : List Flow} {c : RunContext} {p : Partners} {s t : World}

/-! ## Routing by sight -/

theorem routeByTrigger_alike (h : s.log.muted = t.log.muted)
    (hs : ∀ f ∈ flows, f.found (s.sight c) = none) (ht : ∀ f ∈ flows, f.found (t.sight c) = none) :
    Alike ((routeByTrigger flows c).run p s) ((routeByTrigger flows c).run p t) := by
  cases hf : flows.find? (fun f => (f.triggerFor c.message.body).isSome) with
  | none =>
    rw [routeByTrigger_none hf, routeByTrigger_none hf]
    exact ⟨rfl, h⟩
  | some f =>
    have hmem : f ∈ flows := List.mem_of_find?_eq_some hf
    obtain ⟨hrep, hlog⟩ := receive_alike (f := f) (p := p) h ((hs f hmem).trans (ht f hmem).symm)
    rw [routeByTrigger_some hf rfl, routeByTrigger_some hf rfl]
    exact ⟨congrArg some hrep, hlog⟩

/-- Where no suspension is in sight the triggers decide. -/
theorem route_unsighted (flows : List Flow) (p : Partners) (h : s.sight c = none) :
    ∃ s₁, s.Looked c s₁ ∧ (route flows c).run p s = (routeByTrigger flows c).run p s₁ := by
  unfold World.sight at h
  have hread : s.answer p (.readState c.message.tenantId c.message.userId) =
      (s.store.get c.message.tenantId c.message.userId, s) := rfl
  unfold route
  rw [run_bind, run_request, hread]
  rcases hg : s.store.get c.message.tenantId c.message.userId with e | o
  · exact ⟨s.warned (.tolerated (.cacheRead e)), ⟨rfl, rfl, rfl, .inl rfl⟩, rfl⟩
  · rw [hg] at h
    dsimp only at h
    subst h
    exact ⟨s, .refl c s, rfl⟩

/-- With a suspension in sight, the flow that it is in goes first; if that flow is not there, the
suspension is discarded and the triggers decide. -/
theorem route_sighted (flows : List Flow) (p : Partners) {st : Suspension}
    (h : s.sight c = some st) : (route flows c).run p s =
      match flows.find? (·.id == st.flowId) with
      | some f =>
        if ((f.receive c).run p s).1.outcome = .notEngaged then
          (routeByTrigger flows c).run p ((f.receive c).run p s).2
        else (some ((f.receive c).run p s).1, ((f.receive c).run p s).2)
      | none =>
        (routeByTrigger flows c).run p ((discardSuspension c st.flowId).run p s).2 := by
  unfold World.sight at h
  have hread : s.answer p (.readState c.message.tenantId c.message.userId) =
      (s.store.get c.message.tenantId c.message.userId, s) := rfl
  unfold route
  rw [run_bind, run_request, hread]
  rcases hg : s.store.get c.message.tenantId c.message.userId with e | o
  · rw [hg] at h
    cases h
  · rw [hg] at h
    dsimp only at h
    subst h
    dsimp only
    cases flows.find? (·.id == st.flowId) with
    | none =>
      dsimp only
      rw [run_bind]
    | some f =>
      dsimp only
      rw [run_bind]
      split <;> rfl

/-- A flow that did not engage found nothing to go on behind. -/
theorem receive_unfound {f : Flow} (he : ((f.receive c).run p s).1.outcome = .notEngaged) :
    f.found (s.sight c) = none ∧ s.Looked c ((f.receive c).run p s).2 := by
  obtain ⟨-, hres⟩ := receive_notEngaged rfl he
  have hfound : ((f.resumption c).run p s).1 = _ := resumption_found s
  have hlooked := run_looks p (resumption_asks f c) s
  rw [hres] at hfound hlooked
  exact ⟨hfound.symm, hlooked⟩

/-- Where the same suspension is in sight, or none, a message comes to the same, whatever else the
stores hold and refuse. -/
theorem route_alike (huniq : ∀ f ∈ flows, ∀ g ∈ flows, f.id = g.id → f = g)
    (h : s.log.muted = t.log.muted) (hsight : s.sight c = t.sight c) :
    Alike ((route flows c).run p s) ((route flows c).run p t) := by
  cases hst : t.sight c with
  | none =>
    rw [hst] at hsight
    obtain ⟨s₁, hs₁, hrun⟩ := route_unsighted flows p hsight
    obtain ⟨t₁, ht₁, hrun'⟩ := route_unsighted flows p hst
    rw [hrun, hrun']
    refine routeByTrigger_alike ?_ (fun f _ => hs₁.found_none ?_) (fun f _ => ht₁.found_none ?_)
    · rw [hs₁.muted, ht₁.muted, h]
    · rw [hsight]; rfl
    · rw [hst]; rfl
  | some st =>
    rw [hst] at hsight
    rw [route_sighted flows p hsight, route_sighted flows p hst]
    cases hf : flows.find? (·.id == st.flowId) with
    | none =>
      have hs₁ := run_looks p (discardSuspension_asks c st.flowId) s
      have ht₁ := run_looks p (discardSuspension_asks c st.flowId) t
      have hne : ∀ g ∈ flows, g.found (some st) = none := fun g hg =>
        Flow.found_of_ne fun he => List.find?_eq_none.1 hf g hg (beq_iff_eq.2 he.symm)
      refine routeByTrigger_alike ?_ (fun g hg => hs₁.found_none ?_) (fun g hg => ht₁.found_none ?_)
      · rw [hs₁.muted, ht₁.muted, h]
      · rw [hsight]; exact hne g hg
      · rw [hst]; exact hne g hg
    | some f =>
      have hid : f.id = st.flowId := by simpa using List.find?_some hf
      obtain ⟨hrep, hlog⟩ : Alike ((f.receive c).run p s) ((f.receive c).run p t) :=
        receive_alike h (by rw [hsight, hst])
      dsimp only
      by_cases he : ((f.receive c).run p s).1.outcome = .notEngaged
      · have he' : ((f.receive c).run p t).1.outcome = .notEngaged := by rw [← hrep]; exact he
        rw [if_pos he, if_pos he']
        obtain ⟨hfound, hs₁⟩ := receive_unfound he
        obtain ⟨-, ht₁⟩ := receive_unfound he'
        rw [hsight] at hfound
        -- the suspension may still be there, but the only flow that it is in has passed
        have hpassed : ∀ g ∈ flows, g.found (some st) = none := by
          intro g hg
          by_cases hgid : st.flowId = g.id
          · rw [huniq g hg f (List.mem_of_find?_eq_some hf) (hgid.symm.trans hid.symm)]
            exact hfound
          · exact Flow.found_of_ne hgid
        refine routeByTrigger_alike hlog (fun g hg => hs₁.found_none ?_)
          (fun g hg => ht₁.found_none ?_)
        · rw [hsight]; exact hpassed g hg
        · rw [hst]; exact hpassed g hg
      · rw [if_neg he, if_neg (by rw [← hrep]; exact he)]
        exact ⟨congrArg some hrep, hlog⟩

/-! ## What a store goes on refusing -/

/-- The second store is read as the first one is, and is the same if that cannot be written. -/
def Refuses (s t : SuspensionStore) : Prop :=
  t.readable = s.readable ∧ (s.writable = false → t = s)

theorem Refuses.refl (s : SuspensionStore) : Refuses s s :=
  ⟨rfl, fun _ => rfl⟩

theorem Refuses.trans {s t u : SuspensionStore} (h : Refuses s t) (h' : Refuses t u) :
    Refuses s u := by
  refine ⟨h'.1.trans h.1, fun hw => ?_⟩
  have hst := h.2 hw
  exact (h'.2 (by rw [hst]; exact hw)).trans hst

theorem World.answer_refusals (p : Partners) (s : World) (r : Request) :
    Refuses s.store (s.answer p r).2.store := by
  induction r using Request.store_cases with
  | storeless r hr => rw [World.answer_store p s hr.spares]; exact .refl _
  | read t u => exact .refl _
  | write t u st ttl =>
    simp only [answer, SuspensionStore.set]
    split
    · rename_i hw
      exact ⟨rfl, fun h => by cases hw.symm.trans h⟩
    · exact .refl _
  | drop t u =>
    simp only [answer, SuspensionStore.delete]
    split
    · rename_i hw
      exact ⟨rfl, fun h => by cases hw.symm.trans h⟩
    · exact .refl _

/-- No program brings a store to be read, and none changes a store that cannot be written. -/
theorem Program.run_refusals {α : Type} (p : Partners) (x : Program α) (s : World) :
    Refuses s.store (x.run p s).2.store :=
  run_relates (R := fun s t => Refuses s.store t.store) (fun _ => .refl _) (fun _ _ _ => .trans)
    (fun s r _ => World.answer_refusals p s r) x.asks_any s

end

/-! ## Messages by themselves -/

/-- What came of a message, warnings aside. -/
def Exchange.muted (x : Exchange) : Exchange :=
  { x with log := x.log.muted }

namespace Visit

variable (v : Visit)

/-- The suspension of the visit's sender as a reader of the store sees it. -/
def sight (s : SuspensionStore) : Option Suspension :=
  World.sight { store := s } v.context

theorem process_alike (r : Registry) {s t : SuspensionStore} (h : v.sight s = v.sight t) :
    (v.process r s).1.muted = (v.process r t).1.muted := by
  obtain ⟨hrep, hlog⟩ : Alike ((r.process v.context).run v.partners { store := s })
      ((r.process v.context).run v.partners { store := t }) :=
    route_alike (fun f hf g hg => Registry.eq_of_id_eq hf hg) rfl h
  exact congrArg₂ Exchange.mk hrep hlog

theorem receive_alike (f : Flow) {s t : SuspensionStore} (h : v.sight s = v.sight t) :
    (v.receive f s).1.muted = (v.receive f t).1.muted := by
  have hf : f.found (World.sight { store := s } v.context) =
      f.found (World.sight { store := t } v.context) := congrArg f.found h
  obtain ⟨hrep, hlog⟩ : Alike ((f.receive v.context).run v.partners { store := s })
      ((f.receive v.context).run v.partners { store := t }) := Dialogue.receive_alike rfl hf
  exact congrArg₂ Exchange.mk (congrArg some hrep) hlog

end Visit

namespace Desk

/-- Deals with events one after another, but puts the store back after each of them. -/
def runApart (d : Desk) : List Event → List Exchange
  | [] => []
  | e :: es => (d.handle e).1 :: runApart { d with registry := (d.handle e).2.registry } es

variable {d : Desk} {t : SuspensionStore}

theorem handle_alike (e : Event) (h : ∀ v : Visit, v.sight d.store = v.sight t) :
    (d.handle e).1.muted = (({ d with store := t } : Desk).handle e).1.muted ∧
      (d.handle e).2.registry = (({ d with store := t } : Desk).handle e).2.registry := by
  cases e with
  | register f => exact ⟨rfl, rfl⟩
  | remove id => exact ⟨rfl, rfl⟩
  | message v => exact ⟨v.process_alike d.registry (h v), rfl⟩
  | execute f v => exact ⟨v.receive_alike f (h v), rfl⟩

theorem handle_refusals (d : Desk) (e : Event) : Refuses d.store (d.handle e).2.store := by
  cases e with
  | register f => exact .refl _
  | remove id => exact .refl _
  | message v => exact run_refusals v.partners (d.registry.process v.context) { store := d.store }
  | execute f v => exact run_refusals v.partners (f.receive v.context) { store := d.store }

/-- A run comes to the same as its messages do by themselves in another store, if as long as it
lasts every sender sees the same in both. -/
theorem run_alike {P : SuspensionStore → Prop} (hP : ∀ (d : Desk) e, P d.store → P (d.handle e).2.store)
    (hsight : ∀ s, P s → ∀ v : Visit, v.sight s = v.sight t) (hd : P d.store) (es : List Event) :
    (d.run es).1.map Exchange.muted =
      (({ d with store := t } : Desk).runApart es).map Exchange.muted := by
  induction es generalizing d with
  | nil => rfl
  | cons e es ih =>
    obtain ⟨hx, hr⟩ := handle_alike e (hsight _ hd)
    simp only [run, runApart, List.map_cons, hx, ih (hP d e hd)]
    rw [hr]

/-- What a store refuses is not seen by those who write. Where reading is refused, every message of
a sequence is answered as it is by itself in an empty store, with the same replies and the same
questions to the services, whether or not writing is refused. Where only writing is refused, it is
answered as it is by itself in a store with the same contents that works. And where writing is
refused no event changes the store. -/
theorem faults_unseen (r : Registry) (s : SuspensionStore) (es : List Event) :
    (s.readable = false → ((⟨r, s⟩ : Desk).run es).1.map Exchange.muted =
      ((⟨r, {}⟩ : Desk).runApart es).map Exchange.muted) ∧
    (s.readable = true → s.writable = false → ((⟨r, s⟩ : Desk).run es).1.map Exchange.muted =
      ((⟨r, { s with writable := true }⟩ : Desk).runApart es).map Exchange.muted) ∧
    (s.writable = false → ((⟨r, s⟩ : Desk).run es).2.store = s) := by
  refine ⟨fun hr => ?_, fun hr hw => ?_, fun hw => ?_⟩
  · refine run_alike (d := ⟨r, s⟩) (P := (·.readable = false)) (fun d e h => ?_) (fun s hs v => ?_) hr es
    · exact (handle_refusals d e).1.trans h
    · unfold Visit.sight World.sight SuspensionStore.get
      dsimp only
      rw [if_neg (by simp [hs])]
      rfl
  · refine run_alike (d := ⟨r, s⟩) (P := (· = s)) (fun d e h => ?_) (fun _ hs v => ?_) rfl es
    · exact ((handle_refusals d e).2 (by rw [h]; exact hw)).trans h
    · rw [hs]
      rfl
  · refine run_induction (P := (·.store = s)) (fun d e h => ?_) rfl es
    exact ((handle_refusals d e).2 (by rw [h]; exact hw)).trans h

/-- The sender of the greeting is parked at `w`, and writes twice. Where reading is refused both
messages start `survey`; where writing is refused both go on in it, behind the same suspension. -/
theorem surveys_faults :
    let es : List Event := [.message ⟨sayGo, attentive⟩, .message ⟨sayGo, attentive⟩]
    let unreadable : SuspensionStore := { parkedAtW.store with readable := false }
    let frozen : SuspensionStore := { parkedAtW.store with writable := false }
    (unreadable.readable = false ∧
      ((⟨surveys, unreadable⟩ : Desk).run es).1.map Exchange.muted =
        ((⟨surveys, {}⟩ : Desk).runApart es).map Exchange.muted ∧
      ((⟨surveys, {}⟩ : Desk).runApart es).map (·.report.map (·.resumed)) =
        [some false, some false]) ∧
    (frozen.readable = true ∧ frozen.writable = false ∧
      ((⟨surveys, frozen⟩ : Desk).run es).1.map Exchange.muted =
        ((⟨surveys, parkedAtW.store⟩ : Desk).runApart es).map Exchange.muted ∧
      ((⟨surveys, parkedAtW.store⟩ : Desk).runApart es).map (·.report.map (·.resumed)) =
        [some true, some true] ∧
      ((⟨surveys, frozen⟩ : Desk).run es).2.store = frozen) := by
  intro es unreadable frozen
  have hunreadable := (faults_unseen surveys unreadable es).1 rfl
  have hfrozen := (faults_unseen surveys frozen es).2.1 rfl rfl
  have hkept := (faults_unseen surveys frozen es).2.2 rfl
  exact ⟨⟨rfl, hunreadable, by cbv⟩, rfl, rfl, hfrozen, by cbv, hkept⟩

end Desk

end Dialogue
