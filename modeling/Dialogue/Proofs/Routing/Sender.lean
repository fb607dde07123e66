/-
What a message has to do with the store: everything it reads, writes and deletes there is the entry
of its own sender, and what it writes carries that sender's ids (`process_asks`, `receive_asks`). So
a message is of no account to what is kept under other keys (`run_frame`), and nothing of what is
kept there is of account to the message (`run_agree`).
-/
import Dialogue.Proofs.Routing.Choice
import Dialogue.Proofs.Suspension.Key

namespace Dialogue

open Program

/-- A request that concerns no entry of the store but that of the message's sender, and that writes
nothing but suspensions of that sender. -/
def Request.Own (c : RunContext) : Request → Prop
  | .readState t u => t = c.message.tenantId ∧ u = c.message.userId
  | .writeState t u st _ => t = c.message.tenantId ∧ u = c.message.userId ∧ st.tenantId = t ∧ st.userId = u
  | .dropState t u => t = c.message.tenantId ∧ u = c.message.userId
  | _ => True

section

variable {c : RunContext}

theorem Request.Storeless.own {r : Request} (h : r.Storeless) : r.Own c := by
  cases r with
  | readState t u => exact h.elim
  | writeState t u st ttl => exact h.elim
  | dropState t u => exact h.elim
  | send text => trivial
  | classify prompt => trivial
  | respond call => trivial
  | warn w => trivial

theorem Request.Looks.own {r : Request} (h : r.Looks c) : r.Own c := by
  cases r with
  | readState t u => exact h
  | dropState t u => exact h
  | warn w => trivial
  | writeState t u st ttl => exact h.elim
  | send text => exact h.elim
  | classify prompt => exact h.elim
  | respond call => exact h.elim

/-! ## One flow -/

theorem walks_asks (f : Flow) (c : RunContext) : Walks f c (·.Asks (Request.Own c)) :=
  ⟨fun hx => hx.mono fun _ => Request.Storeless.own,
    fun _ => park_asks ⟨rfl, rfl, rfl, rfl⟩ fun _ => trivial, asks_bind⟩

/-- A flow that is given a message asks for nothing of the store but the entry of the sender. -/
theorem receive_asks (f : Flow) (c : RunContext) : (f.receive c).Asks (Request.Own c) := by
  unfold Flow.receive
  refine asks_bind ((resumption_asks f c).mono fun _ => Request.Looks.own) fun o => ?_
  cases o with
  | some n => exact (walks_asks f c).resumed n
  | none =>
    dsimp only
    split
    · exact (walks_asks f c).started _
    · exact asks_pure _

/-! ## All flows -/

theorem routeByTrigger_asks (flows : List Flow) (c : RunContext) :
    (routeByTrigger flows c).Asks (Request.Own c) := by
  unfold routeByTrigger
  split
  · exact asks_bind (receive_asks _ c) fun _ => asks_pure _
  · exact asks_pure _

theorem route_asks (flows : List Flow) (c : RunContext) : (route flows c).Asks (Request.Own c) := by
  unfold route
  refine asks_bind (asks_request ⟨rfl, rfl⟩) fun a => ?_
  rcases a with e | _ | st
  · exact asks_bind (asks_warn trivial) fun _ => routeByTrigger_asks flows c
  · exact routeByTrigger_asks flows c
  · dsimp only
    split
    · exact asks_bind (receive_asks _ c) fun rep => asks_ite (routeByTrigger_asks flows c) (asks_pure _)
    · refine asks_bind ((discardSuspension_asks c _).mono fun _ => Request.Looks.own) fun _ => ?_
      exact routeByTrigger_asks flows c

/-- A message asks for nothing of the store but the entry of its sender. -/
theorem process_asks (r : Registry) (c : RunContext) : (r.process c).Asks (Request.Own c) :=
  route_asks _ c

/-! ## One key of the store -/

variable {p : Partners} {key : String}

theorem World.answer_frame {r : Request} (h : r.Own c)
    (hk : key ≠ storeKey c.message.tenantId c.message.userId) (s : World) :
    s.store.AgreeAt key (s.answer p r).2.store := by
  induction r using Request.store_cases with
  | storeless r hr => rw [World.answer_store p s hr.spares]; exact .refl key _
  | read t u => exact .refl key _
  | write t u st ttl =>
    obtain ⟨rfl, rfl, -⟩ := h
    exact s.store.set_frame hk st ttl
  | drop t u =>
    obtain ⟨rfl, rfl⟩ := h
    exact s.store.delete_frame hk

/-- Other keys than the sender's are left alone. -/
theorem Program.run_frame {α : Type} {x : Program α} (h : x.Asks (Request.Own c))
    (hk : key ≠ storeKey c.message.tenantId c.message.userId) (s : World) :
    s.store.AgreeAt key (x.run p s).2.store :=
  run_relates (R := fun s t => s.store.AgreeAt key t.store) (fun _ => .refl key _)
    (fun _ _ _ => .trans) (fun s _ hr => World.answer_frame hr hk s) h s

theorem World.answer_agree {r : Request} (h : r.Own c) {s t : World} (hl : s.log = t.log)
    (hst : s.store.AgreeAt (storeKey c.message.tenantId c.message.userId) t.store) :
    (s.answer p r).1 = (t.answer p r).1 ∧ (s.answer p r).2.log = (t.answer p r).2.log ∧
      (s.answer p r).2.store.AgreeAt (storeKey c.message.tenantId c.message.userId)
        (t.answer p r).2.store := by
  obtain ⟨s, l⟩ := s
  obtain ⟨t, l'⟩ := t
  cases hl
  cases r with
  | readState t' u =>
    obtain ⟨rfl, rfl⟩ := h
    exact ⟨hst.get_eq, rfl, hst⟩
  | writeState t' u st ttl =>
    obtain ⟨hr, hs⟩ := hst.set t' u st ttl
    exact ⟨hr, rfl, hs⟩
  | dropState t' u =>
    obtain ⟨hr, hs⟩ := hst.delete t' u
    exact ⟨hr, rfl, hs⟩
  | send text =>
    simp only [answer]
    cases p.deliver l.sent text <;> exact ⟨rfl, rfl, hst⟩
  | classify prompt =>
    simp only [answer]
    cases p.assistant <;> exact ⟨rfl, rfl, hst⟩
  | respond call =>
    simp only [answer]
    cases p.assistant <;> exact ⟨rfl, rfl, hst⟩
  | warn w => exact ⟨rfl, rfl, hst⟩

/-- In stores that agree under the sender's key a message comes to the same. -/
theorem Program.run_agree {α : Type} {x : Program α} (h : x.Asks (Request.Own c)) {s t : World}
    (hl : s.log = t.log)
    (hst : s.store.AgreeAt (storeKey c.message.tenantId c.message.userId) t.store) :
    (x.run p s).1 = (x.run p t).1 ∧ (x.run p s).2.log = (x.run p t).2.log ∧
      (x.run p s).2.store.AgreeAt (storeKey c.message.tenantId c.message.userId)
        (x.run p t).2.store := by
  induction x generalizing s t with
  | done a => exact ⟨rfl, hl, hst⟩
  | ask r next ih =>
    obtain ⟨ha, hl', hst'⟩ := World.answer_agree h.1 hl hst (p := p)
    rw [run_ask, run_ask, ha]
    exact ih _ (h.2 _) hl' hst'

/-! ## The ids of the sender -/

theorem World.answer_filed {r : Request} (h : r.Own c) {s : World} (hs : s.store.Filed) :
    (s.answer p r).2.store.Filed := by
  induction r using Request.store_cases with
  | storeless r hr => rw [World.answer_store p s hr.spares]; exact hs
  | read t u => exact hs
  | write t u st ttl => exact hs.set h.2.2.1 h.2.2.2 ttl
  | drop t u => exact hs.delete t u

/-- Suspensions stay under the keys of the senders whose ids they carry. -/
theorem Program.run_filed {α : Type} {x : Program α} (h : x.Asks (Request.Own c)) {s : World}
    (hs : s.store.Filed) : (x.run p s).2.store.Filed :=
  run_relates (R := fun s t => s.store.Filed → t.store.Filed) (fun _ => id)
    (fun _ _ _ h h' hs => h' (h hs)) (fun _ _ hr hs => World.answer_filed hr hs) h s hs

end

end Dialogue
