/-
The suspension of a sender on its way from message to message. Each message finds what the one before
it has left, takes it up or gives it up, and leaves what its report tells (`Desk.serve_relay`). So no
suspension is taken up twice, and none is lost between two messages.
-/
import Dialogue.Proofs.Routing.Desk

namespace Dialogue

/-- A message that finds a suspension goes on behind it, in its flow, exactly if the suspension is at a
node of an active flow of the tenant; a message that finds none goes on behind nothing. -/
def TakesUp (r : Registry) (v : Visit) (x : Exchange) (found : Option Suspension) : Prop :=
  ∀ id, (∃ rep, x.report = some rep ∧ rep.flowId = id ∧ rep.resumed = true) ↔
    ∃ st, found = some st ∧ st.flowId = id ∧ r.Resumes v.context.message.tenantId st

/-- A suspension goes from message to message: the first one finds what was there at first, each next
one finds what the one before has left, and what the last one leaves is there at last. -/
def Relay (r : Registry) : (first : Option Suspension) → List (Visit × Exchange) →
    (last : Option Suspension) → Prop
  | first, [], last => last = first
  | first, (v, x) :: turns, last => TakesUp r v x first ∧ Relay r (v.left x) turns last

/-- Whether the message went on behind a suspension. -/
def Exchange.Resumed (x : Exchange) : Prop :=
  ∃ rep, x.report = some rep ∧ rep.resumed = true

section

variable {r : Registry} {first last : Option Suspension} {turns : List (Visit × Exchange)}

/-- Where there is nothing at first and nothing is left on the way, no message is resumed. -/
theorem Relay.not_resumed (h : Relay r none turns last)
    (hleft : ∀ p ∈ turns, p.1.left p.2 = none) : ∀ p ∈ turns, ¬ p.2.Resumed := by
  induction turns with
  | nil => simp
  | cons p turns ih =>
    obtain ⟨htakes, hrest⟩ := h
    obtain ⟨hp, hturns⟩ := List.forall_mem_cons.1 hleft
    refine List.forall_mem_cons.2 ⟨?_, ih (by rw [← hp]; exact hrest) hturns⟩
    rintro ⟨rep, hrep, hres⟩
    obtain ⟨st, hst, -⟩ := (htakes rep.flowId).1 ⟨rep, hrep, rfl, hres⟩
    cases hst

/-- Where a suspension is there at first that every message can take up, and nothing is left on the
way, the first message is resumed and no other. -/
theorem Relay.once {st : Suspension} {p : Visit × Exchange} (h : Relay r (some st) (p :: turns) last)
    (hres : r.Resumes p.1.context.message.tenantId st)
    (hleft : ∀ q ∈ p :: turns, q.1.left q.2 = none) :
    p.2.Resumed ∧ ∀ q ∈ turns, ¬ q.2.Resumed := by
  obtain ⟨htakes, hrest⟩ := h
  obtain ⟨hp, hturns⟩ := List.forall_mem_cons.1 hleft
  obtain ⟨rep, hrep, -, hresumed⟩ := (htakes st.flowId).2 ⟨st, rfl, rfl, hres⟩
  have hrest' : Relay r (p.1.left p.2) turns last := hrest
  rw [hp] at hrest'
  exact ⟨⟨rep, hrep, hresumed⟩, hrest'.not_resumed hturns⟩

end

/-- One visit after another: under every key the suspension goes from visit to visit, out of those
with that key. -/
theorem Desk.serve_relay {d : Desk} (hw : d.store.Works) {vs : List Visit}
    (hv : ∀ v ∈ vs, 0 < v.context.config.suspensionTtl) (t u : String) :
    Relay d.registry (d.store.peek t u)
      ((vs.zip (d.serve vs).1).filter fun p => p.1.key == storeKey t u)
      ((d.serve vs).2.store.peek t u) := by
  induction vs generalizing d with
  | nil => exact rfl
  | cons v vs ih =>
    obtain ⟨ht, hvs⟩ := List.forall_mem_cons.1 hv
    let d' : Desk := ⟨d.registry, (v.process d.registry d.store).2⟩
    have hserve : d.serve (v :: vs) =
        ((v.process d.registry d.store).1 :: (d'.serve vs).1, (d'.serve vs).2) := rfl
    have hrest := ih (d := d') (v.process_works d.registry hw) hvs
    rw [hserve, List.zip_cons_cons, List.filter_cons]
    by_cases hk : v.key = storeKey t u
    · rw [if_pos (beq_iff_eq.2 hk)]
      have hentry : ∀ s : SuspensionStore, s.peek t u = v.entry s := fun s =>
        SuspensionStore.peek_of_key_eq hk.symm s
      refine ⟨?_, ?_⟩
      · rw [hentry]
        exact process_resumed (s := { store := d.store }) hw
      · rw [hentry] at hrest
        rw [← v.process_entry d.registry hw ht]
        exact hrest
    · rw [if_neg (by simpa using hk)]
      have hframe := v.process_frame d.registry (Ne.symm hk) d.store
      rw [hframe.peek_eq]
      exact hrest

end Dialogue
