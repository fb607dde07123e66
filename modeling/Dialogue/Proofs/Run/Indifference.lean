/-
What a run makes of the store. It heeds the store once, when it looks for the node to go on behind,
and a store that cannot be read is taken for one without a suspension. From then on it only writes,
and a write that fails is warned of and nothing more. So two runs that find the same node come to
the same, whatever their stores hold and refuse (`receive_alike`).
-/
import Dialogue.Proofs.Run.Entry

namespace Dialogue

open Program

/-- Two runs came to the same: they gave the same result, and the same was seen of them, warnings
aside. Their stores may differ. -/
def Alike {α : Type} (a b : α × World) : Prop :=
  a.1 = b.1 ∧ a.2.log.muted = b.2.log.muted

/-- Where the same was seen before, the program comes to the same, whatever the stores. -/
def Program.Indifferent {α : Type} (p : Partners) (x : Program α) : Prop :=
  ∀ s t : World, s.log.muted = t.log.muted → Alike (x.run p s) (x.run p t)

section

variable {α β : Type} {p : Partners}

/-! ## Programs that do not heed the store -/

theorem indifferent_pure (a : α) : (pure a : Program α).Indifferent p :=
  fun _ _ h => ⟨rfl, h⟩

theorem indifferent_bind {x : Program α} {f : α → Program β} (hx : x.Indifferent p)
    (hf : ∀ a, (f a).Indifferent p) : (x >>= f).Indifferent p := by
  intro s t h
  obtain ⟨ha, hl⟩ := hx s t h
  rw [run_bind, run_bind, ha]
  exact hf _ _ _ hl

theorem World.answer_alike {r : Request} (hr : r.Storeless) {s t : World}
    (h : s.log.muted = t.log.muted) : Alike (s.answer p r) (t.answer p r) := by
  obtain ⟨s, ⟨sent, prompts, calls, ws⟩⟩ := s
  obtain ⟨t, ⟨_, _, _, ws'⟩⟩ := t
  cases h
  cases r with
  | readState t u => exact hr.elim
  | writeState t u st ttl => exact hr.elim
  | dropState t u => exact hr.elim
  | send text =>
    simp only [answer]
    cases p.deliver sent text <;> exact ⟨rfl, rfl⟩
  | classify prompt =>
    simp only [answer]
    cases p.assistant <;> exact ⟨rfl, rfl⟩
  | respond call =>
    simp only [answer]
    cases p.assistant <;> exact ⟨rfl, rfl⟩
  | warn w => exact ⟨rfl, rfl⟩

theorem indifferent_of_storeless {x : Program α} (hx : x.Asks Request.Storeless) :
    x.Indifferent p := by
  induction x with
  | done a => exact indifferent_pure a
  | ask r next ih =>
    intro s t h
    obtain ⟨ha, hl⟩ := World.answer_alike (p := p) hx.1 h
    rw [run_ask, run_ask, ha]
    exact ih _ (hx.2 _) _ _ hl

variable {f : Flow} {c : RunContext}

/-- Parking is not seen, whether or not the store takes it. -/
theorem park_muted (n : Node) (s : World) :
    ((park ⟨f, .ofFlow f, c⟩ n).run p s).2.log.muted = s.log.muted := by
  unfold park
  simp only [run_bind, run_request, World.answer]
  rcases (s.store.set _ _ _ _).1 with e | _ <;> rfl

theorem park_indifferent (n : Node) : (park ⟨f, .ofFlow f, c⟩ n).Indifferent p := by
  intro s t h
  refine ⟨rfl, ?_⟩
  rw [park_muted, park_muted, h]

theorem walks_indifferent (f : Flow) (c : RunContext) (p : Partners) : Walks f c (·.Indifferent p) :=
  ⟨indifferent_of_storeless, park_indifferent, indifferent_bind⟩

/-! ## The suspension that is seen -/

/-- The suspension of the sender as a reader sees it: a failure to read is taken for none. -/
def World.sight (s : World) (c : RunContext) : Option Suspension :=
  match s.store.get c.message.tenantId c.message.userId with
  | .ok o => o
  | .error _ => none

/-- The node of a flow behind which a suspension lets it go on. -/
def Flow.found (f : Flow) (o : Option Suspension) : Option Node :=
  (o.filter (·.flowId == f.id)).bind fun st => f.node? st.currentNodeId

theorem Flow.found_of_ne {f : Flow} {st : Suspension} (h : st.flowId ≠ f.id) :
    f.found (some st) = none := by
  unfold found
  rw [Option.filter_some_neg (by simp [h])]
  rfl

theorem World.sight_forget (s : World) (c : RunContext) : (s.forget c).sight c = none := by
  unfold sight SuspensionStore.get
  rw [forget_store, SuspensionStore.peek_drop]
  cases (s.store.drop c.message.tenantId c.message.userId).readable <;> rfl

theorem World.sight_of_store {s t : World} (h : s.store = t.store) : s.sight c = t.sight c := by
  unfold sight
  rw [h]

theorem World.Looked.muted {s t : World} (h : s.Looked c t) : t.log.muted = s.log.muted := by
  unfold Log.muted
  rw [h.sent, h.prompts, h.calls]

/-- Looking for a suspension brings none into sight. -/
theorem World.Looked.found_none {s t : World} (h : s.Looked c t)
    (hs : f.found (s.sight c) = none) : f.found (t.sight c) = none := by
  rcases h.store with hst | hst
  · rw [World.sight_of_store hst]
    exact hs
  · rw [World.sight_of_store hst, World.sight_forget]
    rfl

/-- Whatever the store refuses, a flow goes on behind the node of the suspension it sees. -/
theorem resumption_found (s : World) :
    ((f.resumption c).run p s).1 = f.found (s.sight c) := by
  unfold Flow.resumption World.sight
  rw [run_bind, run_request]
  have hread : s.answer p (.readState c.message.tenantId c.message.userId) =
      (s.store.get c.message.tenantId c.message.userId, s) := rfl
  rw [hread]
  rcases s.store.get c.message.tenantId c.message.userId with e | _ | st
  · rfl
  · rfl
  · by_cases hid : st.flowId = f.id
    · have hb : (st.flowId != f.id) = false := by simp [hid]
      have hf : f.found (some st) = f.node? st.currentNodeId := by
        unfold Flow.found
        rw [Option.filter_some_pos (by simp [hid])]
        rfl
      simp only [hb, Bool.false_eq_true, if_false, run_bind, run_request, hf]
      rcases (s.answer p (.dropState c.message.tenantId c.message.userId)).1 with e | _ <;>
        cases f.node? st.currentNodeId <;> rfl
    · have hb : (st.flowId != f.id) = true := by simp [hid]
      rw [Flow.found_of_ne hid]
      simp only [hb, if_true, run_pure]

/-- Two runs of a flow that find the same node to go on behind, or both none, come to the same. -/
theorem receive_alike {s t : World} (h : s.log.muted = t.log.muted)
    (hf : f.found (s.sight c) = f.found (t.sight c)) :
    Alike ((f.receive c).run p s) ((f.receive c).run p t) := by
  have hlog : ((f.resumption c).run p s).2.log.muted = ((f.resumption c).run p t).2.log.muted := by
    rw [(run_looks p (resumption_asks f c) s).muted, (run_looks p (resumption_asks f c) t).muted, h]
  unfold Flow.receive
  rw [run_bind, run_bind, resumption_found, resumption_found, hf]
  cases f.found (t.sight c) with
  | some n => exact (walks_indifferent f c p).resumed n _ _ hlog
  | none =>
    dsimp only
    cases f.triggerFor c.message.body with
    | none => exact ⟨rfl, hlog⟩
    | some n => exact (walks_indifferent f c p).started n _ _ hlog

end

end Dialogue
