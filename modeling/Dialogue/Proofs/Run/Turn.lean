/-
One message in one flow. `Turn` says how a flow engages: it goes on behind the node at which the
sender was parked, or starts from the trigger that matches, and from the edges kept there the walk
takes its course. `receive_cases` says that these are all the ways, besides not engaging at all.
-/
import Dialogue.Proofs.Run.Course
import Dialogue.Run.Turn

namespace Dialogue

open Program

/-- A flow engages on a message: the run goes on behind the entry if it is resumed, and starts with
the entry if not; the edges kept at the entry are followed, and take a course. -/
inductive Turn (f : Flow) (c : RunContext) (p : Partners) (s : World) : (resumed : Bool) →
    (entry : Node) → (kept : List Edge) → List Passage → Option DeliveryError × Walk → World → Prop
  | resumed {n s₁ kept s₂ js r s'} : (f.resumption c).run p s = (some n, s₁) →
      (n.keptEdges c (f.outgoing n.id)).run p s₁ = (kept, s₂) →
      Course f c p kept (({} : Walk).visit n.id) s₂ js r s' →
      Turn f c p s true n kept js r s'
  | started {s₁ n kept s₂ js r s'} : (f.resumption c).run p s = (none, s₁) →
      f.triggerFor c.message.body = some n →
      (n.keptEdges c (f.outgoing n.id)).run p s₁ = (kept, s₂) →
      Course f c p kept ((({} : Walk).visit n.id).record c n .continued) s₂ js r s' →
      Turn f c p s false n kept js r s'

/-- The world after the failure of a walk, if there was one, is logged. -/
def World.closed (s : World) : Option DeliveryError → World
  | some e => s.warned (.runFailed (.reply e))
  | none => s

@[simp] theorem World.closed_store (s : World) (e : Option DeliveryError) :
    (s.closed e).store = s.store := by
  cases e <;> rfl

@[simp] theorem World.closed_edgeWarnings (s : World) (e : Option DeliveryError) :
    (s.closed e).log.edgeWarnings = s.log.edgeWarnings := by
  cases e with
  | none => rfl
  | some err => exact (s.edgeWarnings_warned _).trans (List.append_nil _)

/-- The trigger that matches a message has a keyword that is not blank and equals the message in
normal form. -/
theorem Flow.triggerFor_some {f : Flow} {body : String} {n : Node} (h : f.triggerFor body = some n) :
    n ∈ f.nodes ∧ ∃ keyword, n.role = .trigger keyword ∧ Text.normalize keyword ≠ "" ∧
      Text.normalize keyword = Text.normalize body := by
  unfold triggerFor at h
  have hp := List.find?_some h
  refine ⟨List.mem_of_find?_eq_some h, ?_⟩
  split at hp
  · rename_i keyword hr
    simp only [Bool.and_eq_true, Bool.not_eq_true', beq_iff_eq] at hp
    refine ⟨keyword, hr, ?_, hp.2⟩
    rintro he
    rw [he] at hp
    exact absurd hp.1 (by decide)
  · cases hp

/-- The flow has a trigger for a message: one whose keyword is not blank and equals the message,
blanks around them and letter case aside. -/
def Flow.Answers (f : Flow) (body : String) : Prop :=
  ∃ n ∈ f.nodes, ∃ keyword, n.role = .trigger keyword ∧ Text.normalize keyword ≠ "" ∧
    Text.normalize keyword = Text.normalize body

theorem Flow.isSome_triggerFor {f : Flow} {body : String} :
    (f.triggerFor body).isSome = true ↔ f.Answers body := by
  constructor
  · intro h
    obtain ⟨n, hn⟩ := Option.isSome_iff_exists.1 h
    exact ⟨n, triggerFor_some hn⟩
  · rintro ⟨n, hn, keyword, hr, hne, heq⟩
    unfold triggerFor
    rw [List.find?_isSome]
    refine ⟨n, hn, ?_⟩
    rw [hr]
    rw [heq] at hne
    simp [heq, hne]

section

variable {f : Flow} {c : RunContext} {p : Partners} {s : World}

theorem finish_run (resumed : Bool) (r : Option DeliveryError × Walk) (s : World) :
    (Flow.receive.finish f resumed r).run p s = (r.2.report f resumed r.1, s.closed r.1) := by
  obtain ⟨e | e, w⟩ := r <;> rfl

/-! ## What walks are made of -/

/-- A property of programs that those have which leave the store alone, that parking has, and that
passes to one program after another. -/
structure Walks (f : Flow) (c : RunContext) (P : {α : Type} → Program α → Prop) : Prop where
  storeless : ∀ {α : Type} {x : Program α}, x.Asks Request.Storeless → P x
  park : ∀ n, P (park ⟨f, .ofFlow f, c⟩ n)
  bind : ∀ {α β : Type} {x : Program α} {g : α → Program β}, P x → (∀ a, P (g a)) → P (x >>= g)

namespace Walks

variable {P : {α : Type} → Program α → Prop} (h : Walks f c P)
include h

theorem follow (agenda : List Edge) (w : Walk) : P (follow ⟨f, .ofFlow f, c⟩ agenda w) := by
  refine follow_induction (P := P) (fun w => h.storeless (asks_pure _)) (fun err x hx => ?_)
    (fun n x hx => ?_) (fun n w next hnext => ?_) agenda w
  · exact h.bind (h.storeless (asks_warn trivial)) fun _ => hx
  · exact h.bind (h.park n) fun _ => hx
  · refine h.bind (h.storeless (n.perform_asks c)) fun a => ?_
    cases a with
    | error err => exact h.storeless (asks_pure _)
    | ok k => exact h.bind (h.storeless (n.keptEdges_asks c _)) fun kept => hnext k kept

theorem finish (resumed : Bool) (result : Option DeliveryError × Walk) :
    P (Flow.receive.finish f resumed result) := by
  obtain ⟨e | e, w⟩ := result
  · exact h.storeless (asks_pure _)
  · exact h.storeless (asks_bind (asks_warn trivial) fun _ => asks_pure _)

/-- A walk behind a node at which the run was parked has the property. -/
theorem resumed (n : Node) : P (do
    Flow.receive.finish f true (← walkFromSuspension ⟨f, .ofFlow f, c⟩ n)) := by
  refine h.bind ?_ fun _ => h.finish true _
  unfold walkFromSuspension
  exact h.bind (h.storeless (n.keptEdges_asks c _)) fun kept => h.follow kept _

/-- A walk from a trigger has the property. -/
theorem started (n : Node) : P (do
    Flow.receive.finish f false (← walkFromTrigger ⟨f, .ofFlow f, c⟩ n)) := by
  refine h.bind ?_ fun _ => h.finish false _
  unfold walkFromTrigger
  refine h.bind (h.storeless (n.perform_asks c)) fun a => ?_
  cases a with
  | error err => exact h.storeless (asks_pure _)
  | ok k => exact h.bind (h.storeless (n.keptEdges_asks c _)) fun kept => h.follow kept _

end Walks

/-! ## Every message -/

/-- The walk behind a node at which the run was parked follows the edges kept there. -/
theorem walkFromSuspension_eq (f : Flow) (c : RunContext) (n : Node) :
    walkFromSuspension ⟨f, .ofFlow f, c⟩ n = (do
      let kept ← n.keptEdges c (f.outgoing n.id)
      follow ⟨f, .ofFlow f, c⟩ kept (({} : Walk).visit n.id)) := by
  unfold walkFromSuspension
  rw [NodeIndex.outgoing_ofFlow]
  rfl

/-- The walk from a trigger follows the edges kept there. -/
theorem walkFromTrigger_eq (f : Flow) (c : RunContext) {n : Node} {keyword : String}
    (hn : n.role = .trigger keyword) :
    walkFromTrigger ⟨f, .ofFlow f, c⟩ n = (do
      let kept ← n.keptEdges c (f.outgoing n.id)
      follow ⟨f, .ofFlow f, c⟩ kept ((({} : Walk).visit n.id).record c n .continued)) := by
  unfold walkFromTrigger
  rw [Node.perform_trigger c hn, NodeIndex.outgoing_ofFlow]
  rfl

/-- A turn ends where the handling of the message ends. -/
theorem Turn.run_eq {resumed : Bool} {entry : Node} {kept : List Edge} {js : List Passage}
    {r : Option DeliveryError × Walk} {s' : World} (h : Turn f c p s resumed entry kept js r s') :
    (f.receive c).run p s = (r.2.report f resumed r.1, s'.closed r.1) := by
  unfold Flow.receive
  rw [run_bind]
  cases h with
  | resumed hr hk hc =>
    rw [hr]
    dsimp only
    rw [walkFromSuspension_eq, run_bind, run_bind, hk, hc.run_eq, finish_run]
  | started hr ht hk hc =>
    obtain ⟨-, keyword, hrole, -⟩ := Flow.triggerFor_some ht
    rw [hr]
    dsimp only
    rw [ht]
    dsimp only
    rw [walkFromTrigger_eq f c hrole, run_bind, run_bind, hk, hc.run_eq, finish_run]

/-- A message in a flow: nothing is resumed and no trigger matches, or the flow engages. -/
theorem receive_cases (f : Flow) (c : RunContext) (p : Partners) (s : World) :
    (∃ s₁, (f.resumption c).run p s = (none, s₁) ∧ f.triggerFor c.message.body = none ∧
      (f.receive c).run p s = (.notEngaged f.id 0, s₁)) ∨
    ∃ resumed entry kept js r s', Turn f c p s resumed entry kept js r s' ∧
      (f.receive c).run p s = (r.2.report f resumed r.1, s'.closed r.1) := by
  rcases hr : (f.resumption c).run p s with ⟨_ | n, s₁⟩
  · cases ht : f.triggerFor c.message.body with
    | none =>
      refine .inl ⟨s₁, rfl, rfl, ?_⟩
      unfold Flow.receive
      rw [run_bind, hr, ht]
      rfl
    | some n =>
      rcases hk : (n.keptEdges c (f.outgoing n.id)).run p s₁ with ⟨kept, s₂⟩
      obtain ⟨js, hc⟩ := follow_course (f := f) (c := c) (p := p) kept
        ((({} : Walk).visit n.id).record c n .continued) s₂
      have hturn : Turn f c p s false n kept js _ _ := .started hr ht hk hc
      exact .inr ⟨_, _, _, _, _, _, hturn, hturn.run_eq⟩
  · rcases hk : (n.keptEdges c (f.outgoing n.id)).run p s₁ with ⟨kept, s₂⟩
    obtain ⟨js, hc⟩ := follow_course (f := f) (c := c) (p := p) kept (({} : Walk).visit n.id) s₂
    have hturn : Turn f c p s true n kept js _ _ := .resumed hr hk hc
    exact .inr ⟨_, _, _, _, _, _, hturn, hturn.run_eq⟩

theorem Walk.report_engages (w : Walk) (resumed : Bool) (e : Option DeliveryError) :
    (w.report f resumed e).outcome ≠ .notEngaged := by
  show w.outcome e ≠ .notEngaged
  unfold Walk.outcome
  split
  · simp
  · split <;> simp

/-- A report that tells of no failure is that of a walk without one. -/
theorem Walk.failure_eq_none {w : Walk} {resumed : Bool} {e : Option DeliveryError}
    (h : ∀ reason, (w.report f resumed e).outcome ≠ .failed reason) : e = none := by
  cases e with
  | none => rfl
  | some err => exact absurd rfl (h (RunError.reply err).message)

/-- What a report says of how the flow came to engage: it is resumed exactly if a suspension was
taken up and its node found, and it has not engaged exactly if nothing is resumed and no trigger
matches. -/
theorem receive_entered {rep : Report} {s' : World} (h : (f.receive c).run p s = (rep, s')) :
    rep.flowId = f.id ∧ rep.resumed = ((f.resumption c).run p s).1.isSome ∧
      (rep.outcome = .notEngaged ↔
        rep.resumed = false ∧ f.triggerFor c.message.body = none) := by
  rcases receive_cases f c p s with ⟨s₁, hr, ht, hrun⟩ | ⟨resumed, entry, kept, js, r, s₁, ht, hrun⟩
  · cases hrun.symm.trans h
    rw [hr]
    exact ⟨rfl, rfl, fun _ => ⟨rfl, ht⟩, fun _ => rfl⟩
  · cases hrun.symm.trans h
    have hne := r.2.report_engages (f := f) resumed r.1
    cases ht with
    | resumed hr _ _ =>
      rw [hr]
      exact ⟨rfl, rfl, fun he => absurd he hne, fun he => by cases he.1⟩
    | started hr htr _ _ =>
      rw [hr]
      exact ⟨rfl, rfl, fun he => absurd he hne, fun he => by cases htr.symm.trans he.2⟩

/-- A flow that does not engage has done nothing but look for a suspension. -/
theorem receive_notEngaged {rep : Report} {s' : World} (h : (f.receive c).run p s = (rep, s'))
    (he : rep.outcome = .notEngaged) :
    rep = .notEngaged f.id 0 ∧ (f.resumption c).run p s = (none, s') := by
  rcases receive_cases f c p s with ⟨s₁, hr, -, hrun⟩ | ⟨resumed, entry, kept, js, r, s₁, -, hrun⟩
  · cases hrun.symm.trans h
    exact ⟨rfl, hr⟩
  · cases hrun.symm.trans h
    exact absurd he (Walk.report_engages _ _ _)

namespace Turn

variable {resumed : Bool} {entry : Node} {kept : List Edge} {js : List Passage}
  {r : Option DeliveryError × Walk} {s' : World}

/-- The walk of a turn starts at the edges kept at the entry, with the entry met, and with its
record if it ran. -/
theorem course (h : Turn f c p s resumed entry kept js r s') : ∃ w s₂,
    Course f c p kept w s₂ js r s' ∧ w.visited = [entry.id] ∧ w.suspendedAt = none ∧
      w.records = if resumed then [] else [⟨entry.id, entry.type, c.now, c.now, .continued⟩] := by
  cases h with
  | resumed _ _ hc => exact ⟨_, _, hc, rfl, rfl, rfl⟩
  | started _ _ _ hc => exact ⟨_, _, hc, rfl, rfl, rfl⟩

/-- A turn looks for a suspension, then chooses the edges to keep at the entry, then walks. -/
theorem stages (h : Turn f c p s resumed entry kept js r s') : ∃ o w s₁ s₂,
    (f.resumption c).run p s = (o, s₁) ∧
      (entry.keptEdges c (f.outgoing entry.id)).run p s₁ = (kept, s₂) ∧
      Course f c p kept w s₂ js r s' := by
  cases h with
  | resumed hr hk hc => exact ⟨_, _, _, _, hr, hk, hc⟩
  | started hr _ hk hc => exact ⟨_, _, _, _, hr, hk, hc⟩

/-- The edges kept at the entry leave it. -/
theorem kept_filter (h : Turn f c p s resumed entry kept js r s') :
    ∃ q : Edge → Bool, kept = (f.outgoing entry.id).filter q := by
  obtain ⟨-, -, s₁, s₂, -, hk, -⟩ := h.stages
  obtain ⟨q, hq⟩ := entry.keptEdges_eq_filter c p (f.outgoing entry.id) s₁
  exact ⟨q, by rw [← hq, hk]⟩

end Turn

end

end Dialogue
