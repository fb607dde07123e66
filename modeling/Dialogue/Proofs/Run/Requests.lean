/-
What a run asks for. `Program.asked` lists the requests of a run in their order, `Program.outward`
those among them that go outside: the replies to be sent and the questions to the services. A bound
on their number that holds whatever the answers are is `Program.Within`.

What a single node asks of those outside is its deed (`Node.Deed`): at most one reply and at most one
question, and only what its kind is there for (`Node.perform_keptEdges_deed`).
-/
import Dialogue.Proofs.Run.Step

namespace Dialogue

/-- Whether a request goes to the sender or to one of the services. -/
def Request.isOutward : Request → Bool
  | .send _ | .classify _ | .respond _ => true
  | _ => false

theorem Request.Internal.not_outward {r : Request} (h : r.Internal) : r.isOutward = false := by
  cases r with
  | send text => exact h.elim
  | classify prompt => exact h.elim
  | respond call => exact h.elim
  | readState t u | writeState t u state ttl | dropState t u | warn w => rfl

/-- Whether a request is to send a reply. -/
def Request.isReply : Request → Bool
  | .send _ => true
  | _ => false

/-- Whether a request is a question to one of the services. -/
def Request.isQuestion : Request → Bool
  | .classify _ | .respond _ => true
  | _ => false

namespace Program

variable {α β : Type} (p : Partners)

/-! ## The requests of a run -/

/-- The requests of a run, in their order. -/
def asked : Program α → World → List Request
  | .done _, _ => []
  | .ask r next, s => r :: (next (s.answer p r).1).asked (s.answer p r).2

/-- The requests of a run that go outside. -/
def outward (x : Program α) (s : World) : List Request :=
  (x.asked p s).filter (·.isOutward)

@[simp] theorem asked_pure (a : α) (s : World) : (pure a : Program α).asked p s = [] := rfl

theorem asked_bind (x : Program α) (f : α → Program β) (s : World) :
    (x >>= f).asked p s = x.asked p s ++ (f (x.run p s).1).asked p (x.run p s).2 := by
  induction x generalizing s with
  | done a => rfl
  | ask r next ih => exact congrArg (r :: ·) (ih _ _)

@[simp] theorem outward_pure (a : α) (s : World) : (pure a : Program α).outward p s = [] := rfl

@[simp] theorem outward_bind (x : Program α) (f : α → Program β) (s : World) :
    (x >>= f).outward p s = x.outward p s ++ (f (x.run p s).1).outward p (x.run p s).2 := by
  unfold outward
  rw [asked_bind, List.filter_append]

@[simp] theorem outward_request (r : Request) (s : World) :
    (request r).outward p s = if r.isOutward then [r] else [] := List.filter_cons

@[simp] theorem outward_warn (w : Warning) (s : World) : (warn w).outward p s = [] := rfl

@[simp] theorem outward_tolerate (e : RunError) (s : World) : (tolerate e).outward p s = [] := rfl

variable {p}

/-- What every request satisfies that a program can come to, those of a run do. -/
theorem Asks.forall_asked {P : Request → Prop} {x : Program α} (h : x.Asks P) (s : World) :
    ∀ r ∈ x.asked p s, P r := by
  induction x generalizing s with
  | done a => exact fun r hr => by cases hr
  | ask r next ih => exact List.forall_mem_cons.2 ⟨h.1, ih _ (h.2 _) _⟩

theorem Asks.outward_eq_nil {x : Program α} (h : x.Asks Request.Internal) (s : World) :
    x.outward p s = [] :=
  List.filter_eq_nil_iff.2 fun r hr => by simp [(h.forall_asked s r hr).not_outward]

/-! ## How much is asked -/

/-- The program makes at most so many requests, whatever it is answered. -/
def Within : Nat → Program α → Prop
  | _, .done _ => True
  | 0, .ask _ _ => False
  | k + 1, .ask _ next => ∀ x, (next x).Within k

theorem within_pure (a : α) (k : Nat) : (pure a : Program α).Within k := by
  cases k <;> trivial

theorem within_request_bind {r : Request} {f : r.Answer → Program β} {k : Nat}
    (h : ∀ a, (f a).Within k) : (request r >>= f).Within (k + 1) := h

theorem within_warn_bind {w : Warning} {x : Program β} {k : Nat} (h : x.Within k) :
    (do warn w; x).Within (k + 1) := fun _ => h

theorem within_tolerate (e : RunError) : (tolerate e).Within 1 := fun _ => trivial

theorem Within.mono {x : Program α} {k l : Nat} (h : x.Within k) (hkl : k ≤ l) : x.Within l := by
  induction x generalizing k l with
  | done a => exact within_pure a l
  | ask r next ih =>
    cases k with
    | zero => exact h.elim
    | succ k =>
      obtain ⟨l, rfl⟩ : ∃ m, l = m + 1 := ⟨l - 1, by omega⟩
      exact fun y => ih y (h y) (Nat.le_of_succ_le_succ hkl)

theorem Within.bind {x : Program α} {f : α → Program β} {k l : Nat} (hx : x.Within k)
    (hf : ∀ a, (f a).Within l) : (x >>= f).Within (k + l) := by
  induction x generalizing k with
  | done a => exact (hf a).mono (Nat.le_add_left l k)
  | ask r next ih =>
    cases k with
    | zero => exact hx.elim
    | succ k =>
      rw [Nat.succ_add]
      exact fun y => ih y (hx y)

theorem within_ite {b : Prop} [Decidable b] {x y : Program α} {k : Nat} (hx : x.Within k)
    (hy : y.Within k) : (if b then x else y).Within k := by
  split
  · exact hx
  · exact hy

theorem Within.length_asked {x : Program α} {k : Nat} (h : x.Within k) (s : World) :
    (x.asked p s).length ≤ k := by
  induction x generalizing k s with
  | done a => exact Nat.zero_le k
  | ask r next ih =>
    cases k with
    | zero => exact h.elim
    | succ k => exact Nat.succ_le_succ (ih _ (h _) _)

theorem Within.length_asked_bind {x : Program α} {f : α → Program β} {k : Nat} (hx : x.Within k)
    (s : World) : ((x >>= f).asked p s).length ≤
      ((f (x.run p s).1).asked p (x.run p s).2).length + k := by
  rw [asked_bind, List.length_append, Nat.add_comm]
  exact Nat.add_le_add_left (hx.length_asked s) _

end Program

open Program

/-! ## What one node asks for -/

section

variable (c : RunContext)

theorem sendReply_within (text : String) : (sendReply text).Within 1 := by
  refine within_request_bind fun a => ?_
  cases a <;> exact within_pure _ 0

theorem sendAnswer_within (prompt : String) : (sendAnswer c prompt).Within 2 := by
  unfold sendAnswer
  refine within_ite (within_warn_bind (within_pure _ 1)) (within_request_bind fun a => ?_)
  cases a with
  | error e => exact within_warn_bind (within_pure _ 0)
  | ok reply =>
    dsimp only
    split
    · exact sendReply_within _
    · exact within_pure _ 1

theorem Router.classify_within (id : String) (r : Router) : (r.classify c id).Within 3 := by
  unfold classify
  refine within_ite (within_warn_bind (within_pure _ 2)) ?_
  refine within_ite (within_warn_bind (within_pure _ 2)) (within_request_bind fun a => ?_)
  cases a with
  | error e => exact within_warn_bind (within_pure _ 1)
  | ok answer =>
    dsimp only
    split
    · exact within_pure _ 2
    · exact within_warn_bind (within_pure _ 1)
    · exact within_warn_bind (within_warn_bind (within_pure _ 0))

namespace Node

theorem perform_within (n : Node) : (n.perform c).Within 2 := by
  unfold perform
  split
  · exact within_ite (within_pure _ 2) ((sendReply_within _).mono (by decide))
  · exact sendAnswer_within c _
  · exact within_pure _ 2

theorem keptEdges_within (n : Node) (out : List Edge) : (n.keptEdges c out).Within 3 := by
  unfold keptEdges
  split
  · exact within_pure _ 3
  · refine Within.bind (l := 0) (Router.classify_within c _ _) fun label => ?_
    cases label <;> exact within_pure _ 0
  · exact within_pure _ 3

/-- What a node may ask of those outside on account of a message: nothing, or what its kind is there
for. -/
inductive Deed (n : Node) : List Request → Prop
  | nothing : n.Deed []
  | reply {text : String} : n.role = .action text → n.Deed [.send text]
  | question {prompt : String} : n.role = .ai prompt → n.Deed [.respond (c.call prompt)]
  | answer {prompt text : String} : n.role = .ai prompt →
      n.Deed [.respond (c.call prompt), .send text]
  | choice {r : Router} : n.role = .router r → n.Deed [.classify (r.question c.message.body)]

variable {c}

theorem Deed.replies_le {n : Node} {rs : List Request} (h : n.Deed c rs) :
    rs.countP (·.isReply) ≤ 1 := by
  cases h <;> simp [Request.isReply]

theorem Deed.questions_le {n : Node} {rs : List Request} (h : n.Deed c rs) :
    rs.countP (·.isQuestion) ≤ 1 := by
  cases h <;> simp [Request.isQuestion]

end Node

variable {c} {p : Partners}

theorem sendReply_outward (text : String) (s : World) :
    (sendReply text).outward p s = [.send text] := by
  unfold sendReply
  rw [outward_bind]
  cases ((request (.send text)).run p s).1 <;> rfl

/-- An `ai` node asks the responder if there is one, and sends the text it is answered, if any. -/
theorem sendAnswer_outward (prompt : String) (s : World) :
    (sendAnswer c prompt).outward p s = [] ∨
      (sendAnswer c prompt).outward p s = [.respond (c.call prompt)] ∨
      ∃ text, (sendAnswer c prompt).outward p s = [.respond (c.call prompt), .send text] := by
  unfold sendAnswer RunContext.call
  split
  · exact .inl rfl
  · right
    rw [outward_bind]
    rcases ((request (.respond ⟨fullPrompt prompt c.message.body, c.addressee⟩)).run p s).1 with
      e | reply
    · exact .inl rfl
    · dsimp only
      cases reply.filledText with
      | none => exact .inl rfl
      | some text =>
        right
        dsimp only
        rw [sendReply_outward]
        exact ⟨text, rfl⟩

/-- A router asks the classifier once, or not at all. -/
theorem Router.classify_outward (r : Router) (id : String) (s : World) :
    (r.classify c id).outward p s = [] ∨
      (r.classify c id).outward p s = [.classify (r.question c.message.body)] := by
  unfold classify
  split
  · exact .inl rfl
  split
  · exact .inl rfl
  right
  rw [outward_bind]
  rcases ((request (.classify (r.question c.message.body))).run p s).1 with e | answer
  · rfl
  · dsimp only
    cases readAnswer answer r.options <;> rfl

namespace Node

variable (n : Node) (s : World)

theorem perform_deed : n.Deed c ((n.perform c).outward p s) := by
  unfold perform
  split
  · rename_i text hr
    split
    · exact .nothing
    · rw [sendReply_outward]
      exact .reply hr
  · rename_i prompt hr
    rcases sendAnswer_outward (c := c) (p := p) prompt s with h | h | ⟨text, h⟩ <;> rw [h]
    · exact .nothing
    · exact .question hr
    · exact .answer hr
  · exact .nothing

theorem keptEdges_deed (out : List Edge) : n.Deed c ((n.keptEdges c out).outward p s) := by
  unfold keptEdges
  split
  · exact .nothing
  · rename_i r hr
    have hone : n.Deed c ((r.classify c n.id).outward p s) := by
      rcases Router.classify_outward (c := c) (p := p) r n.id s with h | h <;> rw [h]
      · exact .nothing
      · exact .choice hr
    rw [outward_bind]
    rcases ((r.classify c n.id).run p s).1 with _ | label <;>
      simpa only [outward_pure, List.append_nil] using hone
  · exact .nothing

/-- A node that asks anything as it is handled asks nothing for the choice of its edges. -/
theorem perform_keptEdges_deed (t : World) (out : List Edge) :
    n.Deed c ((n.perform c).outward p s ++ (n.keptEdges c out).outward p t) := by
  by_cases hr : ∃ r, n.role = .router r
  · obtain ⟨r, hr⟩ := hr
    have hnone : (n.perform c).outward p s = [] := by unfold perform; rw [hr]; rfl
    rw [hnone]
    exact n.keptEdges_deed t out
  · have hnone : (n.keptEdges c out).outward p t = [] := by
      unfold keptEdges
      split
      · rfl
      · rename_i r h; exact absurd ⟨r, h⟩ hr
      · rfl
    rw [hnone, List.append_nil]
    exact n.perform_deed s

end Node

end

end Dialogue
