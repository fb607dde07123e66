/-
What one node does, seen from outside: neither its effect nor the choice of the edges behind it
touches the store or warns of an edge, and the edges kept at it are those of the edges that leave it
which pass a test.
-/
import Dialogue.Proofs.Run.Program
import Dialogue.Run.Step

namespace Dialogue

open Program

/-- Those who answer the questions of a run, if there are any. -/
def RunContext.assistant? (c : RunContext) (p : Partners) : Option Assistant :=
  if c.hasAssistant then p.assistant else none

/-- The question that the prompt of an `ai` node makes of the message. -/
def RunContext.call (c : RunContext) (prompt : String) : ResponderCall :=
  ⟨fullPrompt prompt c.message.body, c.addressee⟩

variable (c : RunContext)

/-! ## What a node asks for -/

/-- A request of a node: it has nothing to do with the store, and is no warning of an edge. -/
def Request.OfNode (r : Request) : Prop :=
  r.Storeless ∧ r.OffEdge

theorem sendReply_asks (text : String) : (sendReply text).Asks Request.OfNode := by
  refine asks_bind (asks_request ⟨trivial, trivial⟩) fun a => ?_
  cases a <;> exact asks_pure _

theorem sendAnswer_asks (prompt : String) : (sendAnswer c prompt).Asks Request.OfNode := by
  unfold sendAnswer
  refine asks_ite (asks_bind (asks_warn ⟨trivial, rfl⟩) fun _ => asks_pure _) ?_
  refine asks_bind (asks_request ⟨trivial, trivial⟩) fun a => ?_
  cases a with
  | error e => exact asks_bind (asks_warn ⟨trivial, rfl⟩) fun _ => asks_pure _
  | ok reply =>
    dsimp only
    split
    · exact sendReply_asks _
    · exact asks_pure _

namespace Node

theorem perform_ofNode (n : Node) : (n.perform c).Asks Request.OfNode := by
  unfold perform
  split
  · exact asks_ite (asks_pure _) (sendReply_asks _)
  · exact sendAnswer_asks c _
  · exact asks_pure _

end Node

theorem Router.classify_asks (id : String) (r : Router) :
    (r.classify c id).Asks Request.OfNode := by
  unfold classify
  refine asks_ite (asks_bind (asks_warn ⟨trivial, rfl⟩) fun _ => asks_pure _) ?_
  refine asks_ite (asks_bind (asks_warn ⟨trivial, rfl⟩) fun _ => asks_pure _) ?_
  refine asks_bind (asks_request ⟨trivial, trivial⟩) fun a => ?_
  cases a with
  | error e => exact asks_bind (asks_warn ⟨trivial, rfl⟩) fun _ => asks_pure _
  | ok answer =>
    dsimp only
    split
    · exact asks_pure _
    · exact asks_bind (asks_warn ⟨trivial, rfl⟩) fun _ => asks_pure _
    · exact asks_bind (asks_warn ⟨trivial, rfl⟩) fun _ => asks_bind (asks_warn ⟨trivial, rfl⟩) fun _ => asks_pure _

namespace Node

theorem keptEdges_ofNode (n : Node) (out : List Edge) :
    (n.keptEdges c out).Asks Request.OfNode := by
  unfold keptEdges
  split
  · exact asks_pure _
  · refine asks_bind (Router.classify_asks c _ _) fun l => ?_
    cases l <;> exact asks_pure _
  · exact asks_pure _

theorem perform_asks (n : Node) : (n.perform c).Asks Request.Storeless :=
  (n.perform_ofNode c).mono fun _ => And.left

theorem keptEdges_asks (n : Node) (out : List Edge) : (n.keptEdges c out).Asks Request.Storeless :=
  (n.keptEdges_ofNode c out).mono fun _ => And.left

variable (p : Partners) (n : Node)

theorem perform_store (s : World) : ((n.perform c).run p s).2.store = s.store :=
  run_store p ((n.perform_asks c).mono fun _ => Request.Storeless.spares) s

theorem keptEdges_store (out : List Edge) (s : World) :
    ((n.keptEdges c out).run p s).2.store = s.store :=
  run_store p ((n.keptEdges_asks c out).mono fun _ => Request.Storeless.spares) s

theorem perform_edgeWarnings (s : World) :
    ((n.perform c).run p s).2.log.edgeWarnings = s.log.edgeWarnings :=
  run_edgeWarnings p ((n.perform_ofNode c).mono fun _ => And.right) s

theorem keptEdges_edgeWarnings (out : List Edge) (s : World) :
    ((n.keptEdges c out).run p s).2.log.edgeWarnings = s.log.edgeWarnings :=
  run_edgeWarnings p ((n.keptEdges_ofNode c out).mono fun _ => And.right) s

variable {c p n}

theorem store_of_perform {a : Except DeliveryError Nat} {s s₁ : World}
    (h : (n.perform c).run p s = (a, s₁)) : s₁.store = s.store := by
  rw [← n.perform_store c p s, h]

theorem store_of_keptEdges {out kept : List Edge} {s s₁ : World}
    (h : (n.keptEdges c out).run p s = (kept, s₁)) : s₁.store = s.store := by
  rw [← n.keptEdges_store c p out s, h]

theorem edgeWarnings_of_perform {a : Except DeliveryError Nat} {s s₁ : World}
    (h : (n.perform c).run p s = (a, s₁)) : s₁.log.edgeWarnings = s.log.edgeWarnings := by
  rw [← n.perform_edgeWarnings c p s, h]

theorem edgeWarnings_of_keptEdges {out kept : List Edge} {s s₁ : World}
    (h : (n.keptEdges c out).run p s = (kept, s₁)) : s₁.log.edgeWarnings = s.log.edgeWarnings := by
  rw [← n.keptEdges_edgeWarnings c p out s, h]

variable (c p n)

/-! ## The edges kept -/

/-- The edges kept at a node are those that pass a test, out of those that leave it and in their
order. -/
theorem keptEdges_eq_filter (out : List Edge) (s : World) :
    ∃ q : Edge → Bool, ((n.keptEdges c out).run p s).1 = out.filter q := by
  unfold keptEdges
  split
  · exact ⟨_, rfl⟩
  · rw [run_bind]
    rcases ((Router.classify c n.id _).run p s).1 with _ | label
    · exact ⟨fun _ => false, by simp⟩
    · exact ⟨_, rfl⟩
  · exact ⟨fun _ => true, (List.filter_eq_self.2 fun _ _ => rfl).symm⟩

/-! ## Nodes that do nothing -/

/-- A trigger does nothing. -/
theorem perform_trigger {n : Node} {keyword : String} (h : n.role = .trigger keyword) :
    n.perform c = pure (.ok 0) := by
  unfold perform; rw [h]

end Node

end Dialogue
