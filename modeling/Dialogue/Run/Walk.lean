/-
The walk through a flow: depth first, in the order of the edges, every node at most once except
those that wait for input. The edges still to be followed are kept on an agenda; the edges kept at
a node go in front of it.
-/
import Dialogue.Run.Report
import Dialogue.Run.Step
import Dialogue.Table

namespace Dialogue

/-- What a walk has done so far. -/
structure Walk where
  /-- The ids met, the latest first. -/
  visited : List String := []
  /-- The handlers that ran, the earliest first. -/
  records : List RunRecord := []
  replies : Nat := 0
  /-- The node at which a branch was parked last. -/
  suspendedAt : Option String := none
deriving DecidableEq, Repr

namespace Walk

/-- Marks an id as met. -/
def visit (w : Walk) (id : String) : Walk :=
  { w with visited := id :: w.visited }

/-- Adds a record for a handler that ran. -/
def record (w : Walk) (c : RunContext) (n : Node) (status : RecordStatus) : Walk :=
  { w with records := w.records ++ [⟨n.id, n.type, c.now, c.now, status⟩] }

/-- Counts replies. -/
def count (w : Walk) (replies : Nat) : Walk :=
  { w with replies := w.replies + replies }

/-- Notes the node at which a branch was parked. -/
def parkedAt (w : Walk) (id : String) : Walk :=
  { w with suspendedAt := some id }

end Walk

/-- What a walk takes place in: the flow with its index, and the message. -/
structure WalkContext where
  flow : Flow
  index : NodeIndex
  run : RunContext

/-- Parks the run at a node. A failed write is logged, and the run counts as parked all the
same. -/
def park (c : WalkContext) (n : Node) : Program Unit := do
  let m := c.run.message
  let state : Suspension := ⟨c.flow.id, n.id, m.tenantId, m.userId, c.run.now⟩
  match ← Program.request (.writeState m.tenantId m.userId state c.run.config.suspensionTtl) with
  | .ok () => return ()
  | .error e => Program.tolerate (.cacheWrite e)

/-- Follows the edges of the agenda. A reply that fails ends the walk at once. -/
def follow (c : WalkContext) : (agenda : List Edge) → Walk → Program (Option DeliveryError × Walk)
  | [], w => return (none, w)
  | e :: agenda, w =>
    match _h : c.index.node? e.target with
    | none => do
      Program.tolerate (.nodeReference e.id e.target)
      follow c agenda w
    | some n =>
      if n.waits then do
        park c n
        follow c agenda (((w.visit e.target).record c.run n .suspended).parkedAt n.id)
      else if _hv : e.target ∈ w.visited then do
        Program.tolerate (.cycleDetected n.id)
        follow c agenda w
      else do
        match ← n.perform c.run with
        | .error err => return (some err, (w.visit e.target).record c.run n .failed)
        | .ok replies =>
          let kept ← n.keptEdges c.run (c.index.outgoing n.id)
          follow c (kept ++ agenda) (((w.visit e.target).record c.run n .continued).count replies)
termination_by agenda w => ((fresh c.index.ids w.visited).length, agenda.length)
decreasing_by
  · exact Prod.Lex.right _ (Nat.lt_succ_self _)
  · rcases Nat.lt_or_eq_of_le (length_fresh_cons_le c.index.ids w.visited e.target) with hlt | heq
    · exact Prod.Lex.left _ _ hlt
    · simp only [Walk.visit, Walk.record, Walk.parkedAt, heq]
      exact Prod.Lex.right _ (Nat.lt_succ_self _)
  · exact Prod.Lex.right _ (Nat.lt_succ_self _)
  · exact Prod.Lex.left _ _ (length_fresh_cons_lt (NodeIndex.mem_ids_of_node? _h) _hv)

/-- Runs the trigger and everything behind it. -/
def walkFromTrigger (c : WalkContext) (trigger : Node) : Program (Option DeliveryError × Walk) := do
  let w : Walk := ({} : Walk).visit trigger.id
  match ← trigger.perform c.run with
  | .error err => return (some err, w.record c.run trigger .failed)
  | .ok replies =>
    let kept ← trigger.keptEdges c.run (c.index.outgoing trigger.id)
    follow c kept ((w.record c.run trigger .continued).count replies)

/-- Goes on behind a node at which the run was parked, without running it again. -/
def walkFromSuspension (c : WalkContext) (node : Node) :
    Program (Option DeliveryError × Walk) := do
  let kept ← node.keptEdges c.run (c.index.outgoing node.id)
  follow c kept (({} : Walk).visit node.id)

end Dialogue
