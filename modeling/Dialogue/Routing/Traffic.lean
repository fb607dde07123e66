/-
Messages that are answered at the same time. Whoever is to answer a message takes a handle of the
lock of its sender, waits for that lock, and holds it as long as the message is routed. The locks
stand in a table by the sender's key: a lock is made when nobody has one for the key, and taken out
of the table when only one handle of it is left besides the table's own.

A step of one message is one access to the table, the acquisition or the return of a lock, or one
request to the world outside; any message may take the next step.
-/
import Dialogue.Routing.Desk

namespace Dialogue

/-- How far the handling of a message has come. -/
inductive Stage where
  /-- It has not begun. -/
  | pending
  /-- It has a handle of a lock, and waits for the lock. -/
  | waiting (lock : Nat)
  /-- It has the lock; this is what is left to do, and what was seen so far. -/
  | running (lock : Nat) (rest : Program (Option Report)) (log : Log)
  /-- It gave the lock back. -/
  | released (lock : Nat) (result : Exchange)
  /-- It saw to the table, and still has its handle. -/
  | leaving (lock : Nat) (result : Exchange)
  | answered (result : Exchange)

namespace Stage

/-- The lock of which this message has a handle. -/
def lock? : Stage → Option Nat
  | .waiting l | .running l _ _ | .released l _ | .leaving l _ => some l
  | .pending | .answered _ => none

/-- The lock that this message holds. -/
def held? : Stage → Option Nat
  | .running l _ _ => some l
  | _ => none

/-- What came of the message, once the lock was given back. -/
def result? : Stage → Option Exchange
  | .released _ x | .leaving _ x | .answered x => some x
  | _ => none

end Stage

/-- A desk at which `n` messages are answered at the same time. -/
structure Traffic (n : Nat) where
  registry : Registry
  store : SuspensionStore
  /-- The locks by the keys of senders. -/
  locks : Table Nat := []
  /-- The number of locks made so far, which is the name of the next one. -/
  made : Nat := 0
  visits : Fin n → Visit
  stage : Fin n → Stage := fun _ => .pending

namespace Traffic

variable {n : Nat}

/-- The key of a message's sender. -/
def key (t : Traffic n) (i : Fin n) : String :=
  (t.visits i).key

/-- A message comes to a stage. -/
def enter (t : Traffic n) (i : Fin n) (g : Stage) : Traffic n :=
  { t with stage := fun j => if j = i then g else t.stage j }

/-- The handles of a lock, that of the table among them. -/
def handles (t : Traffic n) (lock : Nat) : Nat :=
  t.locks.values.count lock + (List.finRange n).countP fun i => (t.stage i).lock? == some lock

/-- Whether a message holds the lock. -/
def isHeld (t : Traffic n) (lock : Nat) : Bool :=
  (List.finRange n).any fun i => (t.stage i).held? == some lock

/-- Takes a handle of the lock of a message's sender, which is made if the table has none. -/
def takeHandle (t : Traffic n) (i : Fin n) : Traffic n :=
  match t.locks.get? (t.key i) with
  | some l => t.enter i (.waiting l)
  | none =>
    { t with locks := t.locks.insert (t.key i) t.made, made := t.made + 1 }.enter i (.waiting t.made)

/-- Takes the lock of a sender out of the table if the table has it and there are two handles of
it, the table's and one more. -/
def tidy (t : Traffic n) (key : String) : Traffic n :=
  match t.locks.get? key with
  | some l => if t.handles l = 2 then { t with locks := t.locks.erase key } else t
  | none => t

/-- The next step of a message. There is none while it waits for a lock that another holds, and
none after the last. -/
def advance (t : Traffic n) (i : Fin n) : Option (Traffic n) :=
  match t.stage i with
  | .pending => some (t.takeHandle i)
  | .waiting l =>
    if t.isHeld l then none
    else some (t.enter i (.running l (t.registry.process (t.visits i).context) {}))
  | .running l (.done report) log => some (t.enter i (.released l ⟨report, log⟩))
  | .running l (.ask r next) log =>
    let (a, w) := World.answer (t.visits i).partners ⟨t.store, log⟩ r
    some ({ t with store := w.store }.enter i (.running l (next a) w.log))
  | .released l x => some ((t.tidy (t.key i)).enter i (.leaving l x))
  | .leaving _ x => some (t.enter i (.answered x))
  | .answered _ => none

/-- Takes steps in the order of a schedule. -/
def run (t : Traffic n) : List (Fin n) → Option (Traffic n)
  | [] => some t
  | i :: schedule =>
    match t.advance i with
    | some t => t.run schedule
    | none => none

/-- Messages that come to a desk, none of which was begun. -/
def start (d : Desk) (visits : Fin n → Visit) : Traffic n where
  registry := d.registry
  store := d.store
  visits := visits

/-- What came of a message that was answered. -/
def exchange? (t : Traffic n) (i : Fin n) : Option Exchange :=
  match t.stage i with
  | .answered x => some x
  | _ => none

/-- Whether every message was answered. -/
def finished (t : Traffic n) : Bool :=
  (List.finRange n).all fun i => (t.exchange? i).isSome

end Traffic

end Dialogue
