/-
Calls of the store of suspensions, each made at a time of its own. Between two calls nothing happens
but that time passes.
-/
import Dialogue.Suspension.Store

namespace Dialogue

/-- What is asked of the store for one sender. -/
inductive StoreCall where
  | set (state : Suspension) (ttl : Nat)
  | get
  | contains
  | delete
deriving DecidableEq, Repr

/-- Whether the call is one to write or to delete. -/
def StoreCall.changes : StoreCall → Bool
  | .set _ _ | .delete => true
  | .get | .contains => false

/-- A call for a sender, and when it is made. -/
structure TimedCall where
  time : Nat
  tenantId : String
  userId : String
  call : StoreCall
deriving DecidableEq, Repr

/-- The key that the call is about. -/
def TimedCall.key (c : TimedCall) : String :=
  storeKey c.tenantId c.userId

/-- What comes of a call. -/
inductive StoreAnswer where
  | done (result : Except StoreError Unit)
  | found (result : Except StoreError (Option Suspension))
  | contained (present : Bool)
deriving Repr

namespace SuspensionStore

/-- Lets time pass up to a moment. -/
def waitUntil (s : SuspensionStore) (time : Nat) : SuspensionStore :=
  s.advance (time - s.now)

/-- Answers a call at its time. -/
def answer (s : SuspensionStore) (c : TimedCall) : StoreAnswer × SuspensionStore :=
  let s := s.waitUntil c.time
  match c.call with
  | .set state ttl =>
    let (result, s) := s.set c.tenantId c.userId state ttl
    (.done result, s)
  | .get => (.found (s.get c.tenantId c.userId), s)
  | .contains => (.contained (s.contains c.tenantId c.userId), s)
  | .delete =>
    let (result, s) := s.delete c.tenantId c.userId
    (.done result, s)

/-- Answers calls one after another. -/
def run (s : SuspensionStore) : List TimedCall → List StoreAnswer × SuspensionStore
  | [] => ([], s)
  | c :: cs =>
    let (a, s) := s.answer c
    let (as, s) := s.run cs
    (a :: as, s)

end SuspensionStore

end Dialogue
