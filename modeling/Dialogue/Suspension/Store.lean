/-
The store of suspensions: at most one entry for each sender, alive until the time that was set
when it was written. The store carries its own clock, and may be told to refuse reads or writes.
-/
import Dialogue.Suspension.Basic
import Dialogue.Table

namespace Dialogue

/-- Failures of a store. -/
inductive StoreError where
  | unavailable (reason : String)
  | backend (reason : String)
deriving DecidableEq, Repr

/-- The wording of a failure. -/
def StoreError.message : StoreError → String
  | .unavailable reason => "store unavailable: " ++ reason
  | .backend reason => "store backend error: " ++ reason

/-- An entry and the time from which it no longer counts. -/
structure StoreEntry where
  state : Suspension
  deadline : Nat
deriving DecidableEq, Repr

/-- Suspensions by key, with the time in milliseconds. -/
structure SuspensionStore where
  entries : Table StoreEntry := []
  now : Nat := 0
  /-- Whether reading works. -/
  readable : Bool := true
  /-- Whether writing and deleting work. -/
  writable : Bool := true
deriving DecidableEq, Repr

namespace SuspensionStore

/-- The lifetime of a suspension unless settings say otherwise: one hour. -/
def defaultTtl : Nat := 3600000

/-- What a store that refuses says. -/
def down : StoreError := .unavailable "connection reset"

/-- The live entry of a sender, whether or not reading works. -/
def peek (s : SuspensionStore) (tenantId userId : String) : Option Suspension :=
  match s.entries.get? (storeKey tenantId userId) with
  | some e => if s.now < e.deadline then some e.state else none
  | none => none

/-- The store with the entry of a sender replaced, whether or not writing works. -/
def put (s : SuspensionStore) (tenantId userId : String) (state : Suspension) (ttl : Nat) :
    SuspensionStore :=
  { s with entries := s.entries.insert (storeKey tenantId userId) ⟨state, s.now + ttl⟩ }

/-- The store without the entry of a sender, whether or not writing works. -/
def drop (s : SuspensionStore) (tenantId userId : String) : SuspensionStore :=
  { s with entries := s.entries.erase (storeKey tenantId userId) }

/-- Reads the entry of a sender. -/
def get (s : SuspensionStore) (tenantId userId : String) :
    Except StoreError (Option Suspension) :=
  if s.readable then .ok (s.peek tenantId userId) else .error down

/-- Writes the entry of a sender, in place of any earlier one. -/
def set (s : SuspensionStore) (tenantId userId : String) (state : Suspension) (ttl : Nat) :
    Except StoreError Unit × SuspensionStore :=
  if s.writable then (.ok (), s.put tenantId userId state ttl) else (.error down, s)

/-- Deletes the entry of a sender. It is no error if there is none. -/
def delete (s : SuspensionStore) (tenantId userId : String) :
    Except StoreError Unit × SuspensionStore :=
  if s.writable then (.ok (), s.drop tenantId userId) else (.error down, s)

/-- Whether a sender has a live entry. -/
def contains (s : SuspensionStore) (tenantId userId : String) : Bool :=
  (s.peek tenantId userId).isSome

/-- Lets time pass. -/
def advance (s : SuspensionStore) (millis : Nat) : SuspensionStore :=
  { s with now := s.now + millis }

end SuspensionStore

end Dialogue
