/-
The cache in which a process keeps its suspensions. How long an entry stays is settled by hooks that
the cache calls when a value is put, replaced or read. An entry that is over is found no more; it is
cleared away at some later time, of which nothing is said, and until then it may count as replaced
when a value is put under its key.
-/
import Dialogue.Suspension.Calls

namespace Dialogue

/-- The hooks of a cache. Each gives the time for which an entry stays from now on, or none if it
stays for good. A hook that is not given leaves things as they are. -/
structure Expiry (α : Type) where
  /-- For a value that is put under a new key: key, value and the time now. -/
  afterCreate : String → α → Nat → Option Nat := fun _ _ _ => none
  /-- For a value that takes the place of another, which had so much time left. -/
  afterUpdate : String → α → Nat → Option Nat → Option Nat := fun _ _ _ left => left
  /-- For a value that is read and has so much time left. -/
  afterRead : String → α → Nat → Option Nat → Option Nat := fun _ _ _ left => left

/-- A value with the time from which it no longer counts, if there is one. -/
structure CacheEntry (α : Type) where
  value : α
  deadline? : Option Nat
deriving DecidableEq, Repr

namespace CacheEntry

variable {α : Type}

/-- An entry for so much time from now on. -/
def lasting (value : α) (now : Nat) (time? : Option Nat) : CacheEntry α :=
  ⟨value, time?.map (now + ·)⟩

/-- Whether the entry still counts. -/
def isAlive (e : CacheEntry α) (now : Nat) : Bool :=
  e.deadline?.all fun deadline => now < deadline

/-- How much time is left. -/
def left (e : CacheEntry α) (now : Nat) : Option Nat :=
  e.deadline?.map (· - now)

end CacheEntry

/-- Values by key, without a limit to their number. -/
structure Cache (α : Type) where
  expiry : Expiry α
  entries : Table (CacheEntry α) := []

namespace Cache

variable {α : Type}

/-- The entry of a key, if it still counts. -/
def live? (c : Cache α) (now : Nat) (key : String) : Option (CacheEntry α) :=
  (c.entries.get? key).filter (·.isAlive now)

/-- Reads the value of a key. -/
def get (c : Cache α) (now : Nat) (key : String) : Option α × Cache α :=
  match c.live? now key with
  | some e =>
    let time? := c.expiry.afterRead key e.value now (e.left now)
    (some e.value, { c with entries := c.entries.insert key (.lasting e.value now time?) })
  | none => (none, c)

/-- Whether a key has a value. This is no read. -/
def contains (c : Cache α) (now : Nat) (key : String) : Bool :=
  (c.live? now key).isSome

/-- How long a value stays that is put under a key. An entry that is over counts as replaced if `reuse`
says so. -/
def stay (c : Cache α) (now : Nat) (key : String) (value : α) (reuse : Bool) : Option Nat :=
  match (c.entries.get? key).filter fun e => e.isAlive now || reuse with
  | some e => c.expiry.afterUpdate key value now (e.left now)
  | none => c.expiry.afterCreate key value now

/-- Puts a value under a key. -/
def insert (c : Cache α) (now : Nat) (key : String) (value : α) (reuse : Bool) : Cache α :=
  { c with entries := c.entries.insert key (.lasting value now (c.stay now key value reuse)) }

/-- Removes the entry of a key. -/
def invalidate (c : Cache α) (key : String) : Cache α :=
  { c with entries := c.entries.erase key }

/-- Clears away the entry of a key if it is over. -/
def tidy (c : Cache α) (now : Nat) (key : String) : Cache α :=
  if c.contains now key then c else c.invalidate key

end Cache

/-! ## Suspensions -/

/-- A suspension and the lifetime with which it was written. -/
structure CachedSuspension where
  state : Suspension
  ttl : Nat
deriving DecidableEq, Repr

/-- Every suspension stays for its lifetime, whether or not it takes the place of another. -/
def ownTtl : Expiry CachedSuspension where
  afterCreate _ entry _ := some entry.ttl
  afterUpdate _ entry _ _ := some entry.ttl

/-- What happens to the cache: calls, for which the cache chooses whether an entry that is over counts
as replaced, and the clearing away of entries. -/
inductive CacheEvent where
  | call (c : TimedCall) (reuse : Bool)
  | tidy (time : Nat) (key : String)
deriving DecidableEq, Repr

namespace CacheEvent

/-- When it happens. -/
def time : CacheEvent → Nat
  | call c _ => c.time
  | tidy time _ => time

/-- The call, if it is one. -/
def call? : CacheEvent → Option TimedCall
  | call c _ => some c
  | tidy _ _ => none

end CacheEvent

/-- A cache of suspensions. -/
abbrev SuspensionCache := Cache CachedSuspension

namespace SuspensionCache

/-- The cache without suspensions. -/
def empty : SuspensionCache :=
  { expiry := ownTtl }

/-- Answers a call. -/
def answer (s : SuspensionCache) (c : TimedCall) (reuse : Bool) : StoreAnswer × SuspensionCache :=
  match c.call with
  | .set state ttl => (.done (.ok ()), s.insert c.time c.key ⟨state, ttl⟩ reuse)
  | .get =>
    let (found, s) := s.get c.time c.key
    (.found (.ok (found.map (·.state))), s)
  | .contains => (.contained (s.contains c.time c.key), s)
  | .delete => (.done (.ok ()), s.invalidate c.key)

/-- The answers to the calls among what happens, one after another. -/
def run (s : SuspensionCache) : List CacheEvent → List StoreAnswer
  | [] => []
  | .call c reuse :: es =>
    let (a, s) := s.answer c reuse
    a :: s.run es
  | .tidy time key :: es => run (s.tidy time key) es

end SuspensionCache

end Dialogue
