/-
The store of suspensions over time. What a sender has at some moment is what the last call to write or
delete under his key has left, as long as the lifetime of that call lasts (`run_calls`,
`standing_run_iff`); reading has no part in it (`run_changes`). The cache in which a process keeps its
suspensions gives the same answers to all calls, whenever it clears away what is over (`run_empty`).
-/
import Dialogue.Proofs.Suspension.Store
import Dialogue.Suspension.Cache
import Mathlib.Data.List.Induction

namespace Dialogue

/-! ## The last change -/

/-- The calls that write or delete under a key. -/
def changesUnder (key : String) (calls : List TimedCall) : List TimedCall :=
  calls.filter fun c => c.call.changes && c.key == key

theorem changesUnder_concat (key : String) (calls : List TimedCall) (c : TimedCall) :
    changesUnder key (calls ++ [c]) =
      if c.call.changes = true ∧ c.key = key then changesUnder key calls ++ [c]
      else changesUnder key calls := by
  unfold changesUnder
  rw [List.filter_append]
  by_cases h : c.call.changes = true ∧ c.key = key
  · rw [if_pos h, List.filter_cons_of_pos (by simpa using h), List.filter_nil]
  · rw [if_neg h, List.filter_cons_of_neg (by simpa using h), List.filter_nil, List.append_nil]

/-- A suspension stands under a key at a time: the last of the calls to write or delete there wrote it
for a lifetime that is not over. -/
def Stands (calls : List TimedCall) (key : String) (time : Nat) (st : Suspension) : Prop :=
  ∃ c ttl, (changesUnder key calls).getLast? = some c ∧ c.call = .set st ttl ∧ time < c.time + ttl

/-- The entry that a call leaves under its key. -/
def TimedCall.leaves (c : TimedCall) : Option StoreEntry :=
  match c.call with
  | .set st ttl => some ⟨st, c.time + ttl⟩
  | _ => none

namespace SuspensionStore

variable {s : SuspensionStore} {calls : List TimedCall} {x : Nat}

/-! ## One call -/

theorem now_waitUntil (h : s.now ≤ x) : (s.waitUntil x).now = x := by
  show s.now + (x - s.now) = x
  omega

theorem waitUntil_waitUntil {y : Nat} (h : x ≤ y) :
    (s.waitUntil x).waitUntil y = s.waitUntil y := by
  unfold waitUntil advance
  simp only [mk.injEq, true_and, and_true]
  omega

theorem Works.waitUntil (h : s.Works) (x : Nat) : (s.waitUntil x).Works :=
  ⟨h.readable, h.writable⟩

/-- What a call does to a store that works. -/
theorem answer_eq (h : s.Works) (c : TimedCall) : s.answer c =
    match c.call with
    | .set st ttl => (.done (.ok ()), (s.waitUntil c.time).put c.tenantId c.userId st ttl)
    | .get => (.found (.ok ((s.waitUntil c.time).peek c.tenantId c.userId)), s.waitUntil c.time)
    | .contains => (.contained ((s.waitUntil c.time).contains c.tenantId c.userId), s.waitUntil c.time)
    | .delete => (.done (.ok ()), (s.waitUntil c.time).drop c.tenantId c.userId) := by
  have hw := h.waitUntil c.time
  obtain ⟨time, t, u, call⟩ := c
  cases call with
  | set st ttl => simp only [answer, set_eq _ _ hw.writable]
  | get => simp only [answer, get_eq _ _ hw.readable]
  | contains => rfl
  | delete => simp only [answer, delete_eq _ _ hw.writable]

theorem Works.answer (h : s.Works) (c : TimedCall) : (s.answer c).2.Works := by
  rw [answer_eq h]
  split
  · exact (h.waitUntil _).put _ _ _ _
  · exact h.waitUntil _
  · exact h.waitUntil _
  · exact (h.waitUntil _).drop _ _

theorem now_answer (h : s.Works) {c : TimedCall} (hc : s.now ≤ c.time) :
    (s.answer c).2.now = c.time := by
  rw [answer_eq h]
  split <;> exact now_waitUntil hc

/-- Only the key of a call is changed, and only by a call to write or delete. -/
theorem entry_answer (h : s.Works) {c : TimedCall} (hc : s.now ≤ c.time) (key : String) :
    (s.answer c).2.entries.get? key =
      if c.call.changes = true ∧ c.key = key then c.leaves else s.entries.get? key := by
  rw [answer_eq h]
  unfold TimedCall.leaves TimedCall.key
  cases hcall : c.call with
  | set st ttl =>
    show (s.entries.insert _ ⟨st, (s.waitUntil c.time).now + ttl⟩).get? key = _
    rw [Table.get?_insert, now_waitUntil hc]
    simp [StoreCall.changes, eq_comm]
  | delete =>
    show (s.entries.erase _).get? key = _
    rw [Table.get?_erase]
    simp [StoreCall.changes, eq_comm]
  | get => rfl
  | contains => rfl

theorem answer_read {c : TimedCall} (hc : c.call.changes = false) :
    (s.answer c).2 = s.waitUntil c.time := by
  obtain ⟨time, t, u, call⟩ := c
  cases call with
  | get => rfl
  | contains => rfl
  | set st ttl => cases hc
  | delete => cases hc

theorem nodup_keys_answer (h : s.Works) (hs : s.entries.keys.Nodup) (c : TimedCall) :
    (s.answer c).2.entries.keys.Nodup := by
  rw [answer_eq h]
  split
  · exact Table.nodup_keys_insert hs _ _
  · exact hs
  · exact hs
  · exact Table.nodup_keys_erase hs _

/-! ## Many calls -/

theorem run_append (s : SuspensionStore) (calls calls' : List TimedCall) : s.run (calls ++ calls') =
    ((s.run calls).1 ++ ((s.run calls).2.run calls').1, ((s.run calls).2.run calls').2) := by
  induction calls generalizing s with
  | nil => rfl
  | cons c calls ih =>
    simp only [List.cons_append, run, ih]

theorem store_concat (s : SuspensionStore) (calls : List TimedCall) (c : TimedCall) :
    (s.run (calls ++ [c])).2 = ((s.run calls).2.answer c).2 := by
  rw [run_append]
  rfl

/-- In the order of their times: those of the calls, and a last one. -/
theorem inOrder_concat {c : TimedCall} :
    ((calls ++ [c]).map (·.time) ++ [x]).Pairwise (· ≤ ·) ↔
      (calls.map (·.time) ++ [c.time]).Pairwise (· ≤ ·) ∧ c.time ≤ x := by
  rw [List.map_append, List.map_singleton, List.pairwise_append]
  constructor
  · rintro ⟨h, -, hx⟩
    exact ⟨h, hx _ (by simp) _ (by simp)⟩
  · rintro ⟨h, hx⟩
    refine ⟨h, by simp, ?_⟩
    intro a ha b hb
    rw [List.mem_singleton.1 hb]
    rcases List.mem_append.1 ha with ha | ha
    · have := (List.pairwise_append.1 h).2.2 a ha c.time (by simp)
      omega
    · rw [List.mem_singleton.1 ha]
      exact hx

/-- What calls in order leave: a store that works, at the time of the last one, with one entry a key at
most, namely what the last change under the key has left. -/
theorem run_calls (h : (calls.map (·.time) ++ [x]).Pairwise (· ≤ ·)) :
    (({} : SuspensionStore).run calls).2.Works ∧
    (({} : SuspensionStore).run calls).2.now ≤ x ∧
    (({} : SuspensionStore).run calls).2.entries.keys.Nodup ∧
    ∀ key, (({} : SuspensionStore).run calls).2.entries.get? key =
      (changesUnder key calls).getLast?.bind (·.leaves) := by
  induction calls using List.reverseRecOn generalizing x with
  | nil => exact ⟨⟨rfl, rfl⟩, Nat.zero_le x, List.nodup_nil, fun key => rfl⟩
  | append_singleton calls c ih =>
    obtain ⟨hcalls, hx⟩ := inOrder_concat.1 h
    obtain ⟨hw, hnow, hkeys, hentry⟩ := ih hcalls
    rw [store_concat]
    refine ⟨hw.answer c, ?_, nodup_keys_answer hw hkeys c, ?_⟩
    · rw [now_answer hw hnow]
      exact hx
    · intro key
      rw [entry_answer hw hnow, hentry, changesUnder_concat]
      split
      · simp
      · rfl

/-- Calls to read leave no trace but the time at which they were made. -/
theorem run_changes (h : (calls.map (·.time) ++ [x]).Pairwise (· ≤ ·)) :
    (({} : SuspensionStore).run (calls.filter (·.call.changes))).2.waitUntil x =
      (({} : SuspensionStore).run calls).2.waitUntil x := by
  induction calls using List.reverseRecOn generalizing x with
  | nil => rfl
  | append_singleton calls c ih =>
    obtain ⟨hcalls, hx⟩ := inOrder_concat.1 h
    have hbefore := ih hcalls
    rw [store_concat, List.filter_append]
    by_cases hc : c.call.changes = true
    · rw [List.filter_cons_of_pos (by exact hc), List.filter_nil, store_concat]
      unfold answer
      rw [hbefore]
    · rw [List.filter_cons_of_neg (by exact hc), List.filter_nil, List.append_nil,
        answer_read (by simpa using hc), ← hbefore, waitUntil_waitUntil hx]

/-! ## What is found -/

/-- What is under a key at a time from now on, if nothing is written or deleted until then. -/
def standing (s : SuspensionStore) (time : Nat) (key : String) : Option Suspension :=
  ((s.entries.get? key).filter fun e => time < e.deadline).map (·.state)

theorem peek_waitUntil (h : s.now ≤ x) (t u : String) :
    (s.waitUntil x).peek t u = s.standing x (storeKey t u) := by
  have hentries : (s.waitUntil x).entries = s.entries := rfl
  unfold peek standing
  rw [now_waitUntil h, hentries]
  cases s.entries.get? (storeKey t u) with
  | none => rfl
  | some e => by_cases hx : x < e.deadline <;> simp [Option.filter, hx]

theorem standing_put (t u : String) (st : Suspension) (ttl : Nat) (key : String) :
    (s.put t u st ttl).standing x key =
      if key = storeKey t u then (if x < s.now + ttl then some st else none)
      else s.standing x key := by
  unfold standing put
  rw [Table.get?_insert]
  by_cases hk : key = storeKey t u
  · by_cases hx : x < s.now + ttl <;> simp [hk, Option.filter, hx]
  · simp only [if_neg hk]

theorem standing_drop (t u key : String) :
    (s.drop t u).standing x key = if key = storeKey t u then none else s.standing x key := by
  unfold standing drop
  rw [Table.get?_erase]
  by_cases hk : key = storeKey t u <;> simp [hk]

/-- What is over is over for good. -/
theorem standing_eq_none {y : Nat} {key : String} (h : s.standing x key = none) (hy : x ≤ y) :
    s.standing y key = none := by
  unfold standing at h ⊢
  rw [Option.map_eq_none_iff, Option.filter_eq_none_iff] at h ⊢
  intro e he hlt
  refine h e he ?_
  simp only [decide_eq_true_eq] at hlt ⊢
  omega

theorem standing_run_iff (h : (calls.map (·.time) ++ [x]).Pairwise (· ≤ ·)) {key : String}
    {st : Suspension} :
    (({} : SuspensionStore).run calls).2.standing x key = some st ↔ Stands calls key x st := by
  unfold standing Stands
  rw [(run_calls h).2.2.2 key, Option.map_eq_some_iff]
  constructor
  · rintro ⟨e, he, rfl⟩
    obtain ⟨hentry, hx⟩ := Option.filter_eq_some_iff.1 he
    obtain ⟨c, hc, hleaves⟩ := Option.bind_eq_some_iff.1 hentry
    unfold TimedCall.leaves at hleaves
    split at hleaves
    · rename_i st ttl hcall
      cases hleaves
      exact ⟨c, ttl, hc, hcall, by simpa using hx⟩
    · cases hleaves
  · rintro ⟨c, ttl, hc, hcall, hx⟩
    refine ⟨⟨st, c.time + ttl⟩, ?_, rfl⟩
    rw [hc, Option.bind_some, TimedCall.leaves, hcall]
    simp [Option.filter, hx]

theorem drop_of_absent {t u : String} (h : s.entries.get? (storeKey t u) = none) :
    s.drop t u = s := by
  have hkeep : s.entries.erase (storeKey t u) = s.entries := by
    refine List.filter_eq_self.2 fun p hp => ?_
    have hne : storeKey t u ≠ p.1 := bne_iff_ne.1 (List.lookup_eq_none_iff.1 h p hp)
    exact bne_iff_ne.2 (Ne.symm hne)
  unfold drop
  rw [hkeep]

end SuspensionStore

/-! ## The cache -/

namespace Cache

variable {α : Type} {c : Cache α} {now x : Nat} {key : String}

theorem live?_insert (value : α) (reuse : Bool) (k : String) :
    (c.insert now key value reuse).live? x k =
      if k = key then
        (some (.lasting value now (c.stay now key value reuse))).filter (·.isAlive x)
      else c.live? x k := by
  unfold live? insert
  rw [Table.get?_insert]
  split <;> rfl

theorem live?_invalidate (k : String) :
    (c.invalidate key).live? x k = if k = key then none else c.live? x k := by
  unfold live? invalidate
  rw [Table.get?_erase]
  split <;> rfl

/-- What is over is over for good. -/
theorem live?_eq_none (h : c.live? now key = none) (hx : now ≤ x) : c.live? x key = none := by
  unfold live? at h ⊢
  rw [Option.filter_eq_none_iff] at h ⊢
  intro e he halive
  refine h e he ?_
  unfold CacheEntry.isAlive at halive ⊢
  cases hd : e.deadline? with
  | none => rfl
  | some d =>
    rw [hd] at halive
    simp only [Option.all_some, decide_eq_true_eq] at halive ⊢
    omega

theorem live?_tidy (hx : now ≤ x) (k : String) : (c.tidy now key).live? x k = c.live? x k := by
  unfold tidy contains
  split
  · rfl
  · rename_i h
    rw [live?_invalidate]
    split
    · rename_i hk
      rw [hk, live?_eq_none (by simpa using h) hx]
    · rfl

end Cache

namespace SuspensionCache

open SuspensionStore

variable {c : SuspensionCache} {s : SuspensionStore} {now : Nat}

/-- The cache has what the store has, now and at any later time if nothing is written or deleted until
then. -/
structure Mirrors (now : Nat) (c : SuspensionCache) (s : SuspensionStore) : Prop where
  expiry : c.expiry = ownTtl
  entry : ∀ key x, now ≤ x → (c.live? x key).map (·.value.state) = s.standing x key

theorem Mirrors.later {now' : Nat} (h : Mirrors now c s) (hn : now ≤ now') : Mirrors now' c s :=
  ⟨h.expiry, fun key x hx => h.entry key x (by omega)⟩

/-- Both hooks give a suspension its own lifetime, so it does not matter which of them is called. -/
theorem stay_eq (h : c.expiry = ownTtl) (key : String) (value : CachedSuspension) (reuse : Bool) :
    c.stay now key value reuse = some value.ttl := by
  unfold Cache.stay
  rw [h]
  split <;> rfl

theorem Mirrors.insert (h : Mirrors now c s) (hs : s.now = now) (t u : String) (st : Suspension)
    (ttl : Nat) (reuse : Bool) :
    Mirrors now (c.insert now (storeKey t u) ⟨st, ttl⟩ reuse) (s.put t u st ttl) := by
  refine ⟨h.expiry, fun key x hx => ?_⟩
  rw [Cache.live?_insert, stay_eq h.expiry, standing_put, hs]
  split
  · by_cases hlt : x < now + ttl <;>
      simp [CacheEntry.lasting, CacheEntry.isAlive, Option.filter, hlt]
  · exact h.entry key x hx

theorem Mirrors.invalidate (h : Mirrors now c s) (t u : String) :
    Mirrors now (c.invalidate (storeKey t u)) (s.drop t u) := by
  refine ⟨h.expiry, fun key x hx => ?_⟩
  rw [Cache.live?_invalidate, standing_drop]
  split
  · rfl
  · exact h.entry key x hx

/-- Reading leaves an entry the time that it had. -/
theorem Mirrors.get (h : Mirrors now c s) (key : String) :
    (c.get now key).1.map (·.state) = s.standing now key ∧ Mirrors now (c.get now key).2 s := by
  rw [← h.entry key now (Nat.le_refl now)]
  unfold Cache.get
  cases he : c.live? now key with
  | none => exact ⟨rfl, h⟩
  | some e =>
    refine ⟨rfl, h.expiry, fun k x hx => ?_⟩
    rw [← h.entry k x hx]
    obtain ⟨hget, halive⟩ := Option.filter_eq_some_iff.1 he
    have hsame : CacheEntry.lasting e.value now (ownTtl.afterRead key e.value now (e.left now)) = e := by
      obtain ⟨value, d?⟩ := e
      cases d? with
      | none => rfl
      | some d =>
        have hlt : now < d := by simpa [CacheEntry.isAlive] using halive
        have hd : now + (d - now) = d := by omega
        simp [CacheEntry.lasting, CacheEntry.left, ownTtl, hd]
    unfold Cache.live?
    dsimp only
    rw [h.expiry, hsame, Table.get?_insert]
    split
    · rename_i hk
      rw [hk, hget]
    · rfl

theorem Mirrors.answer (h : Mirrors now c s) (hw : s.Works) {k : TimedCall} (hs : s.now ≤ k.time)
    (hn : now ≤ k.time) (reuse : Bool) : (c.answer k reuse).1 = (s.answer k).1 ∧
      Mirrors k.time (c.answer k reuse).2 (s.answer k).2 := by
  have hlater : Mirrors k.time c (s.waitUntil k.time) := ⟨h.expiry, (h.later hn).entry⟩
  have hnow := now_waitUntil hs
  rw [answer_eq hw]
  unfold SuspensionCache.answer TimedCall.key
  cases k.call with
  | set st ttl => exact ⟨rfl, hlater.insert hnow _ _ st ttl reuse⟩
  | get =>
    obtain ⟨hfound, hget⟩ := hlater.get (storeKey k.tenantId k.userId)
    refine ⟨?_, hget⟩
    rw [peek_waitUntil hs]
    exact congrArg (fun found => StoreAnswer.found (.ok found)) hfound
  | contains =>
    refine ⟨?_, hlater⟩
    have hentry := hlater.entry (storeKey k.tenantId k.userId) k.time (Nat.le_refl _)
    unfold Cache.contains SuspensionStore.contains
    rw [peek_waitUntil hs, ← Option.isSome_map, hentry]
    rfl
  | delete => exact ⟨rfl, hlater.invalidate _ _⟩

theorem Mirrors.run {events : List CacheEvent} (h : Mirrors now c s) (hw : s.Works) (hs : s.now ≤ now)
    (hsorted : (now :: events.map (·.time)).Pairwise (· ≤ ·)) :
    SuspensionCache.run c events = (s.run (events.filterMap (·.call?))).1 := by
  induction events generalizing now c s with
  | nil => rfl
  | cons e events ih =>
    obtain ⟨hall, hrest⟩ := List.pairwise_cons.1 hsorted
    have hn : now ≤ e.time := hall e.time (by simp)
    cases e with
    | call k reuse =>
      have hsk : s.now ≤ k.time := Nat.le_trans hs hn
      obtain ⟨ha, hnext⟩ := h.answer hw hsk hn reuse
      have hnow : (s.answer k).2.now ≤ k.time := Nat.le_of_eq (now_answer hw hsk)
      exact congrArg₂ List.cons ha (ih hnext (hw.answer k) hnow hrest)
    | tidy time key =>
      have hnext : Mirrors time (c.tidy time key) s := by
        refine ⟨?_, fun k x hx => ?_⟩
        · unfold Cache.tidy
          split <;> exact h.expiry
        · rw [Cache.live?_tidy hx]
          exact h.entry k x (Nat.le_trans hn hx)
      exact ih hnext hw (Nat.le_trans hs hn) hrest

/-- The cache answers calls as the store does, whatever it clears away in between and whichever of its
hooks it takes for an entry that is over. -/
theorem run_empty {events : List CacheEvent} (h : (events.map (·.time)).Pairwise (· ≤ ·)) :
    SuspensionCache.run .empty events =
      (({} : SuspensionStore).run (events.filterMap (·.call?))).1 := by
  have hmirrors : Mirrors 0 .empty {} := ⟨rfl, fun key x hx => rfl⟩
  refine hmirrors.run ⟨rfl, rfl⟩ (Nat.le_refl 0) ?_
  exact List.pairwise_cons.2 ⟨fun _ _ => Nat.zero_le _, h⟩

end SuspensionCache

namespace SuspensionStore

/-- The store as a timed map. After calls in the order of their times, and at a time after them, a sender
has the suspension that the last call to write or delete under his key has written there, if its
lifetime is not over, and nothing otherwise. Calls to read have no part in that. A suspension that is
written replaces what was there, and its lifetime, whichever of the two is longer; without a lifetime it
is over at once. Deleting what is not there changes nothing, and there is one entry a key. A cache with
these calls gives the same answers to all of them. -/
theorem timed_map {calls : List TimedCall} {x : Nat}
    (h : (calls.map (·.time) ++ [x]).Pairwise (· ≤ ·)) :
    let s := (({} : SuspensionStore).run calls).2.waitUntil x
    (∀ t u, ∃ found, s.get t u = .ok found ∧ s.contains t u = found.isSome ∧
      ∀ st, found = some st ↔ Stands calls (storeKey t u) x st) ∧
    (({} : SuspensionStore).run (calls.filter (·.call.changes))).2.waitUntil x = s ∧
    (∀ t u st ttl, ∃ s', s.set t u st ttl = (.ok (), s') ∧ ∀ t' u' y, x ≤ y →
      (s'.waitUntil y).get t' u' =
        if storeKey t' u' = storeKey t u then .ok (if y < x + ttl then some st else none)
        else (s.waitUntil y).get t' u') ∧
    (∀ t u st, (s.set t u st 0).2.get t u = .ok none) ∧
    (∀ t u, s.get t u = .ok none → ∃ s', s.delete t u = (.ok (), s') ∧ ∀ t' u' y, x ≤ y →
      (s'.waitUntil y).get t' u' = (s.waitUntil y).get t' u') ∧
    (∀ t u, s.entries.get? (storeKey t u) = none → s.delete t u = (.ok (), s)) ∧
    s.entries.keys.Nodup ∧
    ∀ events : List CacheEvent, (events.map (·.time)).Pairwise (· ≤ ·) →
      events.filterMap (·.call?) = calls →
        SuspensionCache.run .empty events = (({} : SuspensionStore).run calls).1 := by
  intro s
  obtain ⟨hrun, hlast, hkeys, -⟩ := run_calls h
  have hw : s.Works := hrun.waitUntil x
  have hnow : s.now = x := now_waitUntil hlast
  -- from here on a sender is asked for by his key
  have hget : ∀ (s : SuspensionStore), s.Works → ∀ t u y, s.now ≤ y →
      (s.waitUntil y).get t u = .ok (s.standing y (storeKey t u)) := by
    intro s hw t u y hy
    rw [get_eq _ _ (hw.waitUntil y).readable, peek_waitUntil hy]
  refine ⟨?_, run_changes h, ?_, ?_, ?_, ?_, hkeys, ?_⟩
  · intro t u
    refine ⟨_, hget _ hrun t u x hlast, ?_, fun st => standing_run_iff h⟩
    unfold SuspensionStore.contains
    rw [peek_waitUntil hlast]
  · intro t u st ttl
    refine ⟨_, set_eq t u hw.writable st ttl, fun t' u' y hy => ?_⟩
    rw [hget _ (hw.put t u st ttl) t' u' y (hnow ▸ hy), hget s hw t' u' y (hnow ▸ hy), standing_put,
      hnow]
    split <;> rfl
  · intro t u st
    rw [set_eq t u hw.writable, get_eq t u (hw.put t u st 0).readable]
    unfold peek put
    rw [Table.get?_insert, if_pos rfl]
    simp
  · intro t u hnone
    refine ⟨_, delete_eq t u hw.writable, fun t' u' y hy => ?_⟩
    have hstanding : s.standing x (storeKey t u) = none := by
      rw [hget _ hrun t u x hlast] at hnone
      exact Except.ok.inj hnone
    rw [hget _ (hw.drop t u) t' u' y (hnow ▸ hy), hget s hw t' u' y (hnow ▸ hy), standing_drop]
    split
    · rename_i hk
      rw [hk, standing_eq_none hstanding hy]
    · rfl
  · intro t u hnone
    rw [delete_eq t u hw.writable, drop_of_absent hnone]
  · rintro events hsorted rfl
    exact SuspensionCache.run_empty hsorted

/-- A suspension of an hour that is replaced by a shorter one, with readings in between. -/
def replaced : List TimedCall :=
  [⟨0, "t1", "u1", .set ⟨"survey", "w", "t1", "u1", .epoch⟩ 3600⟩, ⟨10, "t1", "u1", .get⟩,
    ⟨20, "t1", "u1", .set ⟨"poll", "v", "t1", "u1", .epoch⟩ 5⟩, ⟨22, "t1", "u1", .contains⟩]

theorem replaced_timed :
    (replaced.map TimedCall.time ++ [24]).Pairwise (· ≤ ·) ∧
      (replaced.map TimedCall.time ++ [25]).Pairwise (· ≤ ·) ∧
      ((({} : SuspensionStore).run replaced).2.waitUntil 24).get "t1" "u1" =
        .ok (some ⟨"poll", "v", "t1", "u1", .epoch⟩) ∧
      ((({} : SuspensionStore).run replaced).2.waitUntil 25).get "t1" "u1" = .ok none := by
  have h24 : (replaced.map TimedCall.time ++ [24]).Pairwise (· ≤ ·) := by decide
  have h25 : (replaced.map TimedCall.time ++ [25]).Pairwise (· ≤ ·) := by decide
  have hlast : (changesUnder (storeKey "t1" "u1") replaced).getLast? =
      some ⟨20, "t1", "u1", .set ⟨"poll", "v", "t1", "u1", .epoch⟩ 5⟩ := by decide
  refine ⟨h24, h25, ?_, ?_⟩
  · obtain ⟨found, hfound, -, hiff⟩ := (timed_map h24).1 "t1" "u1"
    rw [hfound, (hiff _).2 ⟨_, 5, hlast, rfl, by decide⟩]
  · obtain ⟨found, hfound, -, hiff⟩ := (timed_map h25).1 "t1" "u1"
    cases found with
    | none => exact hfound
    | some st =>
      obtain ⟨c, ttl, hc, hcall, hlt⟩ := (hiff st).1 rfl
      cases hlast.symm.trans hc
      cases hcall
      exact absurd hlt (by decide)

end SuspensionStore

end Dialogue
