/-
Messages that are answered at the same time, and the same messages one after another. The order is
that in which they get their locks: what a message finds under its sender's key when it gets its lock
is what the messages before it in this order have left there, and while it has the lock nobody else
touches it (`Account.move`). So every message is answered as in that order (`serializable`).

So also what was there for a sender goes from message to message, in the order in which they get their
locks.
-/
import Dialogue.Proofs.Routing.Locks
import Dialogue.Proofs.Routing.Relay

namespace Dialogue

open Program

/-! ## What is left of a message -/

/-- What is left to do for a message will come to an exchange, and to a store that has under the
sender's key what a given one has. -/
structure Ahead (v : Visit) (rest : Program (Option Report)) (w : World) (x : Exchange)
    (last : SuspensionStore) : Prop where
  asks : rest.Asks (Request.Own v.context)
  report : (rest.run v.partners w).1 = x.report
  log : (rest.run v.partners w).2.log = x.log
  store : (rest.run v.partners w).2.store.AgreeAt v.key last

namespace Ahead

variable {v : Visit} {rest : Program (Option Report)} {w : World} {x : Exchange}
  {last last' s s' : SuspensionStore}

/-- A message that begins where the store has under its sender's key what it would find one after
another. -/
theorem begin (r : Registry) (h : s.AgreeAt v.key s') :
    Ahead v (r.process v.context) { store := s } (v.process r s').1 (v.process r s').2 := by
  obtain ⟨hx, hs⟩ := v.process_agree r h
  exact ⟨process_asks r v.context, congrArg Exchange.report hx, congrArg Exchange.log hx, hs⟩

/-- The message takes a step. -/
theorem step {r : Request} {next : r.Answer → Program (Option Report)}
    (h : Ahead v (.ask r next) w x last) :
    Ahead v (next (w.answer v.partners r).1) (w.answer v.partners r).2 x last :=
  ⟨h.asks.2 _, h.report, h.log, h.store⟩

/-- Others take a step, which is of no account to the sender's key. -/
theorem aside {log : Log} (h : Ahead v rest ⟨s, log⟩ x last) (hs : s.AgreeAt v.key s') :
    Ahead v rest ⟨s', log⟩ x last := by
  obtain ⟨hrep, hlog, hst⟩ := run_agree (p := v.partners) h.asks (s := ⟨s, log⟩) (t := ⟨s', log⟩) rfl hs
  exact ⟨h.asks, hrep.symm.trans h.report, hlog.symm.trans h.log, hst.symm.trans h.store⟩

theorem later (h : Ahead v rest w x last) (hl : last.AgreeAt v.key last') :
    Ahead v rest w x last' :=
  ⟨h.asks, h.report, h.log, h.store.trans hl⟩

end Ahead

/-! ## The account of a run -/

/-- Whether the message has got its lock. -/
def Stage.begun : Stage → Bool
  | .pending | .waiting _ => false
  | .running _ _ _ | .released _ _ | .leaving _ _ | .answered _ => true

namespace Traffic

variable {n : Nat} {d : Desk} {visits : Fin n → Visit} {t t' : Traffic n} {i : Fin n}

/-- How far messages that are answered at the same time have come, by an account of those that got
their locks so far, in that order, with what will have come of them. -/
structure Account (d : Desk) (visits : Fin n → Visit) (t : Traffic n)
    (account : List (Fin n × Exchange)) : Prop where
  registry : t.registry = d.registry
  attended : t.visits = visits
  /-- One after another the same comes of the messages. -/
  exchanges : (d.serve (account.map fun p => visits p.1)).1 = account.map (·.2)
  nodup : (account.map (·.1)).Nodup
  begun : ∀ i, i ∈ account.map (·.1) ↔ (t.stage i).begun = true
  result : ∀ i x, (t.stage i).result? = some x → (i, x) ∈ account
  running : ∀ i l rest log, t.stage i = .running l rest log → ∃ x, (i, x) ∈ account ∧
    Ahead (visits i) rest ⟨t.store, log⟩ x (d.serve (account.map fun p => visits p.1)).2.store
  /-- Where no message is being routed the store is what the messages of the account leave. -/
  idle : ∀ key, (∀ i l, (t.stage i).held? = some l → (visits i).key ≠ key) →
    t.store.AgreeAt key (d.serve (account.map fun p => visits p.1)).2.store

namespace Account

variable {account : List (Fin n × Exchange)}

theorem start (d : Desk) (visits : Fin n → Visit) : Account d visits (Traffic.start d visits) [] where
  registry := rfl
  attended := rfl
  exchanges := rfl
  nodup := .nil
  begun _ := ⟨nofun, nofun⟩
  result := nofun
  running := nofun
  idle key _ := .refl key _

/-- A message comes to another stage, and the store is another. It is the same account if the message
will come to what the account says, if the store is the same to those that are being routed, and if
apart from their keys it is what the messages of the account leave. -/
theorem enter {g : Stage} {s : SuspensionStore} (h : Account d visits t account)
    (hb : g.begun = (t.stage i).begun) (hr : ∀ x, g.result? = some x → (i, x) ∈ account)
    (hrun : ∀ l rest log, g = .running l rest log → ∃ x, (i, x) ∈ account ∧
      Ahead (visits i) rest ⟨s, log⟩ x (d.serve (account.map fun p => visits p.1)).2.store)
    (hs : ∀ j l, j ≠ i → (t.stage j).held? = some l → t.store.AgreeAt (visits j).key s)
    (hidle : ∀ key, (∀ j l, ((t.enter i g).stage j).held? = some l → (visits j).key ≠ key) →
      s.AgreeAt key (d.serve (account.map fun p => visits p.1)).2.store) :
    Account d visits ({ t with store := s }.enter i g) account := by
  refine ⟨h.registry, h.attended, h.exchanges, h.nodup, fun j => ?_, fun j x hx => ?_,
    fun j l rest log hj => ?_, hidle⟩
  · rw [h.begun j]
    by_cases hji : j = i
    · rw [hji, enter_self, hb]
    · rw [enter_ne hji]
  · by_cases hji : j = i
    · rw [hji, enter_self] at hx
      rw [hji]
      exact hr x hx
    · rw [enter_ne hji] at hx
      exact h.result j x hx
  · by_cases hji : j = i
    · rw [hji, enter_self] at hj
      rw [hji]
      exact hrun l rest log hj
    · rw [enter_ne hji] at hj
      obtain ⟨x, hx, hahead⟩ := h.running j l rest log hj
      exact ⟨x, hx, hahead.aside (hs j l hji (by rw [show t.stage j = _ from hj]; rfl))⟩

/-- A message comes to a stage that is of no account: it does not get its lock, and has not had it. -/
theorem enter_idle {g : Stage} (h : Account d visits t account) (hg : g.held? = none)
    (hs : (t.stage i).held? = none) (hb : g.begun = (t.stage i).begun)
    (hr : g.result? = (t.stage i).result?) : Account d visits (t.enter i g) account := by
  refine h.enter (s := t.store) hb (fun x hx => h.result i x (by rw [← hr]; exact hx))
    (fun l rest log hrun => ?_) (fun j l _ _ => .refl _ _) fun key hk => h.idle key fun j l hj => ?_
  · rw [hrun] at hg
    cases hg
  · have hji : j ≠ i := by
      rintro rfl
      rw [hs] at hj
      cases hj
    exact hk j l (by rw [enter_ne hji]; exact hj)

/-- A message gets its lock, while no other message of its sender is being routed: it is next in the
account. -/
theorem lock (h : Account d visits t account) {l : Nat} (hs : (t.stage i).begun = false)
    (hfree : ∀ j l, (t.stage j).held? = some l → (visits j).key ≠ (visits i).key) :
    ∃ x, Account d visits
      (t.enter i (.running l (t.registry.process (t.visits i).context) {})) (account ++ [(i, x)]) := by
  have hagree := h.idle (visits i).key hfree
  have hlast := d.serve_concat (account.map fun p => visits p.1) (visits i)
  have hmap : ∀ x : Exchange, (account ++ [(i, x)]).map (fun p => visits p.1) =
      account.map (fun p => visits p.1) ++ [visits i] := fun x => List.map_append
  generalize hS : (d.serve (account.map fun p => visits p.1)).2.store = S at hagree hlast
  have hnew : ∀ x : Exchange, (d.serve ((account ++ [(i, x)]).map fun p => visits p.1)).2.store =
      ((visits i).process d.registry S).2 := by
    intro x
    rw [hmap, hlast]
  have hframe : ∀ key, key ≠ (visits i).key → S.AgreeAt key ((visits i).process d.registry S).2 :=
    fun key hk => (visits i).process_frame d.registry hk S
  have hi : i ∉ account.map (·.1) := by
    rw [h.begun i, hs]
    exact Bool.false_ne_true
  refine ⟨((visits i).process d.registry S).1, h.registry, h.attended, ?_, ?_, fun j => ?_,
    fun j x hx => ?_, fun j l' rest log hj => ?_, fun key hk => ?_⟩
  · rw [hmap, hlast, h.exchanges, List.map_append]
    rfl
  · rw [List.map_append, List.nodup_append]
    refine ⟨h.nodup, List.nodup_singleton _, fun j hj k hk => ?_⟩
    cases List.mem_singleton.1 hk
    rintro rfl
    exact hi hj
  · rw [List.map_append, List.mem_append, h.begun j]
    by_cases hji : j = i
    · rw [hji, enter_self]
      exact ⟨fun _ => rfl, fun _ => .inr (List.mem_singleton_self _)⟩
    · rw [enter_ne hji]
      exact ⟨fun hj => hj.elim id fun hj => absurd (List.mem_singleton.1 hj) hji, .inl⟩
  · by_cases hji : j = i
    · rw [hji, enter_self] at hx
      cases hx
    · rw [enter_ne hji] at hx
      exact List.mem_append_left _ (h.result j x hx)
  · rw [hnew]
    by_cases hji : j = i
    · rw [hji, enter_self] at hj
      cases hj
      refine ⟨_, by rw [hji]; exact List.mem_append_right _ (List.mem_singleton_self _), ?_⟩
      rw [hji, h.registry, h.attended]
      exact Ahead.begin d.registry hagree
    · rw [enter_ne hji] at hj
      obtain ⟨x, hx, hahead⟩ := h.running j l' rest log hj
      rw [hS] at hahead
      have hkey : (visits j).key ≠ (visits i).key := hfree j l' (by rw [hj]; rfl)
      exact ⟨x, List.mem_append_left _ hx, hahead.later (hframe _ hkey)⟩
  · rw [hnew]
    have hki : key ≠ (visits i).key := (hk i l (by rw [enter_self]; rfl)).symm
    have hidle : t.store.AgreeAt key S := by
      rw [← hS]
      refine h.idle key fun j l' hj => hk j l' ?_
      have hji : j ≠ i := by
        rintro rfl
        obtain ⟨rest, log, hg⟩ := Stage.running_of_held? hj
        rw [hg] at hs
        cases hs
      rw [enter_ne hji]
      exact hj
    exact hidle.trans (hframe key hki)

/-- A message that has its lock takes a step, while no other message of its sender is being routed. -/
theorem ask (h : Account d visits t account) {l : Nat} {r : Request}
    {next : r.Answer → Program (Option Report)} {log : Log} {a : r.Answer} {w : World}
    (hs : t.stage i = .running l (.ask r next) log)
    (ha : World.answer (t.visits i).partners ⟨t.store, log⟩ r = (a, w))
    (hfree : ∀ j l, j ≠ i → (t.stage j).held? = some l → (visits j).key ≠ (visits i).key) :
    Account d visits ({ t with store := w.store }.enter i (.running l (next a) w.log)) account := by
  obtain ⟨x, hx, hahead⟩ := h.running i l _ log hs
  rw [h.attended] at ha
  have hstep := hahead.step
  rw [ha] at hstep
  have hframe : ∀ key, key ≠ (visits i).key → t.store.AgreeAt key w.store := by
    intro key hk
    have hstore := World.answer_frame (p := (visits i).partners) hahead.asks.1 hk ⟨t.store, log⟩
    rw [ha] at hstore
    exact hstore
  refine h.enter (by rw [hs]; rfl) (fun y hy => nomatch hy) (fun l' rest log' hg => ?_)
    (fun j l' hji hj => hframe _ (hfree j l' hji hj)) fun key hk => ?_
  · cases hg
    exact ⟨x, hx, hstep⟩
  · have hki : key ≠ (visits i).key := (hk i l (by rw [enter_self]; rfl)).symm
    refine (hframe key hki).symm.trans (h.idle key fun j l' hj => ?_)
    by_cases hji : j = i
    · rw [hji]
      exact hki.symm
    · exact hk j l' (by rw [enter_ne hji]; exact hj)

/-- A message is done, and gives its lock back. -/
theorem finish (h : Account d visits t account) {l : Nat} {report : Option Report} {log : Log}
    (hs : t.stage i = .running l (.done report) log) :
    Account d visits (t.enter i (.released l ⟨report, log⟩)) account := by
  obtain ⟨x, hx, hahead⟩ := h.running i l _ log hs
  have hresult : x = ⟨report, log⟩ := by
    obtain ⟨report', log'⟩ := x
    cases hahead.report
    cases hahead.log
    rfl
  have hstore : t.store.AgreeAt (visits i).key
      (d.serve (account.map fun p => visits p.1)).2.store := hahead.store
  refine h.enter (s := t.store) (by rw [hs]; rfl) (fun y hy => ?_) (fun l' rest log' hg => nomatch hg)
    (fun j l _ _ => .refl _ _) fun key hk => ?_
  · cases hy
    rw [← hresult]
    exact hx
  · by_cases hki : key = (visits i).key
    · rw [hki]
      exact hstore
    · refine h.idle key fun j l' hj => ?_
      by_cases hji : j = i
      · rw [hji]
        exact Ne.symm hki
      · exact hk j l' (by rw [enter_ne hji]; exact hj)

/-- Every step leads to a state of which there is an account. -/
theorem move (hg : t.Guarded) (h : Account d visits t account) (hmove : Move i t t') :
    ∃ account', Account d visits t' account' := by
  cases hmove with
  | found hs _ => exact ⟨account, h.enter_idle rfl (by rw [hs]; rfl) (by rw [hs]; rfl) (by rw [hs]; rfl)⟩
  | made hs _ =>
    have hmade : Account d visits { t with
        locks := t.locks.insert (t.key i) t.made, made := t.made + 1 } account :=
      ⟨h.registry, h.attended, h.exchanges, h.nodup, h.begun, h.result, h.running, h.idle⟩
    refine ⟨account, hmade.enter_idle rfl ?_ ?_ ?_⟩ <;> exact (by rw [hs]; rfl)
  | locked hs hheld =>
    obtain ⟨x, hx⟩ := h.lock (by rw [hs]; rfl) fun j l hj hk => by
      have hkey : t.key j = t.key i := by
        unfold key
        rw [h.attended]
        exact hk
      cases hheld.symm.trans (hg.isHeld_of_key hs hj hkey)
    exact ⟨_, hx⟩
  | asked hs ha =>
    refine ⟨account, h.ask hs ha fun j l hji hj hk => hji ?_⟩
    refine hg.alone hj (by rw [hs]; rfl) ?_
    unfold key
    rw [h.attended]
    exact hk
  | done hs => exact ⟨account, h.finish hs⟩
  | kept hs => exact ⟨account, h.enter_idle rfl (by rw [hs]; rfl) (by rw [hs]; rfl) (by rw [hs]; rfl)⟩
  | tidied hs _ _ =>
    have htidied : Account d visits { t with locks := t.locks.erase (t.key i) } account :=
      ⟨h.registry, h.attended, h.exchanges, h.nodup, h.begun, h.result, h.running, h.idle⟩
    refine ⟨account, htidied.enter_idle rfl ?_ ?_ ?_⟩ <;> exact (by rw [hs]; rfl)
  | left hs => exact ⟨account, h.enter_idle rfl (by rw [hs]; rfl) (by rw [hs]; rfl) (by rw [hs]; rfl)⟩

/-- Of every state that messages come to there is an account. -/
theorem run {schedule : List (Fin n)} (h : (Traffic.start d visits).run schedule = some t) :
    ∃ account, Account d visits t account := by
  have hboth : t.Guarded ∧ ∃ account, Account d visits t account := by
    refine run_induction (P := fun t => t.Guarded ∧ ∃ account, Account d visits t account)
      (fun hmove ht => ?_) ⟨.start d visits, [], .start d visits⟩ h
    obtain ⟨hg, account, ha⟩ := ht
    exact ⟨hg.move hmove, ha.move hg hmove⟩
  exact hboth.2

end Account

/-! ## All messages answered -/

theorem exchange_of_finished (h : t.finished = true) (i : Fin n) :
    ∃ x, t.stage i = .answered x ∧ t.exchange? i = some x := by
  have hi := List.all_eq_true.1 h i (List.mem_finRange i)
  unfold exchange? at hi ⊢
  cases hs : t.stage i with
  | answered x => exact ⟨x, rfl, rfl⟩
  | pending => rw [hs] at hi; cases hi
  | waiting l => rw [hs] at hi; cases hi
  | running l rest log => rw [hs] at hi; cases hi
  | released l x => rw [hs] at hi; cases hi
  | leaving l x => rw [hs] at hi; cases hi

/-- The order of an account of messages that were all answered. -/
theorem Account.finished {account : List (Fin n × Exchange)} (h : Account d visits t account)
    (hf : t.finished = true) {x : Fin n → Exchange} (hx : ∀ i, t.exchange? i = some (x i)) :
    (account.map (·.1)).Perm (List.finRange n) ∧
      (d.serve ((account.map (·.1)).map visits)).1 = (account.map (·.1)).map x ∧
      ∀ key, t.store.AgreeAt key (d.serve ((account.map (·.1)).map visits)).2.store := by
  have hanswered : ∀ i, t.stage i = .answered (x i) := by
    intro i
    obtain ⟨y, hs, hy⟩ := exchange_of_finished hf i
    cases (hx i).symm.trans hy
    exact hs
  have hsnd : account.map (·.2) = (account.map (·.1)).map x := by
    rw [List.map_map]
    refine List.map_congr_left fun p hp => ?_
    -- a message stands in the account once, with the exchange that it came to
    have hmem : (p.1, x p.1) ∈ account := h.result p.1 (x p.1) (by rw [hanswered]; rfl)
    exact congrArg Prod.snd (List.inj_on_of_nodup_map h.nodup hp hmem rfl)
  have hvisits : (account.map (·.1)).map visits = account.map fun p => visits p.1 := List.map_map
  rw [hvisits, ← hsnd]
  refine ⟨?_, h.exchanges, fun key => h.idle key fun i l hl => ?_⟩
  · refine (List.perm_ext_iff_of_nodup h.nodup (List.nodup_finRange n)).2 fun i => ?_
    rw [h.begun i, hanswered]
    exact ⟨fun _ => List.mem_finRange i, fun _ => rfl⟩
  · rw [hanswered] at hl
    cases hl

/-- Messages that are answered at the same time are answered as one after another. However their steps
are interleaved: once all are answered there is an order of them in which, if each is answered in full
before the next one is taken, the same comes of every message, and the store comes to have the same
under every key. In a store that works, the suspension of a sender goes from message to message in
this order. So if one was there that all messages of the sender can take up, and none of them leaves
another, then exactly one of them is resumed. -/
theorem serializable {schedule : List (Fin n)}
    (hrun : (Traffic.start d visits).run schedule = some t) (hf : t.finished = true) :
    ∃ (order : List (Fin n)) (x : Fin n → Exchange), order.Perm (List.finRange n) ∧
      (∀ i, t.exchange? i = some (x i)) ∧
      (d.serve (order.map visits)).1 = order.map x ∧
      (∀ key, t.store.AgreeAt key (d.serve (order.map visits)).2.store) ∧
      (d.store.Works → (∀ i, 0 < (visits i).context.config.suspensionTtl) → ∀ tenant user,
        Relay d.registry (d.store.peek tenant user)
          ((order.filter fun i => (visits i).key == storeKey tenant user).map
            fun i => (visits i, x i)) (t.store.peek tenant user) ∧
        ∀ st, d.store.peek tenant user = some st →
          (∃ i, (visits i).key = storeKey tenant user) →
          (∀ i, (visits i).key = storeKey tenant user →
            d.registry.Resumes (visits i).context.message.tenantId st ∧
              (visits i).left (x i) = none) →
          ∃! i, (visits i).key = storeKey tenant user ∧ (x i).Resumed) := by
  obtain ⟨account, h⟩ := Account.run hrun
  have hexchanges : ∀ i, ∃ x, t.exchange? i = some x := fun i =>
    (exchange_of_finished hf i).imp fun _ hx => hx.2
  choose x hx using hexchanges
  obtain ⟨hperm, hserve, hstore⟩ := h.finished hf hx
  generalize account.map (·.1) = order at hperm hserve hstore
  refine ⟨order, x, hperm, hx, hserve, hstore, fun hw hv tenant user => ?_⟩
  have hrelay : Relay d.registry (d.store.peek tenant user)
      ((order.filter fun i => (visits i).key == storeKey tenant user).map
        fun i => (visits i, x i)) (t.store.peek tenant user) := by
    have hpositive : ∀ v ∈ order.map visits, 0 < v.context.config.suspensionTtl :=
      List.forall_mem_map.2 fun i _ => hv i
    have hdesk := Desk.serve_relay hw hpositive tenant user
    rw [hserve, List.zip_map', List.filter_map] at hdesk
    rw [(hstore (storeKey tenant user)).peek_eq]
    exact hdesk
  refine ⟨hrelay, fun st hst hsome hall => ?_⟩
  have hmem : ∀ i, i ∈ order.filter (fun i => (visits i).key == storeKey tenant user) ↔
      (visits i).key = storeKey tenant user := by
    intro i
    rw [List.mem_filter, beq_iff_eq]
    exact and_iff_right (hperm.mem_iff.2 (List.mem_finRange i))
  generalize order.filter (fun i => (visits i).key == storeKey tenant user) = turns at hrelay hmem
  rw [hst] at hrelay
  cases turns with
  | nil =>
    obtain ⟨i, hi⟩ := hsome
    cases (hmem i).2 hi
  | cons i turns =>
    have hi := (hmem i).1 (List.mem_cons_self ..)
    have hleft : ∀ q ∈ (i :: turns).map fun i => (visits i, x i), q.1.left q.2 = none :=
      List.forall_mem_map.2 fun j hj => (hall j ((hmem j).1 hj)).2
    obtain ⟨hfirst, hothers⟩ := hrelay.once (hall i hi).1 hleft
    refine ⟨i, ⟨hi, hfirst⟩, fun j hj => ?_⟩
    rcases List.mem_cons.1 ((hmem j).2 hj.1) with rfl | hjt
    · rfl
    · exact absurd hj.2 (hothers _ (List.mem_map_of_mem hjt))

/-- The sender who is parked at `w` answers twice at the same time. -/
def twoAnswers : Fin 2 → Visit :=
  fun _ => ⟨{ sayGo with message := ⟨"hello", ⟨"u1", []⟩, "t1", none⟩ }, attentive⟩

/-- The first one gets the lock, and the second one gets it before the first one has seen to the table.
One of the two goes on in `survey`. -/
theorem twoAnswers_serializable : ∃ t : Traffic 2,
    (Traffic.start ⟨surveys, parkedAtW.store⟩ twoAnswers).run
      [1, 0, 0, 0, 0, 0, 0, 0, 1, 1, 0, 0, 1, 1, 1] = some t ∧ t.finished = true ∧
    parkedAtW.store.Works ∧ (∀ i, 0 < (twoAnswers i).context.config.suspensionTtl) ∧
    ∃ (order : List (Fin 2)) (x : Fin 2 → Exchange),
      order.Perm (List.finRange 2) ∧ (∀ i, t.exchange? i = some (x i)) ∧
      ((⟨surveys, parkedAtW.store⟩ : Desk).serve (order.map twoAnswers)).1 = order.map x ∧
      ∃! i, (twoAnswers i).key = storeKey "t1" "u1" ∧ (x i).Resumed := by
  have hrun : ((Traffic.start ⟨surveys, parkedAtW.store⟩ twoAnswers).run
      [1, 0, 0, 0, 0, 0, 0, 0, 1, 1, 0, 0, 1, 1, 1]).any (fun t => t.finished &&
        (List.finRange 2).all fun i => (t.exchange? i).all fun x =>
          ((twoAnswers i).left x).isNone) = true := by cbv
  obtain ⟨t, hsome, ht⟩ := (Option.any_eq_true _ _).1 hrun
  obtain ⟨hf, hnone⟩ := Bool.and_eq_true_iff.1 ht
  have hw : parkedAtW.store.Works := ⟨rfl, rfl⟩
  have httl : 0 < sayGo.config.suspensionTtl := by decide
  have hv : ∀ i, 0 < (twoAnswers i).context.config.suspensionTtl := fun _ => httl
  obtain ⟨order, x, hperm, hx, hserve, -, hrelay⟩ := serializable hsome hf
  refine ⟨t, hsome, hf, hw, hv, order, x, hperm, hx, hserve, ?_⟩
  refine (hrelay hw hv "t1" "u1").2 ⟨"survey", "w", "t1", "u1", .epoch⟩ (by cbv) ⟨0, rfl⟩
    fun i _ => ⟨⟨survey, .waitForInput "w", ⟨by cbv, rfl, rfl⟩, rfl, by cbv⟩, ?_⟩
  have hi := List.all_eq_true.1 hnone i (List.mem_finRange i)
  rw [hx i] at hi
  simpa using hi

end Traffic

end Dialogue
