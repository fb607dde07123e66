/-
The use of suspensions over whole runs. A run that is resumed goes on behind the suspension that the
last message before it under its key left behind, out of those that left one, and every suspension is
gone on behind once at most (`suspensions_used_once`).

The invariant says of each suspension in the store where it comes from: some message under its key
left it behind, and since then no message under the key left one behind or was resumed (`Pending`).
-/
import Dialogue.Proofs.Routing.Noninterference

namespace Dialogue

open Program

section

variable {f : Flow} {flows : List Flow} {c : RunContext} {p : Partners} {s s' : World}

/-! ## One message in one flow -/

/-- A run that is resumed goes on behind the sender's suspension, from the edges kept at its node. -/
theorem receive_resumed (hw : s.store.Works) {rep : Report}
    (h : (f.receive c).run p s = (rep, s')) (hres : rep.resumed = true) :
    ∃ st n kept js r s₁, s.entry c = some st ∧ st.flowId = f.id ∧
      f.node? st.currentNodeId = some n ∧ Turn f c p s true n kept js r s₁ ∧
      rep = r.2.report f true r.1 := by
  rcases receive_cases f c p s with ⟨s₁, -, -, hrun⟩ | ⟨resumed, n, kept, js, r, s₁, ht, hrun⟩
  · cases hrun.symm.trans h
    cases hres
  · cases hrun.symm.trans h
    cases hres
    obtain ⟨s₂, hr⟩ : ∃ s₂, (f.resumption c).run p s = (some n, s₂) := by
      cases ht with
      | resumed hr _ _ => exact ⟨_, hr⟩
    have hsome : ((f.resumption c).run p s).1.isSome = true := by rw [hr]; rfl
    obtain ⟨st, m, he, hid, hm⟩ := resumption_isSome hw hsome
    rw [resumption_live hw he hid.symm hm] at hr
    cases hr
    exact ⟨st, n, kept, js, r, s₁, he, hid, hm, ht, rfl⟩

/-! ## One message among all flows -/

/-- The suspension that is there after a message is the one that its report tells of. -/
theorem route_left (hw : s.store.Works) {ans : Option Report}
    (h : (route flows c).run p s = (ans, s')) {st : Suspension} (he : s'.entry c = some st) :
    ans.bind (·.parking c) = some st := by
  obtain ⟨s₁, hw₁, ⟨hrun, hnone⟩ | ⟨f, -, rep, s₂, hr, hrun, hs₁⟩⟩ :=
    route_settles flows (c := c) (p := p) hw
  · cases hrun.symm.trans h
    cases he.symm.trans hnone
  · cases hrun.symm.trans h
    rcases receive_left hw₁ hr he with hp | ⟨-, hst, hother⟩
    · exact hp
    · rcases hs₁ with hnone | ⟨rfl, st', he', hid⟩
      · cases hst.symm.trans hnone
      · cases hst.symm.trans he'
        exact absurd hid hother

/-- A run that is resumed by routing goes on behind the suspension that the sender came with. -/
theorem route_took (hw : s.store.Works) {rep : Report}
    (h : (route flows c).run p s = (some rep, s')) (hres : rep.resumed = true) :
    ∃ f ∈ flows, ∃ st n kept js r s₁, s.entry c = some st ∧ st.flowId = f.id ∧
      f.node? st.currentNodeId = some n ∧ Turn f c p s true n kept js r s₁ ∧
      rep = r.2.report f true r.1 := by
  obtain ⟨s₁, hw₁, ⟨hrun, -⟩ | ⟨f, hf, rep', s₂, hr, hrun, hs₁⟩⟩ :=
    route_settles flows (c := c) (p := p) hw
  · cases hrun.symm.trans h
  · cases hrun.symm.trans h
    obtain ⟨st, n, kept, js, r, s₃, he, hrest⟩ := receive_resumed hw₁ hr hres
    rcases hs₁ with hnone | ⟨rfl, -⟩
    · cases he.symm.trans hnone
    · exact ⟨f, hf, st, n, kept, js, r, s₃, he, hrest⟩

end

namespace Desk

/-! ## The moments of a run -/

/-- An event at a desk. -/
structure Moment where
  desk : Desk
  event : Event

/-- The moments of a run. -/
def moments (d : Desk) : List Event → List Moment
  | [] => []
  | e :: es => ⟨d, e⟩ :: (d.handle e).2.moments es

namespace Moment

/-- What comes of the event. -/
def exchange (m : Moment) : Exchange :=
  (m.desk.handle m.event).1

/-- The key of the sender, if the event is a message. -/
def key? (m : Moment) : Option String :=
  m.event.visit?.map (·.key)

/-- The suspension that the event leaves behind, as the report tells: in the flow that engaged, at the
node of the last record of a suspension. -/
def left (m : Moment) : Option Suspension :=
  m.event.visit?.bind (·.left m.exchange)

/-- Whether a parked run is resumed. -/
def resumed (m : Moment) : Bool :=
  m.exchange.report.any (·.resumed)

/-- The event is a message that this flow is given, or one that may go to it. -/
def Offers (m : Moment) (v : Visit) (f : Flow) : Prop :=
  m.event = .execute f v ∨
    m.event = .message v ∧ m.desk.registry.Serves v.context.message.tenantId f

/-- The report is that of a run behind the sender's suspension: in the flow it is in, from the edges
kept at its node. -/
def GoesOnBehind (m : Moment) (st : Suspension) : Prop :=
  ∃ v f n kept js r s', m.Offers v f ∧ v.entry m.desk.store = some st ∧ st.flowId = f.id ∧
    f.node? st.currentNodeId = some n ∧
    Turn f v.context v.partners { store := m.desk.store } true n kept js r s' ∧
    m.exchange.report = some (r.2.report f true r.1)

variable {m : Moment}

theorem Offers.visit? {v : Visit} {f : Flow} (h : m.Offers v f) : m.event.visit? = some v := by
  rcases h with h | ⟨h, -⟩ <;> rw [h] <;> rfl

theorem GoesOnBehind.resumed {st : Suspension} (h : m.GoesOnBehind st) : m.resumed = true := by
  obtain ⟨v, f, n, kept, js, r, s', -, -, -, -, -, hrep⟩ := h
  unfold Moment.resumed
  rw [hrep]
  rfl

/-- A suspension that is there after an event was left behind by it, or was there before and is not
affected. -/
theorem left_or_kept (hw : m.desk.store.Works) {t u : String} {st : Suspension}
    (h : (m.desk.handle m.event).2.store.peek t u = some st) :
    m.key? = some (storeKey t u) ∧ m.left = some st ∨
      m.desk.store.peek t u = some st ∧
        (m.key? = some (storeKey t u) → m.left = none ∧ m.resumed = false) := by
  obtain ⟨d, e⟩ := m
  cases e with
  | register f => exact .inr ⟨h, fun hk => by cases hk⟩
  | remove id => exact .inr ⟨h, fun hk => by cases hk⟩
  | message v =>
    by_cases hk : storeKey t u = v.key
    · have he : v.entry (v.process d.registry d.store).2 = some st :=
        (SuspensionStore.peek_of_key_eq hk _).symm.trans h
      exact .inl ⟨congrArg some hk.symm, route_left (s := { store := d.store }) hw rfl he⟩
    · have hs : d.store.peek t u = some st := by
        rw [(v.process_frame d.registry hk d.store).peek_eq]
        exact h
      exact .inr ⟨hs, fun hk' => absurd (Option.some.inj hk').symm hk⟩
  | execute f v =>
    by_cases hk : storeKey t u = v.key
    · have he : v.entry (v.receive f d.store).2 = some st :=
        (SuspensionStore.peek_of_key_eq hk _).symm.trans h
      rcases receive_left (s := { store := d.store }) hw rfl he with hp | ⟨hp, hst, hother⟩
      · exact .inl ⟨congrArg some hk.symm, hp⟩
      · refine .inr ⟨(SuspensionStore.peek_of_key_eq hk _).trans hst, fun _ => ⟨hp, ?_⟩⟩
        -- a run that is resumed would have taken it up
        by_contra hres
        obtain ⟨st', n, kept, js, r, s₁, he', hid, -⟩ :=
          receive_resumed (s := { store := d.store }) hw rfl (Bool.eq_true_of_not_eq_false hres)
        cases hst.symm.trans he'
        exact hother hid
    · have hs : d.store.peek t u = some st := by
        rw [(v.receive_frame f hk d.store).peek_eq]
        exact h
      exact .inr ⟨hs, fun hk' => absurd (Option.some.inj hk').symm hk⟩

/-- A run that is resumed goes on behind the sender's suspension. -/
theorem goesOnBehind (hw : m.desk.store.Works) (h : m.resumed = true) : ∃ st, m.GoesOnBehind st := by
  obtain ⟨d, e⟩ := m
  cases e with
  | register f => cases h
  | remove id => cases h
  | message v =>
    obtain ⟨⟨_ | rep, s₂⟩, hrun⟩ : ∃ a, (d.registry.process v.context).run v.partners
        { store := d.store } = a := ⟨_, rfl⟩
    · have hx : (d.handle (.message v)).1.report = none := congrArg Prod.fst hrun
      unfold Moment.resumed exchange at h
      rw [hx] at h
      cases h
    · have hx : (d.handle (.message v)).1.report = some rep := congrArg Prod.fst hrun
      unfold Moment.resumed exchange at h
      rw [hx] at h
      obtain ⟨f, hf, st, n, kept, js, r, s₁, he, hid, hn, ht, hrep⟩ := route_took hw hrun h
      exact ⟨st, v, f, n, kept, js, r, s₁, .inr ⟨rfl, Registry.mem_activeFlows.1 hf⟩, he, hid, hn, ht,
        hx.trans (congrArg some hrep)⟩
  | execute f v =>
    obtain ⟨st, n, kept, js, r, s₁, he, hid, hn, ht, hrep⟩ :=
      receive_resumed (s := { store := d.store }) hw rfl h
    exact ⟨st, v, f, n, kept, js, r, s₁, .inl rfl, he, hid, hn, ht, congrArg some hrep⟩

/-- A sender is resumed only if he has a suspension. -/
theorem resumed_le (hw : m.desk.store.Works) (t u : String) :
    (m.key? == some (storeKey t u) && m.resumed).toNat ≤ (m.desk.store.peek t u).isSome.toNat := by
  cases hb : m.key? == some (storeKey t u) && m.resumed with
  | false => exact Nat.zero_le _
  | true =>
    obtain ⟨hkey, hres⟩ := Bool.and_eq_true_iff.1 hb
    obtain ⟨st, v, f, -, -, -, -, -, hv, he, -⟩ := goesOnBehind hw hres
    have hk : some v.key = some (storeKey t u) :=
      (congrArg (Option.map _) hv.visit?).symm.trans (beq_iff_eq.1 hkey)
    have hst : m.desk.store.peek t u = some st :=
      (SuspensionStore.peek_of_key_eq (Option.some.inj hk).symm _).trans he
    rw [hst]
    exact Nat.le_refl _

/-- An event at which a sender is resumed takes a suspension of his away, and one that is there
afterwards was there before or is left behind. -/
theorem balance (hw : m.desk.store.Works) (t u : String) :
    (m.key? == some (storeKey t u) && m.resumed).toNat +
        ((m.desk.handle m.event).2.store.peek t u).isSome.toNat ≤
      (m.desk.store.peek t u).isSome.toNat +
        (m.key? == some (storeKey t u) && m.left.isSome).toNat := by
  have hres := resumed_le hw t u
  cases hpeek : (m.desk.handle m.event).2.store.peek t u with
  | none => exact hres.trans (Nat.le_add_right _ _)
  | some st =>
    rcases left_or_kept hw hpeek with ⟨hk, hl⟩ | ⟨hst, hm⟩
    · rw [hl, beq_iff_eq.2 hk] at *
      exact Nat.add_le_add_right hres 1
    · have hno : (m.key? == some (storeKey t u) && m.resumed) = false := by
        cases hk : m.key? == some (storeKey t u) with
        | false => rfl
        | true => exact (hm (beq_iff_eq.1 hk)).2
      rw [hno, hst, Nat.add_comm]
      exact Nat.add_le_add_left (Nat.zero_le _) 1

end Moment

/-- A run shows what comes of its moments. -/
theorem run_eq_moments (d : Desk) (es : List Event) :
    (d.run es).1 = (d.moments es).map (·.exchange) := by
  induction es generalizing d with
  | nil => rfl
  | cons e es ih => exact congrArg _ (ih _)

theorem moments_concat (d : Desk) (es : List Event) (e : Event) :
    d.moments (es ++ [e]) = d.moments es ++ [⟨(d.run es).2, e⟩] := by
  induction es generalizing d with
  | nil => rfl
  | cons e' es ih => exact congrArg _ (ih _)

/-! ## Where suspensions come from -/

/-- One of these moments left the suspension behind under the key, and none after it under the key left
one behind or was resumed. -/
def Pending (key : String) (st : Suspension) (ms : List Moment) : Prop :=
  ∃ (l : Nat) (j : Moment), ms[l]? = some j ∧ j.key? = some key ∧ j.left = some st ∧
    ∀ (n : Nat) (m : Moment), l < n → ms[n]? = some m → m.key? = some key →
      m.left = none ∧ m.resumed = false

variable {key t u : String} {st : Suspension} {ms : List Moment} {m : Moment}

theorem pending_concat (hk : m.key? = some key) (hl : m.left = some st) :
    Pending key st (ms ++ [m]) := by
  refine ⟨ms.length, m, by simp, hk, hl, fun n m' hn hm' => ?_⟩
  rw [List.getElem?_eq_none (by simpa using hn)] at hm'
  cases hm'

theorem Pending.concat (h : Pending key st ms)
    (hm : m.key? = some key → m.left = none ∧ m.resumed = false) : Pending key st (ms ++ [m]) := by
  obtain ⟨l, j, hj, hkey, hleft, hlater⟩ := h
  have hl : l < ms.length := (List.getElem?_eq_some_iff.1 hj).1
  refine ⟨l, j, by rw [List.getElem?_append_left hl, hj], hkey, hleft, fun n m' hn hm' => ?_⟩
  rcases lt_trichotomy n ms.length with hlt | rfl | hgt
  · rw [List.getElem?_append_left hlt] at hm'
    exact hlater n m' hn hm'
  · rw [List.getElem?_concat_length] at hm'
    cases hm'
    exact hm
  · rw [List.getElem?_eq_none (by simpa using hgt)] at hm'
    cases hm'

/-- At a desk that started without suspensions every one is pending. -/
theorem pending_of_peek (r : Registry) (es : List Event) {t u : String} {st : Suspension}
    (h : (({ registry := r } : Desk).run es).2.store.peek t u = some st) :
    Pending (storeKey t u) st (({ registry := r } : Desk).moments es) := by
  induction es using List.reverseRecOn generalizing st with
  | nil => cases h
  | append_singleton es e ih =>
    have hw := run_induction (P := (·.store.Works)) handle_works (d := { registry := r }) ⟨rfl, rfl⟩ es
    rw [run_append] at h
    rw [moments_concat]
    -- the last event either left the suspension behind or did not touch it
    rcases Moment.left_or_kept (m := ⟨_, e⟩) hw h with ⟨hk, hl⟩ | ⟨hst, hm⟩
    · exact pending_concat hk hl
    · exact (ih hst).concat hm

/-! ## What runs go on behind -/

/-- The `k`-th moment is a run that goes on behind what the `l`-th left behind: they are messages under
one key, and no message between them under this key left a suspension behind. -/
def Continues (ms : List Moment) (l k : Nat) : Prop :=
  ∃ j i : Moment, ms[l]? = some j ∧ ms[k]? = some i ∧ l < k ∧ i.key? = j.key? ∧
    (∃ st, j.left = some st ∧ i.GoesOnBehind st) ∧
    ∀ (n : Nat) (m : Moment), l < n → n < k → ms[n]? = some m → m.key? = j.key? → m.left = none

/-- The number of these moments that are messages of a sender and pass a test. -/
def tally (t u : String) (q : Moment → Bool) (ms : List Moment) : Nat :=
  ms.countP fun m => m.key? == some (storeKey t u) && q m

theorem moments_take (d : Desk) (es : List Event) (k : Nat) :
    (d.moments es).take k = d.moments (es.take k) := by
  induction es generalizing d k with
  | nil => simp [moments]
  | cons e es ih =>
    cases k with
    | zero => rfl
    | succ k => exact congrArg _ (ih _ k)

theorem desk_of_moments {d : Desk} {es : List Event} {k : Nat} (h : (d.moments es)[k]? = some m) :
    m.desk = (d.run (es.take k)).2 := by
  induction es generalizing d k with
  | nil => cases h
  | cons e es ih =>
    cases k with
    | zero => cases h; rfl
    | succ k => exact ih h

section

variable {r : Registry} {es : List Event}

theorem works_of_moments {k : Nat} (h : (({ registry := r } : Desk).moments es)[k]? = some m) :
    m.desk.store.Works := by
  rw [desk_of_moments h]
  exact run_induction (P := (·.store.Works)) handle_works ⟨rfl, rfl⟩ _

theorem tally_cons (t u : String) (q : Moment → Bool) (m : Moment) (ms : List Moment) :
    tally t u q (m :: ms) = (m.key? == some (storeKey t u) && q m).toNat + tally t u q ms := by
  unfold tally
  rw [List.countP_cons, Nat.add_comm, Bool.toNat, Bool.cond_eq_ite]

theorem tally_append (t u : String) (q : Moment → Bool) (ms ms' : List Moment) :
    tally t u q (ms ++ ms') = tally t u q ms + tally t u q ms' :=
  List.countP_append

/-- What a run goes on behind was pending among the moments before it. -/
theorem pending_of_goesOnBehind {k : Nat}
    (h : (({ registry := r } : Desk).moments es)[k]? = some m) (hg : m.GoesOnBehind st) :
    ∃ key, m.key? = some key ∧ Pending key st ((({ registry := r } : Desk).moments es).take k) := by
  obtain ⟨v, f, -, -, -, -, -, hv, he, -⟩ := hg
  refine ⟨v.key, congrArg (Option.map _) hv.visit?, ?_⟩
  rw [moments_take]
  rw [desk_of_moments h] at he
  exact pending_of_peek r (es.take k) he

/-- Every run that is resumed goes on behind what an earlier message left behind. -/
theorem continues_of_resumed {k : Nat} (h : (({ registry := r } : Desk).moments es)[k]? = some m)
    (hres : m.resumed = true) : ∃ l, Continues (({ registry := r } : Desk).moments es) l k := by
  obtain ⟨st, hg⟩ := Moment.goesOnBehind (works_of_moments h) hres
  obtain ⟨key, hkey, l, j, hj, hjkey, hleft, hlater⟩ := pending_of_goesOnBehind h hg
  rw [List.getElem?_take] at hj
  split at hj
  · rename_i hlk
    refine ⟨l, j, m, hj, h, hlk, hkey.trans hjkey.symm, ⟨st, hleft, hg⟩, fun n m' hn hnk hm' hk => ?_⟩
    refine (hlater n m' hn ?_ (hk.trans hjkey)).1
    rw [List.getElem?_take, if_pos hnk, hm']
  · cases hj

/-- Of two runs that go on behind what one message left behind none is the earlier. -/
theorem Continues.not_lt {l k k' : Nat} (h : Continues (({ registry := r } : Desk).moments es) l k)
    (h' : Continues (({ registry := r } : Desk).moments es) l k') : ¬ k < k' := by
  intro hlt
  obtain ⟨j, i, hj, hi, hlk, hkey, ⟨st, -, hg⟩, -⟩ := h
  obtain ⟨j', i', hj', hi', hlk', hkey', ⟨st', hleft', hg'⟩, hbetween⟩ := h'
  cases hj.symm.trans hj'
  obtain ⟨key, hk', n, x, hx, hxkey, hxleft, hlater⟩ := pending_of_goesOnBehind hi' hg'
  have hsame : j.key? = some key := hkey'.symm.trans hk'
  rw [List.getElem?_take] at hx
  split at hx
  · rename_i hnk
    -- the pending suspension is that of `l`, but `k` was resumed since
    have hnl : n ≤ l := by
      by_contra hln
      have := hbetween n x (by omega) hnk hx (hxkey.trans hsame.symm)
      cases hxleft.symm.trans this
    have hres := (hlater k i (by omega) (by rw [List.getElem?_take, if_pos hlt, hi])
      (hkey.trans hsame)).2
    cases hg.resumed.symm.trans hres
  · cases hx

/-- The suspensions at which a sender is resumed, and one that is there in the end, are among those left
behind and one that was there before. -/
theorem tally_resumed_le {d : Desk} (hw : d.store.Works) (es : List Event) (t u : String) :
    tally t u (·.resumed) (d.moments es) + ((d.run es).2.store.peek t u).isSome.toNat ≤
      (d.store.peek t u).isSome.toNat + tally t u (·.left.isSome) (d.moments es) := by
  induction es generalizing d with
  | nil => exact (Nat.add_comm ..).le
  | cons e es ih =>
    have hstep := Moment.balance (m := ⟨d, e⟩) hw t u
    have hrest := ih (handle_works d e hw)
    have hrun : (d.run (e :: es)).2 = ((d.handle e).2.run es).2 := rfl
    rw [hrun, moments, tally_cons, tally_cons]
    dsimp only at hstep hrest ⊢
    omega

/-- Suspensions are for single use. In every run at a desk that started without suspensions: a run that
is resumed goes on behind the suspension that the last message before it under its key left behind, out
of those that left one, and in the same flow; no two runs go on behind what one message left behind; and
at any time a sender was resumed no more often than earlier messages of his left a suspension behind. -/
theorem suspensions_used_once (r : Registry) (es : List Event) :
    let ms := ({ registry := r } : Desk).moments es
    (({ registry := r } : Desk).run es).1 = ms.map (·.exchange) ∧
    (∀ k m, ms[k]? = some m → m.resumed = true → ∃ l, Continues ms l k) ∧
    (∀ l k k', Continues ms l k → Continues ms l k' → k = k') ∧
    ∀ t u k, tally t u (·.resumed) (ms.take (k + 1)) ≤ tally t u (·.left.isSome) (ms.take k) := by
  refine ⟨run_eq_moments _ es, fun k m => continues_of_resumed, fun l k k' h h' => ?_, fun t u k => ?_⟩
  · exact Nat.le_antisymm (Nat.not_lt.1 (h'.not_lt h)) (Nat.not_lt.1 (h.not_lt h'))
  · have hbefore := tally_resumed_le (d := { registry := r }) ⟨rfl, rfl⟩ (es.take k) t u
    have hnone : (({ registry := r } : Desk).store.peek t u).isSome.toNat = 0 := rfl
    rw [← moments_take, hnone] at hbefore
    cases hm : (({ registry := r } : Desk).moments es)[k]? with
    | none =>
      rw [List.take_add_one, hm, Option.toList_none, List.append_nil]
      omega
    | some m =>
      have hres := Moment.resumed_le (works_of_moments hm) t u
      rw [desk_of_moments hm] at hres
      rw [List.take_add_one, hm, Option.toList_some, tally_append, tally_cons]
      dsimp only [tally, List.countP_nil] at hbefore hres ⊢
      omega

end

/-- The second message of a sender goes on behind what the first left behind, and the third behind
nothing. -/
theorem survey_used_once :
    let ms := ({ registry := surveys } : Desk).moments [.message (visitOf "t1" "u1" "go"),
      .message (visitOf "t1" "u1" "hi"), .message (visitOf "t1" "u1" "hi")]
    (∃ l, Continues ms l 1) ∧ (∀ l, Continues ms l 1 → ∀ k, Continues ms l k → k = 1) ∧
      ms.map (·.resumed) = [false, true, false] := by
  intro ms
  have h := suspensions_used_once surveys [.message (visitOf "t1" "u1" "go"),
    .message (visitOf "t1" "u1" "hi"), .message (visitOf "t1" "u1" "hi")]
  exact ⟨h.2.1 1 _ rfl (by cbv), fun l hl k hk => h.2.2.1 l k 1 hk hl, by cbv⟩

end Desk

end Dialogue
