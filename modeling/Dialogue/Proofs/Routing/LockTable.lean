/-
The table of locks while flows come and go and the desk is shut down. As long as no lock is forgotten,
whoever waits for a lock or holds it finds it in the table, and no two messages of one sender are routed
at the same time (`locks_listed`); a shutdown may let a second one in (`forgotten_lock`). And where no
two messages are about to leave with one lock at the same time, the table is empty when nobody is
there (`locks_empty`); where two are, each leaves the lock to the other (`lock_left_behind`).
-/
import Dialogue.Proofs.Routing.Locks
import Dialogue.Proofs.Run.Reach
import Dialogue.Routing.Shutdown

namespace Dialogue

/-- The lock with which a message, having seen to the table, is about to leave. -/
def Stage.parting? : Stage → Option Nat
  | .leaving l _ => some l
  | _ => none

theorem Stage.claim?_or_parting? {g : Stage} {l : Nat} (h : g.lock? = some l) :
    g.claim? = some l ∨ g.parting? = some l := by
  cases g with
  | leaving l' x => exact .inr h
  | waiting l' => exact .inl h
  | running l' rest log => exact .inl h
  | released l' x => exact .inl h
  | pending => cases h
  | answered x => cases h

namespace Traffic

variable {n : Nat} {t t' : Traffic n} {i j : Fin n} {a : Act n} {acts : List (Act n)}

/-! ## What may happen -/

/-- Either a message takes a step, or flows come or go, or locks are forgotten. -/
theorem act_cases (h : t.act a = some t') :
    (∃ i, a = .advance i ∧ t.advance i = some t') ∨
    (∃ r, t' = { t with registry := r }) ∨
    ∃ part, a = .forgetLocks part ∧ t' = { t with locks := t.locks.filter fun e => !part e.1 } := by
  cases a with
  | advance i => exact .inl ⟨i, rfl, h⟩
  | register f => exact .inr (.inl ⟨_, (Option.some.inj h).symm⟩)
  | remove id => exact .inr (.inl ⟨_, (Option.some.inj h).symm⟩)
  | forgetFlows => exact .inr (.inl ⟨_, (Option.some.inj h).symm⟩)
  | forgetLocks part => exact .inr (.inr ⟨part, rfl, (Option.some.inj h).symm⟩)

/-- What every act among these keeps is kept when they are performed. -/
theorem perform_induction {P : Traffic n → Prop}
    (hact : ∀ a ∈ acts, ∀ {t t' : Traffic n}, t.act a = some t' → P t → P t') (ht : P t)
    (h : t.perform acts = some t') : P t' := by
  induction acts generalizing t with
  | nil =>
    cases h
    exact ht
  | cons a acts ih =>
    unfold perform at h
    split at h
    · rename_i t₁ h₁
      refine ih (fun b hb => hact b (List.mem_cons_of_mem _ hb)) ?_ h
      exact hact a (List.mem_cons_self ..) h₁ ht
    · cases h

/-! ## Locks that are not forgotten -/

theorem Guarded.act (h : t.Guarded) (ha : ∀ part, a ≠ .forgetLocks part) (hact : t.act a = some t') :
    t'.Guarded := by
  rcases act_cases hact with ⟨i, -, hi⟩ | ⟨r, rfl⟩ | ⟨part, hpart, -⟩
  · exact h.move (move_of_advance hi)
  · exact ⟨h.listed, h.excluded⟩
  · exact absurd hpart (ha part)

/-- Whatever happens, unless locks are forgotten, whoever waits for a lock, holds it or has just given it
back finds it in the table under the key of its sender, and no two messages of one sender are routed at
the same time. -/
theorem locks_listed {d : Desk} {visits : Fin n → Visit} (hacts : ∀ part, .forgetLocks part ∉ acts)
    (h : (start d visits).perform acts = some t) :
    (∀ i l, (t.stage i).claim? = some l → t.locks.get? (t.key i) = some l) ∧
    ∀ i j l l', (t.stage i).held? = some l → (t.stage j).held? = some l' → t.key i = t.key j →
      i = j := by
  have hguarded : t.Guarded := by
    refine perform_induction (fun a ha t t' hact ht => ?_) (Guarded.start d visits) h
    refine ht.act (fun part he => ?_) hact
    exact hacts part (he ▸ ha)
  exact ⟨hguarded.listed, fun i j l l' => hguarded.alone⟩

/-! ## Names of locks -/

/-- Every lock was made for one sender: whoever has a handle of it is a message of that sender, and it
stands in the table under no other key. -/
structure Named (owner : Nat → String) (t : Traffic n) : Prop where
  handle : ∀ i l, (t.stage i).lock? = some l → l < t.made ∧ owner l = t.key i
  entry : ∀ key l, (key, l) ∈ t.locks → l < t.made ∧ owner l = key
  distinct : t.locks.keys.Nodup

variable {owner : Nat → String} {g : Stage} {l : Nat} {x : Exchange}

namespace Named

theorem start (d : Desk) (visits : Fin n → Visit) : Named owner (Traffic.start d visits) :=
  ⟨nofun, nofun, .nil⟩

theorem enter (h : Named owner t)
    (hg : ∀ l, g.lock? = some l → l < t.made ∧ owner l = t.key i) : Named owner (t.enter i g) := by
  refine ⟨fun j l hj => ?_, h.entry, h.distinct⟩
  by_cases hji : j = i
  · rw [hji, enter_self] at hj
    rw [hji]
    exact hg l hj
  · rw [enter_ne hji] at hj
    exact h.handle j l hj

theorem stay (h : Named owner t) (hg : g.lock? = (t.stage i).lock?) : Named owner (t.enter i g) :=
  h.enter fun l hl => h.handle i l (hg.symm.trans hl)

theorem make (h : Named owner t) (key : String) :
    Named (fun l => if l = t.made then key else owner l)
      { t with locks := t.locks.insert key t.made, made := t.made + 1 } := by
  -- the locks made before keep their owners
  have hold : ∀ {l k}, l < t.made ∧ owner l = k →
      l < t.made + 1 ∧ (if l = t.made then key else owner l) = k := by
    rintro l k ⟨hl, hk⟩
    rw [if_neg (Nat.ne_of_lt hl)]
    exact ⟨Nat.lt_succ_of_lt hl, hk⟩
  refine ⟨fun i l hi => hold (h.handle i l hi), fun k l hl => ?_, ?_⟩
  · rcases Table.mem_insert hl with he | hl
    · cases he
      exact ⟨Nat.lt_succ_self _, if_pos rfl⟩
    · exact hold (h.entry k l hl)
  · exact Table.nodup_keys_insert h.distinct _ _

theorem forget (h : Named owner t) {locks : Table Nat} (hl : locks.Sublist t.locks) :
    Named owner { t with locks := locks } :=
  ⟨h.handle, fun key l hm => h.entry key l (hl.subset hm), h.distinct.sublist (hl.map _)⟩

theorem move (h : Named owner t) (hmove : Move i t t') : ∃ owner, Named owner t' := by
  cases hmove with
  | found hs hl =>
    refine ⟨owner, h.enter fun l' hl' => ?_⟩
    cases hl'
    exact h.entry _ _ (Table.mem_of_get? hl)
  | made hs hl =>
    refine ⟨_, (h.make (t.key i)).enter fun l' hl' => ?_⟩
    cases hl'
    exact ⟨Nat.lt_succ_self _, if_pos rfl⟩
  | locked hs _ => exact ⟨owner, h.stay (congrArg Stage.lock? hs).symm⟩
  | @asked l r next log a w hs _ =>
    have hstore : Named owner { t with store := w.store } := ⟨h.handle, h.entry, h.distinct⟩
    exact ⟨owner, hstore.stay (congrArg Stage.lock? hs).symm⟩
  | done hs => exact ⟨owner, h.stay (congrArg Stage.lock? hs).symm⟩
  | kept hs => exact ⟨owner, h.stay (congrArg Stage.lock? hs).symm⟩
  | tidied hs _ _ =>
    have hforget : Named owner { t with locks := t.locks.erase (t.key i) } :=
      h.forget List.filter_sublist
    exact ⟨owner, hforget.stay (congrArg Stage.lock? hs).symm⟩
  | left hs => exact ⟨owner, h.enter fun l' hl' => nomatch hl'⟩

theorem act (h : Named owner t) (hact : t.act a = some t') : ∃ owner, Named owner t' := by
  rcases act_cases hact with ⟨i, -, hi⟩ | ⟨r, rfl⟩ | ⟨part, -, rfl⟩
  · exact h.move (move_of_advance hi)
  · exact ⟨owner, h.handle, h.entry, h.distinct⟩
  · exact ⟨owner, h.forget List.filter_sublist⟩

/-- The table has one handle of a lock that stands in it. -/
theorem count_values (h : Named owner t) {key : String} (hl : t.locks.get? key = some l) :
    t.locks.values.count l = 1 := by
  have hmem := Table.mem_of_get? hl
  have honly : ∀ e ∈ t.locks, (e.2 == l) = true ↔ (e == (key, l)) = true := by
    rintro ⟨key', l'⟩ he
    rw [beq_iff_eq, beq_iff_eq]
    constructor
    · rintro rfl
      rw [← (h.entry _ _ he).2, (h.entry _ _ hmem).2]
    · intro heq
      exact congrArg Prod.snd heq
  have hnodup : t.locks.Nodup := .of_map _ h.distinct
  calc t.locks.values.count l = t.locks.countP (·.2 == l) := List.countP_map
    _ = t.locks.count (key, l) := List.countP_congr honly
    _ = 1 := List.count_eq_one_of_mem hnodup hmem

/-- If there are not just two handles of a message's lock, which stands in the table, somebody else has
one. -/
theorem exists_handle (h : Named owner t) (hl : t.locks.get? (t.key i) = some l)
    (hi : (t.stage i).lock? = some l) (h2 : t.handles l ≠ 2) :
    ∃ j, j ≠ i ∧ (t.stage j).lock? = some l := by
  by_contra hno
  push Not at hno
  have honly : ∀ j ∈ List.finRange n, ((t.stage j).lock? == some l) = true ↔ (j == i) = true := by
    intro j _
    rw [beq_iff_eq, beq_iff_eq]
    constructor
    · intro hj
      by_contra hji
      exact hno j hji hj
    · rintro rfl
      exact hi
  have hone : (List.finRange n).countP (fun j => (t.stage j).lock? == some l) = 1 := by
    rw [List.countP_congr honly]
    exact List.count_eq_one_of_mem (List.nodup_finRange n) (List.mem_finRange i)
  refine h2 ?_
  rw [handles, h.count_values hl, hone]

end Named

/-! ## Locks that are left behind -/

/-- Every lock in the table is the one that some message of the sender waits for, holds or has just given
back. -/
def Needed (t : Traffic n) : Prop :=
  ∀ key l, t.locks.get? key = some l → ∃ i, t.key i = key ∧ (t.stage i).claim? = some l

/-- Whether no two messages are about to leave with one lock. -/
def apart (t : Traffic n) : Bool :=
  (List.finRange n).all fun i => (List.finRange n).all fun j =>
    i == j || (t.stage i).parting?.isNone || (t.stage i).parting? != (t.stage j).parting?

/-- Whether that is so all the while when one thing happens after another. -/
def leavesApart (t : Traffic n) : List (Act n) → Bool
  | [] => true
  | a :: acts =>
    match t.act a with
    | some t => t.apart && t.leavesApart acts
    | none => true

theorem eq_of_apart (h : t.apart = true) (hi : (t.stage i).parting? = some l)
    (hj : (t.stage j).parting? = some l) : i = j := by
  have hij := List.all_eq_true.1 (List.all_eq_true.1 h i (List.mem_finRange i)) j (List.mem_finRange j)
  simpa [hi, hj] using hij

namespace Needed

/-- A message comes to another stage. If it gives up the lock that stands in the table, another message
of the sender needs it. -/
theorem enter (h : t.Needed)
    (hc : ∀ l, (t.stage i).claim? = some l → t.locks.get? (t.key i) = some l →
      ∃ j, t.key j = t.key i ∧ ((t.enter i g).stage j).claim? = some l) : (t.enter i g).Needed := by
  intro key l hl
  obtain ⟨j, rfl, hj⟩ := h key l hl
  by_cases hji : j = i
  · rw [hji] at hj hl ⊢
    exact hc l hj hl
  · exact ⟨j, rfl, by rw [enter_ne hji]; exact hj⟩

theorem stay (h : t.Needed) (hg : g.claim? = (t.stage i).claim?) : (t.enter i g).Needed :=
  h.enter fun l hl _ => ⟨i, rfl, by rw [enter_self, hg, hl]⟩

theorem of_sublocks (h : t.Needed) {locks : Table Nat}
    (hl : ∀ key l, locks.get? key = some l → t.locks.get? key = some l) :
    Needed { t with locks := locks } :=
  fun key l hkey => h key l (hl key l hkey)

/-- A message that gave its lock back sees to the table. -/
theorem release (hn : Named owner t) (h : t.Needed) (hs : t.stage i = .released l x)
    (hapart : ((t.tidy (t.key i)).enter i (.leaving l x)).apart = true) :
    ((t.tidy (t.key i)).enter i (.leaving l x)).Needed := by
  unfold tidy at hapart ⊢
  cases hget : t.locks.get? (t.key i) with
  | none =>
    dsimp only
    refine h.enter fun m _ hm => ?_
    cases hget.symm.trans hm
  | some l' =>
    simp only [hget] at hapart
    dsimp only
    by_cases h2 : t.handles l' = 2
    · rw [if_pos h2]
      have herased : Needed { t with locks := t.locks.erase (t.key i) } := by
        refine h.of_sublocks fun key m hm => ?_
        rw [Table.get?_erase] at hm
        split at hm
        · cases hm
        · exact hm
      have hnone : (t.locks.erase (t.key i)).get? (t.key i) = none := by
        rw [Table.get?_erase, if_pos rfl]
      refine herased.enter fun m _ hm => ?_
      cases hnone.symm.trans hm
    · rw [if_neg h2] at hapart ⊢
      refine h.enter fun m hm hlisted => ?_
      rw [hs] at hm
      cases hm
      cases hget.symm.trans hlisted
      -- there are more than two handles, so somebody else has one
      obtain ⟨j, hji, hj⟩ := hn.exists_handle hget (by rw [hs]; rfl) h2
      rcases Stage.claim?_or_parting? hj with hclaim | hparting
      · refine ⟨j, ?_, by rw [enter_ne hji]; exact hclaim⟩
        rw [← (hn.handle j l hj).2, (hn.entry _ _ (Table.mem_of_get? hget)).2]
      · -- the other one cannot be about to leave, too
        refine absurd (eq_of_apart hapart (l := l) ?_ ?_) hji
        · rw [enter_ne hji]
          exact hparting
        · rw [enter_self]
          rfl

theorem advance (hn : Named owner t) (h : t.Needed) (hadv : t.advance i = some t')
    (hapart : t'.apart = true) : t'.Needed := by
  -- a move does not say why a lock was kept in the table, so that step is looked at by itself
  by_cases hrel : ∃ l x, t.stage i = .released l x
  · obtain ⟨l, x, hs⟩ := hrel
    have hnext : t.advance i = some ((t.tidy (t.key i)).enter i (.leaving l x)) := by
      unfold Traffic.advance
      rw [hs]
    cases hadv.symm.trans hnext
    exact h.release hn hs hapart
  cases move_of_advance hadv with
  | found hs hl => exact h.enter fun m hm _ => by rw [hs] at hm; cases hm
  | made hs hl =>
    intro key m hm
    replace hm : (t.locks.insert (t.key i) t.made).get? key = some m := hm
    rw [Table.get?_insert] at hm
    split at hm
    · rename_i hkey
      cases hm
      exact ⟨i, hkey.symm, by rw [enter_self]; rfl⟩
    · obtain ⟨j, hj, hclaim⟩ := h key m hm
      have hji : j ≠ i := by
        rintro rfl
        rw [hs] at hclaim
        cases hclaim
      exact ⟨j, hj, by rw [enter_ne hji]; exact hclaim⟩
  | locked hs _ => exact h.stay (congrArg Stage.claim? hs).symm
  | @asked l r next log a w hs _ =>
    have hstore : Needed { t with store := w.store } := h
    exact hstore.stay (congrArg Stage.claim? hs).symm
  | done hs => exact h.stay (congrArg Stage.claim? hs).symm
  | kept hs => exact absurd ⟨_, _, hs⟩ hrel
  | tidied hs _ _ => exact absurd ⟨_, _, hs⟩ hrel
  | left hs => exact h.stay (congrArg Stage.claim? hs).symm

theorem act (hn : Named owner t) (h : t.Needed) (hact : t.act a = some t') (hapart : t'.apart = true) :
    t'.Needed := by
  rcases act_cases hact with ⟨i, -, hi⟩ | ⟨r, rfl⟩ | ⟨part, -, rfl⟩
  · exact h.advance hn hi hapart
  · exact h
  · refine h.of_sublocks fun key l hl => ?_
    exact Table.get?_of_mem hn.distinct (List.mem_filter.1 (Table.mem_of_get? hl)).1

theorem perform (hn : Named owner t) (h : t.Needed) (hacts : t.leavesApart acts = true)
    (hrun : t.perform acts = some t') : t'.Needed ∧ ∃ owner, Named owner t' := by
  induction acts generalizing t owner with
  | nil =>
    cases hrun
    exact ⟨h, owner, hn⟩
  | cons a acts ih =>
    unfold Traffic.perform at hrun
    unfold leavesApart at hacts
    split at hrun
    · rename_i t₁ h₁
      simp only [h₁, Bool.and_eq_true] at hacts
      obtain ⟨hapart, hrest⟩ := hacts
      obtain ⟨owner', hn'⟩ := hn.act h₁
      exact ih hn' (h.act hn h₁ hapart) hrest hrun
    · cases hrun

end Needed

/-- Whatever happens, shutdowns among it, if no two messages leave with one lock at the same time, the
table is empty whenever no message is there. -/
theorem locks_empty {d : Desk} {visits : Fin n → Visit}
    (hacts : (start d visits).leavesApart acts = true)
    (h : (start d visits).perform acts = some t) (hidle : ∀ i, (t.stage i).lock? = none) :
    t.locks = [] := by
  have hstart : (start d visits).Needed := fun key l hl => nomatch hl
  have hnamed : Named (fun _ => "") (start d visits) := Named.start d visits
  obtain ⟨hneeded, owner, hn⟩ := hstart.perform hnamed hacts h
  refine List.eq_nil_iff_forall_not_mem.2 fun ⟨key, l⟩ he => ?_
  obtain ⟨i, -, hclaim⟩ := hneeded key l (Table.get?_of_mem hn.distinct he)
  have hlock := Stage.lock?_of_claim? hclaim
  rw [hidle i] at hlock
  cases hlock

/-- Two messages of one sender at a desk without flows. -/
def twoGreetings : Fin 2 → Visit :=
  fun _ => ⟨sayGo, attentive⟩

/-- The second message waits while the first one is routed and leaves. -/
example :
    let acts : List (Act 2) := [.advance 0, .advance 0, .advance 1, .advance 0, .advance 0, .advance 0,
      .advance 0, .advance 1, .advance 1, .advance 1, .advance 1, .advance 1]
    (start {} twoGreetings).leavesApart acts = true ∧
      ((start {} twoGreetings).perform acts).map (fun t => (t.finished, t.locks)) = some (true, []) := by
  constructor <;> cbv

/-! ## What may go wrong -/

/-- A shutdown takes the lock of a message that is being routed out of the table, and the next message of
the sender makes another one and is routed at the same time. -/
theorem forgotten_lock : ((start {} twoGreetings).perform
    [.advance 0, .advance 0, .forgetFlows, .forgetLocks fun _ => true, .advance 1, .advance 1]).map
      (fun t => ((t.stage 0).held?, (t.stage 1).held?)) = some (some 0, some 1) := by
  cbv

/-- One message sees to the table while the other still has its handle of the lock, and the other way
round: both are answered, and the lock is left in the table. -/
theorem lock_left_behind : ((start {} twoGreetings).perform
    [.advance 0, .advance 0, .advance 1, .advance 0, .advance 0, .advance 1, .advance 1, .advance 1,
      .advance 0, .advance 1, .advance 0, .advance 1]).map
      (fun t => (t.finished, t.locks)) = some (true, [("flow_state:t1:u1", 0)]) := by
  cbv

end Traffic

end Dialogue
