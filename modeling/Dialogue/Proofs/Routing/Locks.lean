/-
The locks of messages that are answered at the same time. A lock stays in the table as long as a
message waits for it, holds it or has just given it back, for it is taken out only when nobody else
has a handle of it (`Guarded.move`). So the messages of one sender wait for one lock, and no two of
them are routed at the same time (`Guarded.alone`); and as long as one is unanswered, some message can
go on (`exists_advance`).
-/
import Dialogue.Routing.Traffic
import Mathlib.Data.List.FinRange
import Mathlib.Data.List.Perm.Subperm

namespace Dialogue

/-- The lock that a message waits for, holds or has just given back. -/
def Stage.claim? : Stage → Option Nat
  | .waiting l | .running l _ _ | .released l _ => some l
  | .pending | .leaving _ _ | .answered _ => none

/-- Only a message that is being routed holds a lock. -/
theorem Stage.running_of_held? {g : Stage} {l : Nat} (h : g.held? = some l) :
    ∃ rest log, g = .running l rest log := by
  cases g with
  | running l' rest log => cases h; exact ⟨rest, log, rfl⟩
  | pending => cases h
  | waiting l' => cases h
  | released l' x => cases h
  | leaving l' x => cases h
  | answered x => cases h

theorem Stage.claim?_of_held? {g : Stage} {l : Nat} (h : g.held? = some l) : g.claim? = some l := by
  obtain ⟨rest, log, rfl⟩ := running_of_held? h
  rfl

theorem Stage.lock?_of_claim? {g : Stage} {l : Nat} (h : g.claim? = some l) : g.lock? = some l := by
  cases g with
  | waiting l' => exact h
  | running l' rest log => exact h
  | released l' x => exact h
  | pending => cases h
  | leaving l' x => cases h
  | answered x => cases h

namespace Traffic

variable {n : Nat} {t t' : Traffic n} {i j : Fin n} {g : Stage}

theorem enter_self : (t.enter i g).stage i = g := if_pos rfl

theorem enter_ne (h : j ≠ i) : (t.enter i g).stage j = t.stage j := if_neg h

/-! ## What a step can be -/

/-- The steps of a message. -/
inductive Move (i : Fin n) : Traffic n → Traffic n → Prop
  | found {t : Traffic n} {l} : t.stage i = .pending → t.locks.get? (t.key i) = some l →
      Move i t (t.enter i (.waiting l))
  | made {t : Traffic n} : t.stage i = .pending → t.locks.get? (t.key i) = none →
      Move i t ({ t with
        locks := t.locks.insert (t.key i) t.made, made := t.made + 1 }.enter i (.waiting t.made))
  | locked {t : Traffic n} {l} : t.stage i = .waiting l → t.isHeld l = false →
      Move i t (t.enter i (.running l (t.registry.process (t.visits i).context) {}))
  | asked {t : Traffic n} {l r next log a w} : t.stage i = .running l (.ask r next) log →
      World.answer (t.visits i).partners ⟨t.store, log⟩ r = (a, w) →
      Move i t ({ t with store := w.store }.enter i (.running l (next a) w.log))
  | done {t : Traffic n} {l report log} : t.stage i = .running l (.done report) log →
      Move i t (t.enter i (.released l ⟨report, log⟩))
  | kept {t : Traffic n} {l x} : t.stage i = .released l x → Move i t (t.enter i (.leaving l x))
  | tidied {t : Traffic n} {l x l'} : t.stage i = .released l x → t.locks.get? (t.key i) = some l' →
      t.handles l' = 2 →
      Move i t ({ t with locks := t.locks.erase (t.key i) }.enter i (.leaving l x))
  | left {t : Traffic n} {l x} : t.stage i = .leaving l x → Move i t (t.enter i (.answered x))

theorem move_of_advance (h : t.advance i = some t') : Move i t t' := by
  unfold advance at h
  split at h
  · rename_i hs
    cases h
    unfold takeHandle
    split
    · rename_i hl; exact .found hs hl
    · rename_i hl; exact .made hs hl
  · rename_i l hs
    split at h
    · cases h
    · rename_i hheld
      cases h
      exact .locked hs (by simpa using hheld)
  · rename_i hs; cases h; exact .done hs
  · rename_i hs; cases h; exact .asked hs rfl
  · rename_i hs
    cases h
    unfold tidy
    split
    · rename_i hl
      split
      · rename_i h2; exact .tidied hs hl h2
      · exact .kept hs
    · exact .kept hs
  · rename_i hs; cases h; exact .left hs
  · cases h

/-- What every step keeps is kept by every run. -/
theorem run_induction {P : Traffic n → Prop}
    (hmove : ∀ {t t' : Traffic n} {i : Fin n}, Move i t t' → P t → P t') {schedule : List (Fin n)}
    (ht : P t) (h : t.run schedule = some t') : P t' := by
  induction schedule generalizing t with
  | nil => cases h; exact ht
  | cons i schedule ih =>
    unfold run at h
    split at h
    · rename_i t₁ h₁
      exact ih (hmove (move_of_advance h₁) ht) h
    · cases h

/-- As long as a message is unanswered, some message can take a step: whoever waits for a lock waits
for one that nobody holds, or for somebody who can go on. -/
theorem exists_advance (h : t.finished = false) : ∃ i, (t.advance i).isSome = true := by
  obtain ⟨i, -, hi⟩ := List.all_eq_false.1 h
  have hrunning : ∀ j l, (t.stage j).held? = some l → (t.advance j).isSome = true := by
    intro j l hj
    obtain ⟨rest, log, hs⟩ := Stage.running_of_held? hj
    unfold advance
    rw [hs]
    cases rest <;> rfl
  cases hs : t.stage i with
  | waiting l =>
    cases hheld : t.isHeld l with
    | true =>
      obtain ⟨j, -, hj⟩ := List.any_eq_true.1 hheld
      exact ⟨j, hrunning j l (by simpa using hj)⟩
    | false =>
      refine ⟨i, ?_⟩
      unfold advance
      rw [hs]
      simp [hheld]
  | running l rest log => exact ⟨i, hrunning i l (by rw [hs]; rfl)⟩
  | pending => exact ⟨i, by unfold advance; rw [hs]; rfl⟩
  | released l x => exact ⟨i, by unfold advance; rw [hs]; rfl⟩
  | leaving l x => exact ⟨i, by unfold advance; rw [hs]; rfl⟩
  | answered x =>
    unfold exchange? at hi
    rw [hs] at hi
    exact absurd rfl hi

/-! ## The locks in the table -/

/-- Two messages with a lock of the table have three handles of it with the table's own. -/
theorem three_le_handles {key : String} {l : Nat} (hl : t.locks.get? key = some l) (hij : i ≠ j)
    (hi : (t.stage i).lock? = some l) (hj : (t.stage j).lock? = some l) : 3 ≤ t.handles l := by
  have htable : 1 ≤ t.locks.values.count l :=
    List.count_pos_iff.2 (List.mem_map.2 ⟨_, Table.mem_of_get? hl, rfl⟩)
  have hboth : [i, j].Subperm
      ((List.finRange n).filter fun i => (t.stage i).lock? == some l) := by
    refine List.subperm_of_subset (by simp [hij]) fun k hk => ?_
    rw [List.mem_filter]
    refine ⟨List.mem_finRange k, ?_⟩
    rcases List.mem_pair.1 hk with rfl | rfl
    · simp [hi]
    · simp [hj]
  have hmessages : 2 ≤ (List.finRange n).countP fun i => (t.stage i).lock? == some l := by
    rw [List.countP_eq_length_filter]
    exact hboth.length_le
  unfold handles
  omega

/-- Whoever has a claim to a lock finds it in the table under the key of its sender, and no two
messages hold one lock. -/
structure Guarded (t : Traffic n) : Prop where
  listed : ∀ i l, (t.stage i).claim? = some l → t.locks.get? (t.key i) = some l
  excluded : ∀ i j l, (t.stage i).held? = some l → (t.stage j).held? = some l → i = j

namespace Guarded

theorem start (d : Desk) (visits : Fin n → Visit) : (Traffic.start d visits).Guarded :=
  ⟨nofun, nofun⟩

/-- No two messages of one sender are routed at the same time. -/
theorem alone (h : t.Guarded) {l l' : Nat} (hi : (t.stage i).held? = some l)
    (hj : (t.stage j).held? = some l') (hk : t.key i = t.key j) : i = j := by
  have hl := h.listed i l (Stage.claim?_of_held? hi)
  have hl' := h.listed j l' (Stage.claim?_of_held? hj)
  rw [hk, hl'] at hl
  cases hl
  exact h.excluded i j l hi hj

/-- Whoever holds a lock for the key of a message that waits for a lock holds that lock. -/
theorem isHeld_of_key (h : t.Guarded) {l l' : Nat} (hi : t.stage i = .waiting l)
    (hj : (t.stage j).held? = some l') (hk : t.key j = t.key i) : t.isHeld l = true := by
  have hl := h.listed i l (by rw [hi]; rfl)
  have hl' := h.listed j l' (Stage.claim?_of_held? hj)
  rw [hk, hl] at hl'
  cases hl'
  exact List.any_eq_true.2 ⟨j, List.mem_finRange j, by simp [hj]⟩

/-- A message comes to a stage in which it has a claim to nothing but the lock in the table, and holds
nothing that another holds. -/
theorem enter (h : t.Guarded)
    (hc : ∀ l, g.claim? = some l → t.locks.get? (t.key i) = some l)
    (he : ∀ l, g.held? = some l → ∀ j, j ≠ i → (t.stage j).held? ≠ some l) :
    (t.enter i g).Guarded := by
  refine ⟨fun j l hj => ?_, fun j k l hj hk => ?_⟩
  · by_cases hji : j = i
    · rw [hji, enter_self] at hj
      rw [hji]
      exact hc l hj
    · rw [enter_ne hji] at hj
      exact h.listed j l hj
  · by_cases hji : j = i <;> by_cases hki : k = i
    · rw [hji, hki]
    · rw [hji, enter_self] at hj
      rw [enter_ne hki] at hk
      exact absurd hk (he l hj k hki)
    · rw [hki, enter_self] at hk
      rw [enter_ne hji] at hj
      exact absurd hj (he l hk j hji)
    · rw [enter_ne hji] at hj
      rw [enter_ne hki] at hk
      exact h.excluded j k l hj hk

/-- Every step keeps the locks in order. -/
theorem move (h : t.Guarded) (hmove : Move i t t') : t'.Guarded := by
  cases hmove with
  | found hs hl => exact h.enter (fun l' hl' => by cases hl'; exact hl) fun l' hl' => nomatch hl'
  | made hs hl =>
    have hmade : Guarded { t with
        locks := t.locks.insert (t.key i) t.made, made := t.made + 1 } := by
      refine ⟨fun j l hj => ?_, h.excluded⟩
      have hlisted := h.listed j l hj
      show (t.locks.insert _ _).get? (t.key j) = some l
      rw [Table.get?_insert, if_neg]
      · exact hlisted
      · intro hk
        rw [hk, hl] at hlisted
        cases hlisted
    refine hmade.enter (fun l hg => ?_) fun l hg => nomatch hg
    cases hg
    exact (Table.get?_insert _ _ _ _).trans (if_pos rfl)
  | @locked l hs hheld =>
    refine h.enter (fun l' hl' => ?_) fun l' hl' j _ hj => ?_
    · cases hl'
      exact h.listed i l (by rw [hs]; rfl)
    · cases hl'
      have hany : t.isHeld l = true := List.any_eq_true.2 ⟨j, List.mem_finRange j, by simp [hj]⟩
      cases hheld.symm.trans hany
  | @asked l r next log a w hs ha =>
    have hstore : Guarded { t with store := w.store } := ⟨h.listed, h.excluded⟩
    refine hstore.enter (fun l' hl' => ?_) fun l' hl' j hji hj => ?_
    · cases hl'
      exact h.listed i l (by rw [hs]; rfl)
    · cases hl'
      exact hji (h.excluded j i l hj (by rw [hs]; rfl))
  | @done l report log hs =>
    refine h.enter (fun l' hl' => ?_) fun l' hl' => nomatch hl'
    cases hl'
    exact h.listed i l (by rw [hs]; rfl)
  | kept hs => exact h.enter (fun l' hl' => nomatch hl') fun l' hl' => nomatch hl'
  | @tidied l x l' hs hl h2 =>
    have hleaving : (t.enter i (.leaving l x)).Guarded :=
      h.enter (fun l' hl' => nomatch hl') fun l' hl' => nomatch hl'
    refine ⟨fun j m hj => ?_, hleaving.excluded⟩
    have hji : j ≠ i := by
      rintro rfl
      rw [enter_self] at hj
      cases hj
    rw [enter_ne hji] at hj
    have hlisted := h.listed j m hj
    show (t.locks.erase (t.key i)).get? (t.key j) = some m
    rw [Table.get?_erase, if_neg]
    · exact hlisted
    · -- another message with a claim to the lock would have a third handle of it
      intro hk
      rw [hk, hl] at hlisted
      cases hlisted
      have hi := h.listed i l (by rw [hs]; rfl)
      rw [hl] at hi
      cases hi
      have h3 := three_le_handles hl hji (Stage.lock?_of_claim? hj) (by rw [hs]; rfl)
      omega
  | left hs => exact h.enter (fun l' hl' => nomatch hl') fun l' hl' => nomatch hl'

end Guarded

end Traffic

end Dialogue
