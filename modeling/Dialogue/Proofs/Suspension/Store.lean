/-
The entry of one sender in the store of suspensions: what writing and deleting make of it, and
that only the last of several writes counts.
-/
import Dialogue.Suspension.Store

namespace Dialogue

namespace SuspensionStore

variable (s : SuspensionStore) (t u : String)

/-- A store that neither refuses reads nor writes. -/
structure Works : Prop where
  readable : s.readable = true
  writable : s.writable = true

theorem Works.put {s : SuspensionStore} (h : s.Works) (t u : String) (st : Suspension) (ttl : Nat) :
    (s.put t u st ttl).Works := ⟨h.readable, h.writable⟩

theorem Works.drop {s : SuspensionStore} (h : s.Works) (t u : String) : (s.drop t u).Works :=
  ⟨h.readable, h.writable⟩

theorem Works.set {s : SuspensionStore} (h : s.Works) (t u : String) (st : Suspension) (ttl : Nat) :
    (s.set t u st ttl).2.Works := by
  unfold SuspensionStore.set
  split
  · exact h.put t u st ttl
  · exact h

theorem Works.delete {s : SuspensionStore} (h : s.Works) (t u : String) :
    (s.delete t u).2.Works := by
  unfold SuspensionStore.delete
  split
  · exact h.drop t u
  · exact h

theorem get_eq {s : SuspensionStore} (h : s.readable = true) : s.get t u = .ok (s.peek t u) := by
  unfold get; rw [if_pos h]

theorem set_eq {s : SuspensionStore} (h : s.writable = true) (st : Suspension) (ttl : Nat) :
    s.set t u st ttl = (.ok (), s.put t u st ttl) := by
  unfold set; rw [if_pos h]

theorem delete_eq {s : SuspensionStore} (h : s.writable = true) :
    s.delete t u = (.ok (), s.drop t u) := by
  unfold delete; rw [if_pos h]

theorem peek_put (st : Suspension) {ttl : Nat} (h : 0 < ttl) :
    (s.put t u st ttl).peek t u = some st := by
  unfold peek put
  rw [Table.get?_insert, if_pos rfl]
  simp [h]

theorem peek_drop : (s.drop t u).peek t u = none := by
  unfold peek drop
  rw [Table.get?_erase, if_pos rfl]

theorem put_put (a b : Suspension) (m n : Nat) : (s.put t u a m).put t u b n = s.put t u b n := by
  unfold put
  simp only [Table.insert_insert]

theorem drop_drop : (s.drop t u).drop t u = s.drop t u := by
  simp [drop, Table.erase]

variable {s t u} {t' u' : String} {st : Suspension}

/-- What is found after writing was written or was there before. -/
theorem of_peek_put {a : Suspension} {ttl : Nat} (h : (s.put t' u' a ttl).peek t u = some st) :
    st = a ∨ s.peek t u = some st := by
  unfold peek put at h
  rw [Table.get?_insert] at h
  by_cases hk : storeKey t u = storeKey t' u'
  · rw [if_pos hk] at h
    dsimp only at h
    split at h
    · exact .inl (Option.some.inj h).symm
    · cases h
  · rw [if_neg hk] at h
    exact .inr h

/-- What is found after deleting was there before. -/
theorem of_peek_drop (h : (s.drop t' u').peek t u = some st) : s.peek t u = some st := by
  unfold peek drop at h
  rw [Table.get?_erase] at h
  by_cases hk : storeKey t u = storeKey t' u'
  · rw [if_pos hk] at h
    cases h
  · rw [if_neg hk] at h
    exact h

/-- What is found later was there before. -/
theorem of_peek_advance {millis : Nat} (h : (s.advance millis).peek t u = some st) :
    s.peek t u = some st := by
  unfold peek advance at h
  unfold peek
  dsimp only at h
  split at h
  · split at h
    · rename_i hlt
      rw [← h]
      exact if_pos (by omega)
    · cases h
  · cases h

end SuspensionStore

end Dialogue
