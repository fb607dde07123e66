/-
The keys of the store. Everything that is kept for a sender is kept under one text, the tenant's id
and the user's with a colon between them, and what happens under one key is of no account to any
other (`set_frame`, `delete_frame`). Two senders have one key exactly if the ids of one read as those
of the other with the colon in another place (`storeKey_eq_iff`).
-/
import Dialogue.Proofs.Suspension.Store

namespace Dialogue

/-! ## One text for two ids -/

/-- Two ways to cut one text at a colon: the cuts are at the same colon, or one is further on. -/
theorem append_colon_eq_iff {t u t' u' : List Char} : t ++ ':' :: u = t' ++ ':' :: u' ↔
    (t = t' ∧ u = u') ∨ (∃ m, t' = t ++ ':' :: m ∧ u = m ++ ':' :: u') ∨
      ∃ m, t = t' ++ ':' :: m ∧ u' = m ++ ':' :: u := by
  constructor
  · intro h
    rcases List.append_eq_append_iff.1 h with ⟨a, ht, hu⟩ | ⟨a, ht, hu⟩
    · cases a with
      | nil =>
        obtain ⟨-, rfl⟩ := List.cons.inj hu
        exact .inl ⟨by simpa using ht.symm, rfl⟩
      | cons x m =>
        obtain ⟨rfl, rfl⟩ := List.cons.inj hu
        exact .inr (.inl ⟨m, ht, rfl⟩)
    · cases a with
      | nil =>
        obtain ⟨-, rfl⟩ := List.cons.inj hu
        exact .inl ⟨by simpa using ht, rfl⟩
      | cons x m =>
        obtain ⟨rfl, rfl⟩ := List.cons.inj hu
        exact .inr (.inr ⟨m, ht, rfl⟩)
  · rintro (⟨rfl, rfl⟩ | ⟨m, rfl, rfl⟩ | ⟨m, rfl, rfl⟩)
    · rfl
    · simp
    · simp

theorem exists_colon_iff {a b x y : String} : (∃ m, a = b ++ ":" ++ m ∧ x = m ++ ":" ++ y) ↔
    ∃ m, a.toList = b.toList ++ ':' :: m ∧ x.toList = m ++ ':' :: y.toList := by
  constructor
  · rintro ⟨m, rfl, rfl⟩
    exact ⟨m.toList, by simp, by simp⟩
  · rintro ⟨m, ha, hx⟩
    refine ⟨String.ofList m, ?_, ?_⟩
    · exact String.toList_inj.1 (by simpa using ha)
    · exact String.toList_inj.1 (by simpa using hx)

/-- When two senders have one key: they are the same, or the tenant of one begins with that of the
other and a colon, and the rest of it stands before a colon in the other's user. -/
theorem storeKey_eq_iff {t u t' u' : String} : storeKey t u = storeKey t' u' ↔
    (t = t' ∧ u = u') ∨ (∃ m, t' = t ++ ":" ++ m ∧ u = m ++ ":" ++ u') ∨
      ∃ m, t = t' ++ ":" ++ m ∧ u' = m ++ ":" ++ u := by
  have hkey : ∀ t u : String,
      (storeKey t u).toList = "flow_state:".toList ++ (t.toList ++ ':' :: u.toList) := by
    intro t u
    simp [storeKey]
  rw [← String.toList_inj, hkey, hkey, List.append_cancel_left_eq, append_colon_eq_iff,
    exists_colon_iff, exists_colon_iff, String.toList_inj, String.toList_inj]

/-- Where no tenant has a colon in its id, no two senders have one key. -/
theorem storeKey_inj {t u t' u' : String} (ht : ':' ∉ t.toList) (ht' : ':' ∉ t'.toList)
    (h : storeKey t u = storeKey t' u') : t = t' ∧ u = u' := by
  rcases storeKey_eq_iff.1 h with h | ⟨m, rfl, -⟩ | ⟨m, rfl, -⟩
  · exact h
  · exact absurd (by simp) ht'
  · exact absurd (by simp) ht

/-! ## One key at a time -/

namespace SuspensionStore

/-- Senders with one key have one suspension. -/
theorem peek_of_key_eq {t u t' u' : String} (h : storeKey t u = storeKey t' u')
    (s : SuspensionStore) : s.peek t u = s.peek t' u' := by
  unfold peek
  rw [h]

/-- Two stores that cannot be told apart by what they have under one key. -/
structure AgreeAt (key : String) (s s' : SuspensionStore) : Prop where
  now : s.now = s'.now
  readable : s.readable = s'.readable
  writable : s.writable = s'.writable
  entry : s.entries.get? key = s'.entries.get? key

namespace AgreeAt

variable {key : String} {s s' s'' : SuspensionStore}

theorem refl (key : String) (s : SuspensionStore) : AgreeAt key s s := ⟨rfl, rfl, rfl, rfl⟩

theorem symm (h : AgreeAt key s s') : AgreeAt key s' s :=
  ⟨h.now.symm, h.readable.symm, h.writable.symm, h.entry.symm⟩

theorem trans (h : AgreeAt key s s') (h' : AgreeAt key s' s'') : AgreeAt key s s'' :=
  ⟨h.now.trans h'.now, h.readable.trans h'.readable, h.writable.trans h'.writable,
    h.entry.trans h'.entry⟩

theorem peek_eq {t u : String} (h : AgreeAt (storeKey t u) s s') : s.peek t u = s'.peek t u := by
  unfold peek
  rw [h.entry, h.now]

theorem get_eq {t u : String} (h : AgreeAt (storeKey t u) s s') : s.get t u = s'.get t u := by
  unfold SuspensionStore.get
  rw [h.readable, h.peek_eq]

theorem set (h : AgreeAt key s s') (t u : String) (st : Suspension) (ttl : Nat) :
    (s.set t u st ttl).1 = (s'.set t u st ttl).1 ∧
      AgreeAt key (s.set t u st ttl).2 (s'.set t u st ttl).2 := by
  unfold SuspensionStore.set
  rw [← h.writable]
  split
  · refine ⟨rfl, h.now, h.readable, h.writable, ?_⟩
    show (s.entries.insert _ _).get? key = (s'.entries.insert _ _).get? key
    rw [Table.get?_insert, Table.get?_insert, h.entry, h.now]
  · exact ⟨rfl, h⟩

theorem delete (h : AgreeAt key s s') (t u : String) :
    (s.delete t u).1 = (s'.delete t u).1 ∧ AgreeAt key (s.delete t u).2 (s'.delete t u).2 := by
  unfold SuspensionStore.delete
  rw [← h.writable]
  split
  · refine ⟨rfl, h.now, h.readable, h.writable, ?_⟩
    show (s.entries.erase _).get? key = (s'.entries.erase _).get? key
    rw [Table.get?_erase, Table.get?_erase, h.entry]
  · exact ⟨rfl, h⟩

end AgreeAt

variable {key t u : String} (s : SuspensionStore)

/-- Writing under one key is of no account to another. -/
theorem set_frame (hk : key ≠ storeKey t u) (st : Suspension) (ttl : Nat) :
    AgreeAt key s (s.set t u st ttl).2 := by
  unfold SuspensionStore.set
  split
  · refine ⟨rfl, rfl, rfl, ?_⟩
    show s.entries.get? key = (s.entries.insert _ _).get? key
    rw [Table.get?_insert, if_neg hk]
  · exact .refl key s

/-- Deleting under one key is of no account to another. -/
theorem delete_frame (hk : key ≠ storeKey t u) : AgreeAt key s (s.delete t u).2 := by
  unfold SuspensionStore.delete
  split
  · refine ⟨rfl, rfl, rfl, ?_⟩
    show s.entries.get? key = (s.entries.erase _).get? key
    rw [Table.get?_erase, if_neg hk]
  · exact .refl key s

/-! ## Whose suspension it is -/

/-- Every suspension stands under the key of the sender whose ids it carries. -/
def Filed : Prop :=
  ∀ key e, s.entries.get? key = some e → storeKey e.state.tenantId e.state.userId = key

variable {s}

theorem Filed.empty : Filed {} := by
  intro key e h
  cases h

theorem Filed.peek (h : s.Filed) {st : Suspension} (hp : s.peek t u = some st) :
    storeKey st.tenantId st.userId = storeKey t u := by
  unfold SuspensionStore.peek at hp
  split at hp
  · rename_i e he
    split at hp
    · cases hp
      exact h _ e he
    · cases hp
  · cases hp

theorem Filed.set (h : s.Filed) {st : Suspension} (ht : st.tenantId = t) (hu : st.userId = u)
    (ttl : Nat) : (s.set t u st ttl).2.Filed := by
  unfold SuspensionStore.set
  split
  · intro key e he
    change (s.entries.insert (storeKey t u) ⟨st, s.now + ttl⟩).get? key = some e at he
    rw [Table.get?_insert] at he
    split at he
    · rename_i hk
      cases he
      rw [ht, hu, hk]
    · exact h key e he
  · exact h

theorem Filed.delete (h : s.Filed) (t u : String) : (s.delete t u).2.Filed := by
  unfold SuspensionStore.delete
  split
  · intro key e he
    change (s.entries.erase (storeKey t u)).get? key = some e at he
    rw [Table.get?_erase] at he
    split at he
    · cases he
    · exact h key e he
  · exact h

end SuspensionStore

end Dialogue
