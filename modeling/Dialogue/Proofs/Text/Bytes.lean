/-
The bytes of a text. Texts are compared character by character; comparing their bytes comes to the
same (`bytes_le`), because the encoding of the smaller character is the smaller one at the first
byte in which the two differ. The order is total, so that whatever is sorted by its texts is in order
(`pairwise_mergeSort`).
-/
namespace Dialogue.Text

/-- The bytes of a text, in UTF-8. -/
def bytes (s : String) : List UInt8 :=
  s.toByteArray.data.toList

theorem bytes_eq (s : String) : bytes s = s.toList.flatMap String.utf8EncodeChar := by
  rw [bytes, ← String.utf8Encode_toList]
  simp [List.utf8Encode]

/-! ## One character -/

/-- Lists of bytes are compared at their heads first. -/
theorem ofNat_cons_lt (x y : Nat) (xs ys : List UInt8) (hx : x < 256) (hy : y < 256) :
    UInt8.ofNat x :: xs < UInt8.ofNat y :: ys ↔ x < y ∨ x = y ∧ xs < ys := by
  rw [List.cons_lt_cons_iff, UInt8.lt_iff_toNat_lt, ← UInt8.toNat_inj, UInt8.toNat_ofNat',
    UInt8.toNat_ofNat', Nat.mod_eq_of_lt (by simpa using hx), Nat.mod_eq_of_lt (by simpa using hy)]

/-- The smaller of two numbers has the smaller quotient, or the smaller rest. -/
theorem digit_lt {m n : Nat} (h : m < n) :
    m / 64 < n / 64 ∨ m / 64 = n / 64 ∧ m % 64 < n % 64 := by
  omega

/-- The smaller character has the smaller encoding, whatever follows. -/
theorem encode_lt {a b : Char} (h : a < b) (xs ys : List UInt8) :
    String.utf8EncodeChar a ++ xs < String.utf8EncodeChar b ++ ys := by
  have hv : a.val.toNat < b.val.toNat := h
  have hb : b.val.toNat < 0x110000 := by
    rcases b.valid with h | h
    · have : b.val.toNat < 0xd800 := h
      omega
    · exact h.2
  unfold String.utf8EncodeChar
  generalize a.val.toNat = m at *
  generalize b.val.toNat = n at *
  dsimp only
  -- by the lengths of the two encodings; where they differ, the first bytes do
  split
  · split
    · simp (disch := omega) only [List.cons_append, ofNat_cons_lt]
      omega
    · split
      · simp (disch := omega) only [List.cons_append, ofNat_cons_lt]
        omega
      · split <;> (simp (disch := omega) only [List.cons_append, ofNat_cons_lt]; omega)
  · rw [if_neg (show ¬ n ≤ 0x7f by omega)]
    split
    · split
      · simp (disch := omega) only [List.cons_append, ofNat_cons_lt]
        omega
      · split <;> (simp (disch := omega) only [List.cons_append, ofNat_cons_lt]; omega)
    · rw [if_neg (show ¬ n ≤ 0x7ff by omega)]
      split
      · split <;> (simp (disch := omega) only [List.cons_append, ofNat_cons_lt]; omega)
      · rw [if_neg (show ¬ n ≤ 0xffff by omega)]
        simp (disch := omega) only [List.cons_append, ofNat_cons_lt]
        -- four bytes each: the digits are compared one by one, from the last to the first
        have hm : m / 262144 = m / 64 / 64 / 64 ∧ m / 4096 = m / 64 / 64 := by omega
        have hn : n / 262144 = n / 64 / 64 / 64 ∧ n / 4096 = n / 64 / 64 := by omega
        have hn8 : n / 64 / 64 / 64 < 8 := by omega
        rw [hm.1, hn.1, hm.2, hn.2]
        clear hm hn hb
        rcases digit_lt hv with h0 | ⟨e0, h0⟩
        · rcases digit_lt h0 with h1 | ⟨e1, h1⟩
          · rcases digit_lt h1 with h2 | ⟨e2, h2⟩
            · omega
            · omega
          · omega
        · omega

/-! ## Texts -/

theorem flatMap_encode_lt {l m : List Char} (h : l < m) :
    l.flatMap String.utf8EncodeChar < m.flatMap String.utf8EncodeChar := by
  induction h with
  | @nil c m =>
    rw [List.flatMap_nil, List.flatMap_cons]
    cases he : String.utf8EncodeChar c with
    | nil => exact absurd he String.utf8EncodeChar_ne_nil
    | cons b bs => exact List.nil_lt_cons ..
  | rel hc =>
    rw [List.flatMap_cons, List.flatMap_cons]
    exact encode_lt hc _ _
  | cons _ ih =>
    rw [List.flatMap_cons, List.flatMap_cons]
    exact List.append_left_lt ih

theorem bytes_lt {s t : String} (h : s < t) : bytes s < bytes t := by
  rw [bytes_eq, bytes_eq]
  exact flatMap_encode_lt h

/-- The order of texts is that of their bytes. -/
theorem bytes_le {s t : String} : bytes s ≤ bytes t ↔ s ≤ t := by
  constructor
  · intro h
    rw [← String.not_lt]
    intro hts
    exact List.not_lt.2 h (bytes_lt hts)
  · intro h
    by_cases he : s = t
    · rw [he]
      exact List.le_refl _
    · have hst : s < t := by
        rw [← String.not_le]
        exact fun hts => he (String.le_antisymm h hts)
      exact List.le_of_lt (bytes_lt hst)

/-! ## Sorting by texts -/

theorem pairwise_mergeSort {α : Type} (key : α → String) (l : List α) :
    (l.mergeSort fun a b => decide (key a ≤ key b)).Pairwise fun a b => key a ≤ key b := by
  have h : (l.mergeSort fun a b => decide (key a ≤ key b)).Pairwise fun a b =>
      decide (key a ≤ key b) = true := by
    refine List.pairwise_mergeSort (fun a b c hab hbc => ?_) (fun a b => ?_) l
    · exact decide_eq_true (String.le_trans (of_decide_eq_true hab) (of_decide_eq_true hbc))
    · simpa using String.le_total (key a) (key b)
  exact h.imp of_decide_eq_true

theorem mergeSort_eq_of_perm {l l' : List String} (h : l.Perm l') :
    (l.mergeSort fun a b => decide (a ≤ b)) = l'.mergeSort fun a b => decide (a ≤ b) := by
  have hperm := (List.mergeSort_perm l fun a b => decide (a ≤ b)).trans
    (h.trans (List.mergeSort_perm l' fun a b => decide (a ≤ b)).symm)
  refine hperm.eq_of_pairwise ?_ (pairwise_mergeSort (fun a => a) l)
    (pairwise_mergeSort (fun a => a) l')
  intro a b _ _ hab hba
  exact String.le_antisymm hab hba

end Dialogue.Text
