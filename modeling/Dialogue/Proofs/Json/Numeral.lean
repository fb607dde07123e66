/-
Whole numbers read back. The digits of a natural number of 64 bits are read as that number, whatever
follows that could not belong to it (`numberDoc_digits`).
-/
import Dialogue.Json.Numeral
import Dialogue.Proofs.Instant.Readback

namespace Dialogue.Json

/-! ## Digits -/

theorem le_ofDigitChars (ds : List Char) (n : Nat) : n ≤ Nat.ofDigitChars 10 ds n := by
  induction ds generalizing n with
  | nil => exact Nat.le_refl n
  | cons d ds ih =>
    calc n ≤ 10 * n + (d.toNat - '0'.toNat) := by omega
      _ ≤ Nat.ofDigitChars 10 (d :: ds) n := ih _

/-- Digits whose value 64 bits hold are all absorbed. -/
theorem absorb_fits {ds : List Char} {n : Nat} (h : Nat.ofDigitChars 10 ds n < Number.wordLimit) :
    absorb n ds = (Nat.ofDigitChars 10 ds n, []) := by
  induction ds generalizing n with
  | nil => rfl
  | cons d ds ih =>
    have hnext : 10 * n + (d.toNat - '0'.toNat) < Number.wordLimit :=
      Nat.lt_of_le_of_lt (le_ofDigitChars ds _) h
    rw [absorb, if_pos hnext]
    exact ih h

/-- A number is written with at least one digit. -/
theorem toDigits_cons (n : Nat) : ∃ d ds, Nat.toDigits 10 n = d :: ds ∧ d.isDigit := by
  obtain ⟨d, ds, hds⟩ := List.exists_cons_of_ne_nil (Nat.toDigits_ne_nil (n := n) (b := 10))
  have hd : d ∈ Nat.toDigits 10 n := hds ▸ List.mem_cons_self
  exact ⟨d, ds, hds, Nat.isDigit_of_mem_toDigits (by decide) (by decide) hd⟩

theorem digitChar_ne_zero : ∀ n < 10, 0 < n → Nat.digitChar n ≠ '0' := by
  decide

/-- No zero stands in front of the digits of a positive number. -/
theorem toDigits_head {n : Nat} (h : 0 < n) : ∃ d ds, Nat.toDigits 10 n = d :: ds ∧ d ≠ '0' := by
  induction n using Nat.strongRecOn with
  | _ n ih =>
    rw [Nat.toDigits_eq_if (by decide)]
    split
    · next hn => exact ⟨n.digitChar, [], rfl, digitChar_ne_zero n hn h⟩
    · next hn =>
      obtain ⟨d, ds, hd, hne⟩ := ih (n / 10) (by omega) (by omega)
      exact ⟨d, ds ++ [(n % 10).digitChar], by rw [hd, List.cons_append], hne⟩

/-! ## Numerals -/

/-- Whether no number that stands in front of the text goes on in it. -/
def EndsNumber (cs : List Char) : Prop :=
  ∀ c ∈ cs.head?, c.isDigit = false ∧ c ≠ '.' ∧ c ≠ 'e' ∧ c ≠ 'E'

theorem endsNumber_nil : EndsNumber [] := by
  simp [EndsNumber]

theorem endsNumber_cons {c : Char} (cs : List Char)
    (h : c.isDigit = false ∧ c ≠ '.' ∧ c ≠ 'e' ∧ c ≠ 'E') : EndsNumber (c :: cs) := by
  simpa [EndsNumber] using h

section

variable {rest : List Char}

theorem EndsNumber.stops (h : EndsNumber rest) : Instant.Stops rest :=
  fun c hc => (h c hc).1

theorem digitsOf_append {ds : List Char} (hne : ds ≠ []) (hd : ∀ c ∈ ds, c.isDigit)
    (h : EndsNumber rest) : digitsOf (ds ++ rest) = .ok (ds, rest) := by
  obtain ⟨d, ds, rfl⟩ := List.exists_cons_of_ne_nil hne
  have hdrop : (d :: ds ++ rest).drop (d :: ds).length = rest := List.drop_left
  simp only [digitsOf, Instant.takeWhile_digits hd h.stops, hdrop]

theorem wholeDigits_toDigits (n : Nat) (h : EndsNumber rest) :
    wholeDigits (Nat.toDigits 10 n ++ rest) = .ok (Nat.toDigits 10 n, rest) := by
  have hdigits : digitsOf (Nat.toDigits 10 n ++ rest) = .ok (Nat.toDigits 10 n, rest) :=
    digitsOf_append Nat.toDigits_ne_nil
      (fun c hc => Nat.isDigit_of_mem_toDigits (by decide) (by decide) hc) h
  rw [← hdigits]
  unfold wholeDigits
  split
  · next d cs hcs =>
    -- a zero in front is the number zero, and what follows is no digit
    rcases Nat.eq_zero_or_pos n with rfl | hn
    · obtain rfl : rest = d :: cs := by simpa using hcs
      simp [(h d rfl).1]
    · obtain ⟨e, es, he, hne⟩ := toDigits_head hn
      rw [he] at hcs
      exact absurd (List.cons.inj hcs).1 hne
  · rfl

theorem placesPart_ends (h : EndsNumber rest) : placesPart rest = .ok (none, rest) := by
  unfold placesPart
  split
  · exact absurd rfl (h _ rfl).2.1
  · rfl

theorem powerPart_ends (h : EndsNumber rest) : powerPart rest = .ok (none, rest) := by
  cases rest with
  | nil => rfl
  | cons c cs =>
    obtain ⟨-, -, he, hE⟩ := h c rfl
    simp [powerPart, he, hE]

theorem numeral_toDigits (n : Nat) (h : EndsNumber rest) :
    numeral (Nat.toDigits 10 n ++ rest) =
      .ok (⟨false, Nat.toDigits 10 n, none, none⟩, rest) := by
  obtain ⟨d, ds, hds, hd⟩ := toDigits_cons n
  have hwhole := wholeDigits_toDigits n h
  rw [hds, List.cons_append] at hwhole ⊢
  unfold numeral
  split
  next negative cs hsign =>
  obtain ⟨rfl, rfl⟩ : negative = false ∧ cs = d :: (ds ++ rest) := by
    split at hsign
    · next he => cases he; cases hd
    · cases hsign; exact ⟨rfl, rfl⟩
  simp [hwhole, placesPart_ends h, powerPart_ends h, bind, Except.bind]

theorem number?_toDigits {n : Nat} (h : n < Number.wordLimit) :
    Numeral.number? ⟨false, Nat.toDigits 10 n, none, none⟩ = some (.int n) := by
  have hvalue : Nat.ofDigitChars 10 (Nat.toDigits 10 n) 0 = n := Nat.ofDigitChars_ten_toDigits
  simp [Numeral.number?, absorb_fits (hvalue.symm ▸ h), hvalue]

/-- The digits of a number of 64 bits are read as that number. -/
theorem numberDoc_digits {n : Nat} (hn : n < Number.wordLimit) (h : EndsNumber rest) :
    numberDoc (Nat.toDigits 10 n ++ rest) = (.number (.int n), some rest) := by
  simp only [numberDoc, numeral_toDigits n h, number?_toDigits hn]

end

end Dialogue.Json
