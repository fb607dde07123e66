/-
Instants read back. Reading what `Instant.text` writes gives the instant again, whatever its year,
its fraction of a second, and also in a leap second (`read_text`).
-/
import Dialogue.Instant.Rfc3339
import Mathlib.Algebra.Group.Nat.Defs

namespace Dialogue.Instant

/-! ## Digits -/

theorem valueOf_eq (ds : List Char) : valueOf ds = Nat.ofDigitChars 10 ds 0 :=
  Nat.ofDigitChars_eq_foldl.symm

theorem valueOf_padded (width n : Nat) : valueOf (padded width n) = n := by
  simp [valueOf_eq, padded, Nat.ofDigitChars_append]

theorem isDigit_of_mem_padded {width n : Nat} {c : Char} (h : c ∈ padded width n) : c.isDigit := by
  rcases List.mem_append.mp h with h | h
  · rw [List.eq_of_mem_replicate h]; rfl
  · exact Nat.isDigit_of_mem_toDigits (by decide) (by decide) h

theorem length_padded {width n : Nat} (hw : 0 < width) (hn : n < 10 ^ width) :
    (padded width n).length = width := by
  have := (Nat.length_toDigits_le_iff (by decide) hw).mpr hn
  simp only [padded, List.length_append, List.length_replicate]
  omega

theorem padded_ne_nil (width n : Nat) : padded width n ≠ [] := by
  simp [padded, Nat.toDigits_ne_nil]

/-- Whether digits end in front of a text. -/
def Stops (cs : List Char) : Prop :=
  ∀ c ∈ cs.head?, c.isDigit = false

theorem takeWhile_digits {ds rest : List Char} (hd : ∀ c ∈ ds, c.isDigit) (hr : Stops rest) :
    (ds ++ rest).takeWhile Char.isDigit = ds := by
  rw [List.takeWhile_append_of_pos hd]
  cases rest with
  | nil => simp
  | cons c rest => simp [hr c rfl]

theorem stops_take {rest : List Char} (hr : Stops rest) (n : Nat) : Stops (rest.take n) := by
  cases n with
  | zero => simp [Stops]
  | succ n => cases rest <;> simp_all [Stops]

/-! ## Numbers -/

/-- What digits in front of a text are read as, if these are the ones that count. -/
theorem number_of_takeWhile (width : Option Nat) {ds : List Char} (rest : List Char)
    (hne : ds ≠ []) (hv : valueOf ds < numberLimit)
    (h : (((width.map (ds ++ rest).take).getD (ds ++ rest)).takeWhile Char.isDigit) = ds) :
    number width (ds ++ rest) = .ok (valueOf ds, rest) := by
  obtain ⟨d, ds, rfl⟩ := List.exists_cons_of_ne_nil hne
  have hdrop : (d :: ds ++ rest).drop (d :: ds).length = rest := List.drop_left
  cases width <;> simp_all [number]

/-- Digits of a fixed width are read as their value, whatever follows. -/
theorem number_padded {width n : Nat} (hw : 0 < width) (hn : n < 10 ^ width) (hv : n < numberLimit)
    (rest : List Char) : number (some width) (padded width n ++ rest) = .ok (n, rest) := by
  have hd : (padded width n ++ []).takeWhile Char.isDigit = padded width n :=
    takeWhile_digits (fun c => isDigit_of_mem_padded) (by simp [Stops])
  rw [List.append_nil] at hd
  have h := number_of_takeWhile (some width) rest (padded_ne_nil width n)
    (by rwa [valueOf_padded]) (by simp [length_padded hw hn, hd])
  rwa [valueOf_padded] at h

/-- Digits are read as their value up to a character that is none. -/
theorem number_padded_stops (width : Nat) {n : Nat} (hv : n < numberLimit) {rest : List Char}
    (hr : Stops rest) : number none (padded width n ++ rest) = .ok (n, rest) := by
  have h := number_of_takeWhile none rest (padded_ne_nil width n)
    (by rwa [valueOf_padded]) (takeWhile_digits (fun c => isDigit_of_mem_padded) hr)
  rwa [valueOf_padded] at h

theorem isBlank_of_isDigit {c : Char} (h : c.isDigit) : Text.isBlank c = false := by
  have hc : 48 ≤ c.toNat ∧ c.toNat ≤ 57 := by
    simpa [Char.isDigit, UInt32.le_iff_toNat_le] using h
  simp [Text.isBlank, Text.blankChars, Text.CodeSet.contains]
  omega

/-- No blank stands in front of digits. -/
theorem skipBlanks_padded (width n : Nat) (rest : List Char) :
    skipBlanks (padded width n ++ rest) = padded width n ++ rest := by
  obtain ⟨d, ds, h⟩ := List.exists_cons_of_ne_nil (padded_ne_nil width n)
  have hd : d.isDigit := isDigit_of_mem_padded (h ▸ List.mem_cons_self)
  rw [h, List.cons_append, skipBlanks, List.dropWhile_cons_of_neg (by simp [isBlank_of_isDigit hd])]

/-! ## The parts of a date and a time -/

theorem twoDigits_padded {least greatest n : Nat} (hl : least ≤ n) (hg : n ≤ greatest)
    (hn : n < 100) (rest : List Char) :
    twoDigits least greatest (padded 2 n ++ rest) = .ok (n, rest) := by
  have hv : n < numberLimit := Nat.lt_trans hn (by decide)
  simp only [twoDigits, skipBlanks_padded, number_padded (by decide : 0 < 2) hn hv rest]
  simp [bind, Except.bind, hl, hg]

theorem separator_self {c : Char} (h : Text.isBlank c = false) (rest : List Char) :
    separator c (c :: rest) = .ok rest := by
  simp [separator, skipBlanks, h]

theorem skipBlanks_cons {c : Char} (h : Text.isBlank c = false) (cs : List Char) :
    skipBlanks (c :: cs) = c :: cs :=
  List.dropWhile_cons_of_neg (by simp [h])

/-- A year that has a property, which takes the place of the bounds of the reader: with these as
numerals, checking a proof means counting up to them. -/
def yearWithin (P : Int → Prop) [DecidablePred P] : Reader Int := fun cs => do
  let (n, rest) ← match skipBlanks cs with
    | '-' :: cs => do
      let (n, rest) ← number none cs
      pure (-(n : Int), rest)
    | '+' :: cs => do
      let (n, rest) ← number none cs
      pure ((n : Int), rest)
    | cs => do
      let (n, rest) ← number (some 4) cs
      pure ((n : Int), rest)
  if P n then .ok (n, rest) else .error .outOfRange

theorem yearPart_eq_yearWithin (cs : List Char) :
    yearPart cs = yearWithin (fun n => -(Nat.pow 2 31 : Int) ≤ n ∧ n < (Nat.pow 2 31 : Int)) cs :=
  rfl

section

variable {P : Int → Prop} [DecidablePred P] {n : Nat} {cs rest : List Char}

theorem yearWithin_minus (h : number none cs = .ok (n, rest)) (hn : P (-(n : Int))) :
    yearWithin P ('-' :: cs) = .ok (-(n : Int), rest) := by
  simp [yearWithin, skipBlanks_cons (by decide : Text.isBlank '-' = false), h, bind, Except.bind,
    pure, Except.pure, hn]

theorem yearWithin_plus (h : number none cs = .ok (n, rest)) (hn : P n) :
    yearWithin P ('+' :: cs) = .ok ((n : Int), rest) := by
  simp [yearWithin, skipBlanks_cons (by decide : Text.isBlank '+' = false), h, bind, Except.bind,
    pure, Except.pure, hn]

theorem yearWithin_digits {width m : Nat}
    (h : number (some 4) (padded width m ++ cs) = .ok (n, rest)) (hn : P n) :
    yearWithin P (padded width m ++ cs) = .ok ((n : Int), rest) := by
  obtain ⟨d, ds, hp⟩ := List.exists_cons_of_ne_nil (padded_ne_nil width m)
  have hd : d.isDigit := isDigit_of_mem_padded (hp ▸ List.mem_cons_self)
  have hs := skipBlanks_padded width m cs
  rw [hp, List.cons_append] at h hs ⊢
  unfold yearWithin
  rw [hs]
  split
  · next he => cases he; cases hd
  · next he => cases he; cases hd
  · simp [h, bind, Except.bind, pure, Except.pure, hn]

theorem yearWithin_yearChars {year : Int} (hy : leastYear ≤ year ∧ year ≤ greatestYear)
    (hn : P year) (rest : List Char) :
    yearWithin P (yearChars year ++ '-' :: rest) = .ok (year, '-' :: rest) := by
  have hr : Stops ('-' :: rest) := by simp [Stops]
  simp only [leastYear, greatestYear] at hy
  have hv : year.natAbs < numberLimit := by simp [numberLimit]; omega
  unfold yearChars
  split
  · next h =>
    -- four digits, and no sign
    have hnat : (year.toNat : Int) = year := Int.toNat_of_nonneg h.1
    have hread := number_padded (by decide : 0 < 4) (by omega : year.toNat < 10 ^ 4)
      (by omega : year.toNat < numberLimit) ('-' :: rest)
    have := yearWithin_digits hread (hnat.symm ▸ hn)
    rwa [hnat] at this
  split
  · next hneg =>
    have hsign : -(year.natAbs : Int) = year := by omega
    have := yearWithin_minus (number_padded_stops 4 hv hr) (hsign.symm ▸ hn)
    rwa [hsign] at this
  · next hpos =>
    have hsign : (year.natAbs : Int) = year := by omega
    have := yearWithin_plus (number_padded_stops 4 hv hr) (hsign.symm ▸ hn)
    rwa [hsign] at this

end

theorem yearPart_yearChars {year : Int} (hy : leastYear ≤ year ∧ year ≤ greatestYear)
    (rest : List Char) : yearPart (yearChars year ++ '-' :: rest) = .ok (year, '-' :: rest) := by
  rw [yearPart_eq_yearWithin]
  refine yearWithin_yearChars hy ?_ rest
  simp only [leastYear, greatestYear] at hy
  simp
  omega

theorem fraction_point {cs : List Char} {n : Nat} {rest : List Char}
    (h : number (some 9) cs = .ok (n, rest)) :
    fraction ('.' :: cs) =
      .ok (n * Nat.pow 10 (9 - (cs.length - rest.length)), rest.dropWhile Char.isDigit) := by
  simp only [fraction, h, bind, Except.bind]

/-- Up to nine places are read as what they stand for. -/
theorem fraction_padded {width n nano : Nat} (hw : 0 < width) (hw' : width ≤ 9)
    (hn : n < 10 ^ width) (hnano : n * 10 ^ (9 - width) = nano) :
    fraction ('.' :: padded width n ++ ['Z']) = .ok (nano, ['Z']) := by
  have hr : Stops ['Z'] := by simp [Stops]
  have hlen := length_padded hw hn
  have hv : n < numberLimit := calc
    n < 10 ^ width := hn
    _ ≤ 10 ^ 9 := Nat.pow_le_pow_right (by decide) hw'
    _ < numberLimit := by decide
  have htake : (padded width n ++ ['Z']).take 9 = padded width n ++ ['Z'].take (9 - width) := by
    rw [List.take_append, hlen, List.take_of_length_le (by omega)]
  have hread := number_of_takeWhile (some 9) ['Z'] (padded_ne_nil width n)
    (by rwa [valueOf_padded])
    (by simpa [htake] using takeWhile_digits (fun c => isDigit_of_mem_padded) (stops_take hr _))
  rw [valueOf_padded] at hread
  rw [List.cons_append, fraction_point hread, List.length_append, Nat.add_sub_cancel, hlen, ← hnano]
  rfl

theorem fraction_fractionChars {nano : Nat} (h : nano < nanosPerSecond) :
    fraction (fractionChars nano ++ ['Z']) = .ok (nano, ['Z']) := by
  unfold nanosPerSecond at h
  unfold fractionChars
  split
  · next h0 => rw [h0]; rfl
  split
  · next hm => exact fraction_padded (by decide) (by decide) (by omega) (by omega)
  split
  · next hm => exact fraction_padded (by decide) (by decide) (by omega) (by omega)
  · exact fraction_padded (by decide) (by decide) (by omega) (by omega)

theorem offsetPart_utc : offsetPart ['Z'] = .ok (0, []) := by
  rfl

/-! ## Whole instants -/

/-- The parts of a date give the date. -/
theorem ofParts?_date (d : Date) : Date.ofParts? d.year d.month d.day = some d := by
  simp [Date.ofParts?, d.year_mem, d.month_mem, d.day_mem]

/-- The parts of an instant in UTC give the instant. -/
theorem ofLocal?_utc (i : Instant) :
    ofLocal? i.date i.hour i.minute i.second i.nano 0 = some i := by
  have hh := i.hour_lt
  have hm := i.minute_lt
  have hlow : ¬ (i.hour : Int) * 60 + i.minute - 0 < 0 := by omega
  have hhigh : ¬ 1440 ≤ (i.hour : Int) * 60 + i.minute - 0 := by omega
  have hhour : (((i.hour : Int) * 60 + i.minute - 0) % 1440).toNat / 60 = i.hour := by omega
  have hminute : (((i.hour : Int) * 60 + i.minute - 0) % 1440).toNat % 60 = i.minute := by omega
  simp only [ofLocal?, hlow, hhigh, if_false, hhour, hminute]
  simp [ofParts?, hh, hm, i.second_lt, i.nano_lt]

theorem daysInMonth_le (year : Int) (month : Nat) : daysInMonth year month ≤ 31 := by
  unfold daysInMonth
  split <;> (try split) <;> decide

theorem middle_T (cs : List Char) : middle ('T' :: cs) = .ok cs :=
  rfl

/-- The second and the fraction that are written stand for the second and its nanoseconds, also in
a leap second, which is written as second 60. -/
theorem written_second (i : Instant) :
    ∃ second nano, second = (if nanosPerSecond ≤ i.nano then i.second + 1 else i.second) ∧
      nano = (if nanosPerSecond ≤ i.nano then i.nano - nanosPerSecond else i.nano) ∧
      second ≤ 60 ∧ nano < nanosPerSecond ∧
      (if second = 60 then (59, nano + nanosPerSecond) else (second, nano)) =
        (i.second, i.nano) := by
  have hs := i.second_lt
  have hn := i.nano_lt
  refine ⟨_, _, rfl, rfl, ?_⟩
  unfold nanosPerSecond at *
  split
  · next hleap =>
    obtain hn | ⟨h59, hn⟩ := hn
    · omega
    · simp only [h59, if_true, Prod.mk.injEq, true_and]
      omega
  · have : i.second ≠ 60 := by omega
    simp only [this, if_false, and_true]
    omega

/-- What is written for an instant is read as that instant. -/
theorem read_text (i : Instant) : Instant.read i.text = .ok i := by
  have hm := i.date.month_mem
  have hd := i.date.day_mem
  have hday : i.date.day ≤ 31 := Nat.le_trans hd.2 (daysInMonth_le _ _)
  have hh := i.hour_lt
  have hmin := i.minute_lt
  obtain ⟨second, nano, hsecond, hnano, hs, hn, hback⟩ := written_second i
  unfold Instant.read Instant.text chars dateChars
  simp only [← hsecond, ← hnano]
  simp only [String.toList_ofList, List.append_assoc, List.cons_append,
    yearPart_yearChars i.date.year_mem, bind, Except.bind,
    separator_self (by decide : Text.isBlank '-' = false),
    separator_self (by decide : Text.isBlank ':' = false), middle_T,
    twoDigits_padded hm.1 hm.2 (by omega), twoDigits_padded hd.1 hday (by omega),
    twoDigits_padded (Nat.zero_le _) (by omega : i.hour ≤ 23) (by omega),
    twoDigits_padded (Nat.zero_le _) (by omega : i.minute ≤ 59) (by omega),
    twoDigits_padded (Nat.zero_le _) hs (by omega), fraction_fractionChars hn, offsetPart_utc,
    ofParts?_date, hback, orFail]
  simp [skipBlanks, ofLocal?_utc]

end Dialogue.Instant
