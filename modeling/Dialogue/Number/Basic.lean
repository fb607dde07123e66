/-
Numbers of documents: whole numbers of 64 bits are kept exactly, and every other number is rounded to
a binary floating-point number of 53 bits. Those are computed with in exact arithmetic: a value is a
whole mantissa times a power of two, and an operation computes the exact result and rounds it once, to
the nearest representable value and to an even mantissa on a tie.
-/
namespace Dialogue

/-- The number `mantissa · 2 ^ exponent`, with its sign. -/
structure Binary64 where
  negative : Bool
  mantissa : Nat
  exponent : Int
deriving DecidableEq, Repr

namespace Binary64

/-- The least exponent, that of the subnormal numbers. -/
def leastExponent : Int := -1074

/-- The greatest exponent of a finite number. -/
def greatestExponent : Int := 971

/-- Positive zero. -/
def zero : Binary64 := ⟨false, 0, leastExponent⟩

/-- The number with the given sign. -/
def withSign (x : Binary64) (negative : Bool) : Binary64 :=
  { x with negative }

/-- The magnitude as a fraction of natural numbers. -/
def fraction (x : Binary64) : Nat × Nat :=
  if 0 ≤ x.exponent then (x.mantissa * Nat.pow 2 x.exponent.toNat, 1)
  else (x.mantissa, Nat.pow 2 (-x.exponent).toNat)

/-- The quotient in units of `2 ^ e`, rounded to the nearest, a tie to even. -/
def roundIn (num den : Nat) (e : Int) : Nat :=
  let n := num * Nat.pow 2 (-e).toNat
  let d := den * Nat.pow 2 e.toNat
  let q := n / d
  let r := n % d
  if d < 2 * r || (2 * r == d && q % 2 == 1) then q + 1 else q

/-- The exponent in whose units the quotient has 53 bits, or the least one. -/
def unitFor (num den : Nat) : Int :=
  let guess : Int := (num.log2 : Int) - (den.log2 : Int) - 53
  let (n, d) := (num * Nat.pow 2 (-guess).toNat, den * Nat.pow 2 guess.toNat)
  let e := if n < Nat.pow 2 53 * d then guess else guess + 1
  max e leastExponent

/-- The nearest number to `num / den`, or `none` where the quotient is too large. -/
def ofRatio? (num den : Nat) : Option Binary64 :=
  if num == 0 || den == 0 then some zero
  else
    let e := unitFor num den
    let m := roundIn num den e
    let x : Binary64 := if m == Nat.pow 2 53 then ⟨false, Nat.pow 2 52, e + 1⟩ else ⟨false, m, e⟩
    if greatestExponent < x.exponent then none else some x

/-- The magnitude of the product, rounded. -/
def mul? (x y : Binary64) : Option Binary64 :=
  ofRatio? (x.fraction.1 * y.fraction.1) (x.fraction.2 * y.fraction.2)

/-- The magnitude of the quotient, rounded. -/
def div? (x y : Binary64) : Option Binary64 :=
  ofRatio? (x.fraction.1 * y.fraction.2) (x.fraction.2 * y.fraction.1)

/-- The number nearest to a power of ten. -/
def powTen? (k : Nat) : Option Binary64 :=
  ofRatio? (Nat.pow 10 k) 1

/-- The number nearest to `digits · 10 ^ exponent`, rounded once. -/
def ofDecimal? (digits : Nat) (exponent : Int) : Option Binary64 :=
  if exponent < -(400 + (digits.log2 : Int)) then some zero
  else if 400 < exponent && digits != 0 then none
  else ofRatio? (digits * Nat.pow 10 exponent.toNat) (Nat.pow 10 (-exponent).toNat)

/-- Divides by `p` as often as asked, rounding each time; zero stays zero. -/
def divRepeatedly? (p : Binary64) : Nat → Binary64 → Option Binary64
  | 0, x => some x
  | n + 1, x => if x.mantissa == 0 then some x else (x.div? p).bind (divRepeatedly? p n)

/-- The exponent of the greatest power of ten that is a finite number. -/
def greatestPower : Nat := 308

/-- Scales by a power of ten in floating point: multiplies or divides by the rounded powers up to
the greatest one, rounding after each step. `none` where the result is too large. -/
def scaleTen? (x : Binary64) (exponent : Int) : Option Binary64 :=
  let size := exponent.natAbs
  if exponent < 0 then do
    let rounds := (size - 1) / greatestPower
    let y ← divRepeatedly? (← powTen? greatestPower) rounds x
    if y.mantissa == 0 then return y
    y.div? (← powTen? (size - rounds * greatestPower))
  else if size ≤ greatestPower then (powTen? size).bind x.mul?
  else if x.mantissa == 0 then some x
  else none

end Binary64

/-! ## Numbers of documents -/

/-- A number in a document. -/
inductive Number where
  | int (n : Int)
  | float (x : Binary64)
deriving DecidableEq, Repr

namespace Number

/-- One more than the greatest unsigned number of 64 bits. -/
def wordLimit : Nat := Nat.pow 2 64

/-- One more than the greatest signed number of 64 bits. -/
def signedLimit : Nat := Nat.pow 2 63

/-- The whole number as such if 64 bits hold it, with or without a sign. -/
def ofInt? (n : Int) : Option Number :=
  if -(signedLimit : Int) ≤ n ∧ n < (wordLimit : Int) then some (.int n) else none

end Number

end Dialogue
