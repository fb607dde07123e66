/-
The shortest decimal of a floating-point number: the fewest digits that round back to it, and of
those the nearest to it. Positional notation is used for magnitudes from a ten-thousandth up to
ten to the sixteenth, and always shows a point.
-/
import Dialogue.Number.Basic

namespace Dialogue

/-- The decimal `digits · 10 ^ exponent`. -/
structure Decimal where
  digits : Nat
  exponent : Int
deriving DecidableEq, Repr

namespace Binary64

/-- The number of decimal digits of `n`. -/
def digitCount (n : Nat) : Nat :=
  (Nat.toDigits 10 n).length

/-- The three points that bound the values rounding to `x`, in quarter units: the lower end, the
value itself and the upper end. The lower gap is half as wide below a power of two. -/
def quarters (x : Binary64) : Nat × Nat × Nat :=
  let m := 4 * x.mantissa
  if x.mantissa == Nat.pow 2 52 && leastExponent < x.exponent then (m - 1, m, m + 2)
  else (m - 2, m, m + 2)

/-- Whether `digits · 10 ^ e` rounds to `x`: it lies between the ends, which count if the mantissa
is even. -/
def roundsTo (x : Binary64) (digits : Nat) (e : Int) : Bool :=
  let (lo, _, hi) := x.quarters
  let unit := x.exponent - 2
  let left (q : Nat) := q * Nat.pow 2 unit.toNat * Nat.pow 10 (-e).toNat
  let point := digits * Nat.pow 10 e.toNat * Nat.pow 2 (-unit).toNat
  if x.mantissa % 2 == 0 then left lo ≤ point && point ≤ left hi
  else left lo < point && point < left hi

/-- The exponent of the leading decimal digit of a nonzero number. -/
def leadingExponent (x : Binary64) : Int :=
  let (n, d) := x.fraction
  if d ≤ n then (digitCount (n / d) : Int) - 1
  else -(digitCount ((d - 1) / n) : Int)

/-- The best decimal of `x` on the grid of `10 ^ e`, if a point of the grid rounds to `x`. -/
def onGrid? (x : Binary64) (e : Int) : Option Decimal :=
  let (n, d) := x.fraction
  let num := n * Nat.pow 10 (-e).toNat
  let den := d * Nat.pow 10 e.toNat
  let below := num / den
  let r := num % den
  match x.roundsTo below e && below != 0, x.roundsTo (below + 1) e with
  | true, true =>
    if 2 * r < den || (2 * r == den && below % 2 == 0) then some ⟨below, e⟩
    else some ⟨below + 1, e⟩
  | true, false => some ⟨below, e⟩
  | false, true => some ⟨below + 1, e⟩
  | false, false => none

/-- The shortest decimal of a nonzero number. Seventeen digits always suffice. -/
def shortest (x : Binary64) : Decimal :=
  let top := x.leadingExponent
  ((List.range 17).findSome? fun k => x.onGrid? (top - (k : Nat))).getD ⟨0, 0⟩

/-- The exponent part, with a sign and at least two digits. -/
def exponentText (e : Int) : String :=
  let digits := toString e.natAbs
  (if e < 0 then "e-" else "e+") ++ (if digits.length < 2 then "0" ++ digits else digits)

/-- The decimal in positional or scientific notation. -/
def decimalText (d : Decimal) : String :=
  let ds := toString d.digits
  let size : Int := ds.length
  let lead := d.exponent + size - 1
  if -5 < lead && lead < 16 then
    if 0 ≤ d.exponent then
      ds ++ String.ofList (List.replicate d.exponent.toNat '0') ++ ".0"
    else if 0 ≤ lead then
      String.ofList (ds.toList.take (lead + 1).toNat) ++ "." ++
        String.ofList (ds.toList.drop (lead + 1).toNat)
    else "0." ++ String.ofList (List.replicate (-lead - 1).toNat '0') ++ ds
  else
    let rest := ds.toList.drop 1
    String.ofList (ds.toList.take 1) ++ (if rest.isEmpty then "" else "." ++ String.ofList rest) ++
      exponentText lead

/-- The decimal without zeros at its end. -/
def Decimal.strip (d : Decimal) : Decimal :=
  let zeros := ((toString d.digits).toList.reverse.takeWhile (· == '0')).length
  ⟨d.digits / Nat.pow 10 zeros, d.exponent + zeros⟩

/-- The number in its shortest decimal form. -/
def text (x : Binary64) : String :=
  let magnitude := if x.mantissa == 0 then "0.0" else decimalText (Decimal.strip x.shortest)
  if x.negative then "-" ++ magnitude else magnitude

end Binary64

/-- The number in decimal. -/
def Number.text : Number → String
  | .int n => toString n
  | .float x => x.text

end Dialogue
