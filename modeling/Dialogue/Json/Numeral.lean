/-
Numbers as JSON writes them. A numeral is collected into a whole significand of 64 bits and a
power of ten; digits beyond the 64 bits only move the power. Whole numbers that fit stay whole.
-/
import Dialogue.Document.Basic

namespace Dialogue.Json

/-- What is left of a text after a piece of it, or nothing where reading cannot go on. -/
abbrev Rest := Option (List Char)

/-- Appends digits to a significand for as long as 64 bits hold it, and returns the digits that no
longer fit. -/
def absorb (significand : Nat) : List Char → Nat × List Char
  | [] => (significand, [])
  | d :: ds =>
    let next := 10 * significand + (d.toNat - '0'.toNat)
    if next < Number.wordLimit then absorb next ds else (significand, d :: ds)

/-- The parts of a numeral. -/
structure Numeral where
  negative : Bool
  whole : List Char
  /-- The digits after the point. -/
  places : Option (List Char)
  /-- The power of ten. -/
  power : Option Int

/-- The number of a numeral, or `none` where it is too large. -/
def Numeral.number? (n : Numeral) : Option Number :=
  let (significand, excess) := absorb 0 n.whole
  let (digits, unused) := absorb significand (n.places.getD [])
  let moved : Int := (excess.length : Int) - ((n.places.getD []).length - unused.length : Nat)
  let float : Option Number := do
    let x ← Binary64.ofRatio? digits 1
    let y ← x.scaleTen? (moved + n.power.getD 0)
    some (.float (y.withSign n.negative))
  if n.places.isSome || n.power.isSome || !excess.isEmpty then float
  else if !n.negative then some (.int significand)
  else if 1 ≤ significand ∧ significand ≤ Number.signedLimit then some (.int (-(significand : Int)))
  else float

/-- The failure for digits that are missing: at the end of the text it is an early end for a
decoder, but an error of form for one that passes over the number. -/
def missingDigits : List Char → Doc
  | [] => .broken .truncated (some .malformed)
  | _ => .broken .malformed (some .malformed)

/-- The digits in front, of which there must be one. -/
def digitsOf (cs : List Char) : Except Doc (List Char × List Char) :=
  match cs.takeWhile Char.isDigit with
  | [] => .error (missingDigits cs)
  | ds => .ok (ds, cs.drop ds.length)

/-- The digits before the point: no zero may stand in front of another digit. -/
def wholeDigits (cs : List Char) : Except Doc (List Char × List Char) :=
  match cs with
  | '0' :: d :: _ =>
    if d.isDigit then .error (.broken .malformed (some .malformed)) else digitsOf cs
  | cs => digitsOf cs

/-- The digits after a point, if there is one. -/
def placesPart : List Char → Except Doc (Option (List Char) × List Char)
  | '.' :: cs => (digitsOf cs).map fun (ds, rest) => (some ds, rest)
  | cs => .ok (none, cs)

/-- The value of decimal digits. -/
def digitsValue (ds : List Char) : Nat :=
  ds.foldl (fun n d => 10 * n + (d.toNat - '0'.toNat)) 0

/-- The power of ten, if one is given. -/
def powerPart : List Char → Except Doc (Option Int × List Char)
  | e :: cs =>
    if e = 'e' ∨ e = 'E' then
      match cs with
      | '-' :: cs => (digitsOf cs).map fun (ds, rest) => (some (-(digitsValue ds : Int)), rest)
      | '+' :: cs => (digitsOf cs).map fun (ds, rest) => (some (digitsValue ds : Int), rest)
      | cs => (digitsOf cs).map fun (ds, rest) => (some (digitsValue ds : Int), rest)
    else .ok (none, e :: cs)
  | [] => .ok (none, [])

/-- The parts of the numeral in front of the text. -/
def numeral (cs : List Char) : Except Doc (Numeral × List Char) := do
  let (negative, cs) := match cs with
    | '-' :: cs => (true, cs)
    | cs => (false, cs)
  let (whole, cs) ← wholeDigits cs
  let (places, cs) ← placesPart cs
  let (power, cs) ← powerPart cs
  .ok (⟨negative, whole, places, power⟩, cs)

/-- The number in front of the text. One that is too large can still be passed over. -/
def numberDoc (cs : List Char) : Doc × Rest :=
  match numeral cs with
  | .error d => (d, none)
  | .ok (n, rest) =>
    match n.number? with
    | some k => (.number k, some rest)
    | none => (.broken .malformed none, some rest)

end Dialogue.Json
