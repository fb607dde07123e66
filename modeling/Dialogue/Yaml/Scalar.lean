/-
What a plain YAML scalar stands for when no type is asked for: null, a truth value, a number or a
text. The same reading tells a writer which texts need quotes to stay texts.
-/
import Dialogue.Json.Basic
import Dialogue.Text.Lowercase

namespace Dialogue.Yaml

/-- Whether a plain scalar stands for null. -/
def isNull (s : String) : Bool :=
  ["", "~", "null", "Null", "NULL"].contains s

/-- The truth value of a plain scalar of open type. -/
def strictTruth? (s : String) : Option Bool :=
  if ["true", "True", "TRUE"].contains s then some true
  else if ["false", "False", "FALSE"].contains s then some false
  else none

/-- The truth value of a plain scalar where a truth value is asked for. -/
def truth? (s : String) : Option Bool :=
  let l := Text.lowercase s
  if ["true", "yes", "on", "y"].contains l then some true
  else if ["false", "no", "off", "n"].contains l then some false
  else none

/-! ## Numbers -/

/-- The value of a digit, up to 15. -/
def digitValue? (c : Char) : Option Nat :=
  if '0' ≤ c ∧ c ≤ '9' then some (c.toNat - '0'.toNat)
  else if 'a' ≤ c ∧ c ≤ 'f' then some (c.toNat - 'a'.toNat + 10)
  else if 'A' ≤ c ∧ c ≤ 'F' then some (c.toNat - 'A'.toNat + 10)
  else none

/-- The value of digits to a base, of which there must be at least one. -/
def natOfDigits? (base : Nat) (ds : List Char) : Option Nat :=
  if ds.isEmpty then none
  else ds.foldlM (fun n c =>
    match digitValue? c with
    | some d => if d < base then some (n * base + d) else none
    | none => none) 0

/-- The text without one leading sign. -/
def withoutSign : List Char → List Char
  | '+' :: cs => cs
  | '-' :: cs => cs
  | cs => cs

/-- Whether the scalar is a run of digits with a superfluous leading zero, which is a text. -/
def hasLeadingZero (cs : List Char) : Bool :=
  match withoutSign cs with
  | '0' :: d :: ds => (d :: ds).all Char.isDigit
  | _ => false

/-- The whole number that an unsigned scalar stands for. -/
def magnitude? : List Char → Option Nat
  | '0' :: 'x' :: ds => natOfDigits? 16 ds
  | '0' :: 'o' :: ds => natOfDigits? 8 ds
  | '0' :: 'b' :: ds => natOfDigits? 2 ds
  | ds => natOfDigits? 10 ds

/-- The whole number that a scalar stands for. -/
def int? (cs : List Char) : Option Int :=
  if hasLeadingZero cs then none
  else
    match cs with
    | '+' :: ds => (magnitude? ds).map Int.ofNat
    | '-' :: ds => (magnitude? ds).map fun n => -(n : Int)
    | ds => (magnitude? ds).map Int.ofNat

/-- A decimal fraction without sign: digits, a point and an exponent, as digits and a power. -/
def decimal? (cs : List Char) : Option (Nat × Int) := do
  let whole := cs.takeWhile Char.isDigit
  let rest := cs.drop whole.length
  let (places, rest) := match rest with
    | '.' :: r => (r.takeWhile Char.isDigit, r.dropWhile Char.isDigit)
    | r => ([], r)
  let digits ← natOfDigits? 10 (whole ++ places)
  let shift : Int := places.length
  match rest with
  | [] => some (digits, -shift)
  | e :: r =>
    if e = 'e' ∨ e = 'E' then do
      let n ← natOfDigits? 10 (withoutSign r)
      some (digits, (if r.head? = some '-' then -(n : Int) else n) - shift)
    else none

/-- The finite fraction that a scalar stands for. -/
def float? (cs : List Char) : Option Binary64 := do
  let (digits, power) ← decimal? (withoutSign cs)
  let x ← Binary64.ofDecimal? digits power
  some (x.withSign (cs.head? = some '-'))

/-- Whether the scalar names an infinity or the undefined number, for which documents have no
value. -/
def isBeyondNumbers (s : String) : Bool :=
  [".inf", ".Inf", ".INF", "+.inf", "+.Inf", "+.INF", "-.inf", "-.Inf", "-.INF",
    ".nan", ".NaN", ".NAN"].contains s

/-- Whether a whole number has more than 64 bits but at most 128. -/
def isOversized (n : Int) : Bool :=
  (Number.ofInt? n).isNone && -(Nat.pow 2 127 : Int) ≤ n && n < (Nat.pow 2 128 : Int)

/-! ## Typing -/

/-- The value of a plain scalar of open type. `none` for a whole number of more than 64 bits that
128 bits would hold. -/
def resolve? (s : String) : Option Json :=
  if isNull s || isBeyondNumbers s then some .null
  else
    match strictTruth? s with
    | some b => some (.bool b)
    | none =>
      match int? s.toList with
      | some n =>
        match Number.ofInt? n with
        | some k => some (.number k)
        | none => if isOversized n then none else some (floatOrText s)
      | none => some (floatOrText s)
where
  floatOrText (s : String) : Json :=
    if hasLeadingZero s.toList then .text s
    else
      match float? s.toList with
      | some x => .number (.float x)
      | none => .text s

end Dialogue.Yaml
