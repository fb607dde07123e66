/-
Instants as text, after RFC 3339. Writing gives UTC with a final `Z` and as many groups of three
fraction digits as needed. Reading is more generous: blanks may surround the parts, the two halves
may be joined by a blank, and any offset is converted to UTC.
-/
import Dialogue.Instant.Basic
import Dialogue.Text.Basic

namespace Dialogue.Instant

/-- Why a text is no instant. -/
inductive ReadError where
  | tooShort
  | invalid
  | outOfRange
  | trailing
  | impossible
deriving DecidableEq, Repr

/-- The wording of an error. -/
def ReadError.message : ReadError → String
  | .tooShort => "premature end of input"
  | .invalid => "input contains invalid characters"
  | .outOfRange => "input is out of range"
  | .trailing => "trailing input"
  | .impossible => "no possible date and time matching input"

/-! ## Reading -/

/-- A reader takes what it needs from the front and returns the rest. -/
abbrev Reader (α : Type) := List Char → Except ReadError (α × List Char)

/-- The text without blanks in front. -/
def skipBlanks (cs : List Char) : List Char :=
  cs.dropWhile Text.isBlank

/-- The value of decimal digits, most significant first. -/
def valueOf (ds : List Char) : Nat :=
  ds.foldl (fun n d => 10 * n + (d.toNat - '0'.toNat)) 0

/-- The greatest number that a numeric part may have before its range is looked at. -/
def numberLimit : Nat := Nat.pow 2 63

/-- A number of one to `width` digits; any number of them without a width. -/
def number (width : Option Nat) : Reader Nat := fun cs =>
  let ds := (match width with | some w => cs.take w | none => cs).takeWhile Char.isDigit
  match cs, ds with
  | [], _ => .error .tooShort
  | _, [] => .error .invalid
  | _, _ =>
    if valueOf ds < numberLimit then .ok (valueOf ds, cs.drop ds.length) else .error .outOfRange

/-- A number of at most two digits between the bounds, blanks in front of it skipped. -/
def twoDigits (least greatest : Nat) : Reader Nat := fun cs => do
  let (n, rest) ← number (some 2) (skipBlanks cs)
  if least ≤ n ∧ n ≤ greatest then .ok (n, rest) else .error .outOfRange

/-- A year of four digits, or of any number of digits after a sign. -/
def yearPart : Reader Int := fun cs => do
  let (n, rest) ← match skipBlanks cs with
    | '-' :: cs => do
      let (n, rest) ← number none cs
      pure (-(n : Int), rest)
    | '+' :: cs => do
      let (n, rest) ← number none cs
      pure ((n : Int), rest)
    | cs => do
      let (n, rest) ← number (some 4) cs
      pure ((n : Int), rest)
  if -(Nat.pow 2 31 : Int) ≤ n ∧ n < (Nat.pow 2 31 : Int) then .ok (n, rest) else .error .outOfRange

/-- A separator, blanks in front of it skipped. -/
def separator (c : Char) (cs : List Char) : Except ReadError (List Char) :=
  match skipBlanks cs with
  | [] => .error .tooShort
  | d :: rest => if d = c then .ok rest else .error .invalid

/-- The fraction of a second in nanoseconds: nine digits count, further ones are passed over. -/
def fraction : Reader Nat := fun cs =>
  match cs with
  | '.' :: cs => do
    let (n, rest) ← number (some 9) cs
    let places := cs.length - rest.length
    .ok (n * Nat.pow 10 (9 - places), rest.dropWhile Char.isDigit)
  | _ => .ok (0, cs)

/-- Two digits of an offset. -/
def offsetDigits : Reader (Char × Char) := fun cs =>
  match cs with
  | [] => .error .tooShort
  | [c] => if c.toNat < 0x80 then .error .tooShort else .error .invalid
  | a :: b :: rest =>
    if a.isDigit && b.isDigit then .ok ((a, b), rest) else .error .invalid

/-- Hours and minutes of an offset, in minutes; colons and blanks may stand between them. -/
def offsetAmount : Reader Nat := fun cs => do
  let ((a, b), rest) ← offsetDigits cs
  let ((c, d), rest) ← offsetDigits (rest.dropWhile fun c => c == ':' || Text.isBlank c)
  if '6' ≤ c then .error .outOfRange
  else .ok (valueOf [a, b] * 60 + valueOf [c, d], rest)

/-- The offset from UTC in minutes: `UTC`, `Z`, or a sign and an amount. -/
def offsetPart : Reader Int := fun cs =>
  match skipBlanks cs with
  | [] => .error .tooShort
  | 'Z' :: rest => .ok (0, rest)
  | 'z' :: rest => .ok (0, rest)
  | u :: t :: c :: rest =>
    if u.toUpper = 'U' && t.toUpper = 'T' && c.toUpper = 'C' then .ok (0, rest)
    else signed (u :: t :: c :: rest)
  | cs => signed cs
where
  signed : Reader Int
    | '+' :: cs => do
      let (n, rest) ← offsetAmount cs
      .ok ((n : Int), rest)
    | '-' :: cs => do
      let (n, rest) ← offsetAmount cs
      .ok (-(n : Int), rest)
    | '−' :: cs => do
      let (n, rest) ← offsetAmount cs
      .ok (-(n : Int), rest)
    | _ => .error .invalid

/-- What stands between the date and the time. -/
def middle : List Char → Except ReadError (List Char)
  | [] => .error .tooShort
  | c :: rest => if c = 'T' ∨ c = 't' ∨ c = ' ' then .ok rest else .error .invalid

/-- Turns an absent value into an error. -/
def orFail {α : Type} (e : ReadError) : Option α → Except ReadError α
  | some a => .ok a
  | none => .error e

/-- Reads an instant. A second 60 is the leap second after 59. -/
def read (s : String) : Except ReadError Instant := do
  let (year, cs) ← yearPart s.toList
  let (month, cs) ← twoDigits 1 12 (← separator '-' cs)
  let (day, cs) ← twoDigits 1 31 (← separator '-' cs)
  let (hour, cs) ← twoDigits 0 23 (← middle cs)
  let (minute, cs) ← twoDigits 0 59 (← separator ':' cs)
  let (second, cs) ← twoDigits 0 60 (← separator ':' cs)
  let (nano, cs) ← fraction cs
  let (offset, cs) ← offsetPart cs
  if !(skipBlanks cs).isEmpty then throw .trailing
  let date ← orFail .outOfRange (Date.ofParts? year month day)
  if 1440 ≤ offset.natAbs then throw .outOfRange
  let (second, nano) := if second = 60 then (59, nano + nanosPerSecond) else (second, nano)
  orFail .impossible (ofLocal? date hour minute second nano offset)

/-! ## Writing -/

/-- The number in decimal with at least `width` digits. -/
def padded (width n : Nat) : List Char :=
  let ds := Nat.toDigits 10 n
  List.replicate (width - ds.length) '0' ++ ds

/-- A year: four digits, or a sign and at least four digits outside the common range. -/
def yearChars (year : Int) : List Char :=
  if 0 ≤ year ∧ year ≤ 9999 then padded 4 year.toNat
  else (if year < 0 then '-' else '+') :: padded 4 year.natAbs

/-- The fraction digits, in groups of three, as few groups as the value needs. -/
def fractionChars (nano : Nat) : List Char :=
  if nano = 0 then []
  else if nano % 1000000 = 0 then '.' :: padded 3 (nano / 1000000)
  else if nano % 1000 = 0 then '.' :: padded 6 (nano / 1000)
  else '.' :: padded 9 nano

/-- A day. -/
def dateChars (d : Date) : List Char :=
  yearChars d.year ++ '-' :: padded 2 d.month ++ '-' :: padded 2 d.day

/-- The instant in UTC. -/
def chars (i : Instant) : List Char :=
  let leap := nanosPerSecond ≤ i.nano
  dateChars i.date ++
    'T' :: padded 2 i.hour ++ ':' :: padded 2 i.minute ++
    ':' :: padded 2 (if leap then i.second + 1 else i.second) ++
    fractionChars (if leap then i.nano - nanosPerSecond else i.nano) ++ ['Z']

/-- The text of the instant. -/
def text (i : Instant) : String :=
  String.ofList i.chars

end Dialogue.Instant
