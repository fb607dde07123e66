/-
Punycode: names of hosts in ASCII. The characters outside ASCII are left out of the name and
appended as a list of insertions: in the order of their codes, each as the number of steps since
the last one, written with digits of variable weight.
-/
namespace Dialogue.Url.Punycode

/-- The letter or digit for a value up to 35. -/
def digit (n : Nat) : Char :=
  if n < 26 then Char.ofNat ('a'.toNat + n) else Char.ofNat ('0'.toNat + n - 26)

/-- The least value of a digit at some weight with which a number goes on. -/
def threshold (weight bias : Nat) : Nat :=
  min 26 (max 1 (weight - bias))

/-- Divides a distance until it is small, and counts the divisions. -/
def shrink : Nat → (distance : Nat) → Nat × Nat
  | 0, distance => (distance, 0)
  | fuel + 1, distance =>
    if distance ≤ 455 then (distance, 0)
    else
      let (d, n) := shrink fuel (distance / 35)
      (d, n + 1)

/-- The bias after an insertion, given the number of characters that the name has by then. -/
def nextBias (distance count : Nat) (first : Bool) : Nat :=
  let distance := if first then distance / 700 else distance / 2
  let (d, n) := shrink distance (distance + distance / count)
  36 * n + 36 * d / (d + 38)

/-- The digits of a distance. -/
def digits (bias : Nat) : Nat → (weight distance : Nat) → List Char
  | 0, _, distance => [digit distance]
  | fuel + 1, weight, distance =>
    let t := threshold weight bias
    if distance < t then [digit distance]
    else
      digit (t + (distance - t) % (36 - t)) ::
        digits bias fuel (weight + 36) ((distance - t) / (36 - t))

/-- How far the insertions have come. -/
structure State where
  written : List Char
  distance : Nat := 0
  bias : Nat := 72
  /-- The number of characters that are dealt with. -/
  count : Nat
deriving DecidableEq, Repr

/-- Passes over one character of the name while those with the given code are inserted. -/
def State.pass (basic code : Nat) (s : State) (c : Char) : State :=
  if c.toNat < code then { s with distance := s.distance + 1 }
  else if c.toNat = code then
    { written := s.written ++ digits s.bias s.distance 36 s.distance
      distance := 0
      bias := nextBias s.distance (s.count + 1) (s.count = basic)
      count := s.count + 1 }
  else s

/-- Inserts the characters with the given codes, which follow on `last` in increasing order. -/
def insertions (name : List Char) (basic : Nat) : (last : Nat) → List Nat → State → List Char
  | _, [], s => s.written
  | last, code :: codes, s =>
    let s := { s with distance := s.distance + (code - last) * (s.count + 1) }
    let s := name.foldl (State.pass basic code) s
    insertions name basic (code + 1) codes { s with distance := s.distance + 1 }

/-- The name in ASCII, without its mark. -/
def encode (name : List Char) : List Char :=
  let basic := name.filter fun c => c.toNat < 0x80
  let codes := ((name.map Char.toNat).filter fun n => 0x80 ≤ n).eraseDups.mergeSort
  let head := if basic.isEmpty then [] else basic ++ ['-']
  insertions name basic.length 0x80 codes { written := head, count := basic.length }

end Dialogue.Url.Punycode
