/-
Hosts of URLs: names, and addresses of both versions. A host is kept in its one written form:
names in lower case and in ASCII, addresses with as few characters as possible.
-/
import Dialogue.Text.Basic
import Dialogue.Text.Lowercase
import Dialogue.Url.Percent
import Dialogue.Url.Punycode

namespace Dialogue.Url

/-! ## Addresses of version 4 -/

/-- The number that digits stand for. -/
def digitsTo? (base : Nat) (ds : List Char) : Option Nat :=
  ds.foldlM (fun n c => do
    let d ← hexDigit? c
    if d < base then some (base * n + d) else none) 0

/-- A part of an address: decimal, or after a zero octal, or after `0x` hexadecimal. -/
def addressPart? : List Char → Option Nat
  | [] => none
  | '0' :: x :: ds =>
    if x = 'x' ∨ x = 'X' then digitsTo? 16 ds else digitsTo? 8 (x :: ds)
  | ds => digitsTo? 10 ds

/-- The parts between dots; a dot at the end does not count. -/
def dotted (cs : List Char) : List (List Char) :=
  let parts := Text.cut '.' cs
  if parts.length > 1 ∧ parts.getLast? = some [] then parts.dropLast else parts

/-- Whether the last part of a name is a number, so that the name has to be an address. -/
def endsInNumber (cs : List Char) : Bool :=
  match (dotted cs).getLast? with
  | some part => (!part.isEmpty && part.all Char.isDigit) || (addressPart? part).isSome
  | none => false

/-- The number of an address from its parts; the last part fills up what is left. -/
def joinAddress? : List Nat → (left : Nat) → Option Nat
  | [], _ => none
  | [n], left => if n < Nat.pow 256 left then some n else none
  | n :: ns, left =>
    if n < 256 ∧ 1 < left then
      (joinAddress? ns (left - 1)).map (n * Nat.pow 256 (left - 1) + ·)
    else none

/-- An address of version 4 in its written form. -/
def addressText? (cs : List Char) : Option String := do
  let parts ← (dotted cs).mapM addressPart?
  if 4 < parts.length then none
  else
    let n ← joinAddress? parts 4
    some (".".intercalate ([16777216, 65536, 256, 1].map fun k => toString (n / k % 256)))

/-! ## Addresses of version 6 -/

/-- A group of at most four hexadecimal digits. -/
def group? (cs : List Char) : Option Nat :=
  if cs.isEmpty ∨ 4 < cs.length then none else digitsTo? 16 cs

/-- A part of an address of version 4 inside one of version 6. -/
def plainPart? (cs : List Char) : Option Nat :=
  if cs.isEmpty ∨ (1 < cs.length ∧ cs.head? = some '0') ∨ !cs.all Char.isDigit then none
  else (digitsTo? 10 cs).filter (· < 256)

/-- The groups of a run between double colons. The last one may be an address of version 4. -/
def groups? : List (List Char) → Option (List Nat)
  | [] => some []
  | [cs] =>
    if cs.contains '.' then
      match (Text.cut '.' cs).mapM plainPart? with
      | some [a, b, c, d] => some [256 * a + b, 256 * c + d]
      | _ => none
    else (group? cs).map ([·])
  | cs :: rest => do
    let g ← group? cs
    let gs ← groups? rest
    some (g :: gs)

/-- Splits at the first double colon. -/
def splitGap : List Char → List Char × Option (List Char)
  | ':' :: ':' :: cs => ([], some cs)
  | c :: cs =>
    let (front, back) := splitGap cs
    (c :: front, back)
  | [] => ([], none)

/-- The groups of a run that may be empty. -/
def runGroups? (cs : List Char) : Option (List Nat) :=
  if cs.isEmpty then some [] else groups? (Text.cut ':' cs)

/-- The eight groups of an address. -/
def sixGroups? (cs : List Char) : Option (List Nat) := do
  match splitGap cs with
  | (front, none) =>
    let gs ← runGroups? front
    if gs.length = 8 then some gs else none
  | (front, some back) =>
    if front.contains '.' then none
    else
      let fs ← runGroups? front
      let bs ← runGroups? back
      if fs.length + bs.length < 8 then
        some (fs ++ List.replicate (8 - fs.length - bs.length) 0 ++ bs)
      else none

/-- The length of the run of zeros in front. -/
def zeroRun (gs : List Nat) : Nat :=
  (gs.takeWhile (· = 0)).length

/-- The length of the longest run of zeros. -/
def longestRun : List Nat → Nat
  | [] => 0
  | g :: gs => max (zeroRun (g :: gs)) (longestRun gs)

/-- The groups, the first run of zeros of the given length written as a double colon. -/
def groupChars (run : Nat) : (first : Bool) → List Nat → List Char
  | _, [] => []
  | first, g :: gs =>
    if 2 ≤ run ∧ zeroRun (g :: gs) = run then
      "::".toList ++ rest ((g :: gs).drop run)
    else (if first then [] else [':']) ++ Text.hexDigits g ++ groupChars run false gs
where
  rest (gs : List Nat) : List Char :=
    [':'].intercalate (gs.map Text.hexDigits)

/-- An address of version 6 in its written form, with its brackets. -/
def sixText? (cs : List Char) : Option String :=
  (sixGroups? cs).map fun gs =>
    String.ofList ('[' :: groupChars (longestRun gs) true gs ++ [']'])

/-! ## Names -/

/-- Characters that no host may hold. -/
def hostMarks : List Char := " #/:<>?@[\\]^|".toList

/-- A part of a name in ASCII. -/
def asciiLabel (label : List Char) : List Char :=
  if label.all (·.toNat < 0x80) then label else "xn--".toList ++ Punycode.encode label

/-- The host of a URL with one of the common schemes. -/
def parseHost? (cs : List Char) : Option String := do
  match cs with
  | '[' :: rest => if rest.getLast? = some ']' then sixText? rest.dropLast else none
  | cs =>
    let name := Text.lowerChars [] (← percentDecode? cs)
    let name := name.flatMap fun c => if c ∈ ['。', '．', '｡'] then ['.'] else [c]
    let name := ['.'].intercalate ((Text.cut '.' name).map asciiLabel)
    let barred (c : Char) : Bool := c.toNat < 0x20 ∨ c = '\x7f' ∨ c = '%' ∨ c ∈ hostMarks
    if name.isEmpty ∨ name.any barred then none
    else if endsInNumber name then addressText? name
    else some (String.ofList name)

/-- The host of a URL with any other scheme. -/
def parseOpaqueHost? (cs : List Char) : Option String :=
  match cs with
  | '[' :: rest => if rest.getLast? = some ']' then sixText? rest.dropLast else none
  | cs => if cs.any (· ∈ hostMarks) then none else some (String.ofList (percentEncode [] cs))

end Dialogue.Url
