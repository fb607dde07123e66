/-
Strings as JSON writes them. Escapes may give halves of a character, which have to come in pairs;
a string with a half on its own has no value, but can be passed over.
-/
import Dialogue.Json.Numeral

namespace Dialogue.Json

/-- What a string is made of: characters, and the two kinds of half characters. -/
inductive Piece where
  | char (c : Char)
  /-- The first half, up to 1024 such. -/
  | high (n : Nat)
  /-- The second half, up to 1024 such. -/
  | low (n : Nat)
deriving DecidableEq, Repr

/-- The piece with the given code. -/
def Piece.ofCode (n : Nat) : Piece :=
  if 0xD800 ≤ n ∧ n < 0xDC00 then .high (n - 0xD800)
  else if 0xDC00 ≤ n ∧ n < 0xE000 then .low (n - 0xDC00)
  else .char (Char.ofNat n)

/-- The characters of pieces, if every half has its partner. -/
def joinPieces? : List Piece → Option (List Char)
  | [] => some []
  | .char c :: rest => (joinPieces? rest).map (c :: ·)
  | .high h :: .low l :: rest =>
    (joinPieces? rest).map (Char.ofNat (0x10000 + 0x400 * h + l) :: ·)
  | _ => none

/-- Whether some half is known to have no partner, whatever follows. -/
def hasLoneHalf : List Piece → Bool
  | [] => false
  | .char _ :: rest => hasLoneHalf rest
  | .high _ :: .low _ :: rest => hasLoneHalf rest
  | [.high _] => false
  | _ => true

/-- The value of a hexadecimal digit. -/
def hexValue? (c : Char) : Option Nat :=
  if '0' ≤ c ∧ c ≤ '9' then some (c.toNat - '0'.toNat)
  else if 'a' ≤ c ∧ c ≤ 'f' then some (c.toNat - 'a'.toNat + 10)
  else if 'A' ≤ c ∧ c ≤ 'F' then some (c.toNat - 'A'.toNat + 10)
  else none

/-- The character that a backslash and a letter stand for. -/
def shortEscape? (c : Char) : Option Char :=
  if c = '"' ∨ c = '\\' ∨ c = '/' then some c
  else if c = 'b' then some '\x08'
  else if c = 'f' then some '\x0c'
  else if c = 'n' then some '\n'
  else if c = 'r' then some '\r'
  else if c = 't' then some '\t'
  else none

/-- The number of bytes of a text. -/
def byteCount (cs : List Char) : Nat :=
  (String.ofList cs).utf8ByteSize

/-- How a string ends: with its quote, or with a fault. -/
inductive StringEnd where
  | closed (rest : List Char)
  | fault (f : Fault)

/-- The pieces up to the closing quote or a fault. -/
def pieces : List Char → List Piece × StringEnd
  | [] => ([], .fault .truncated)
  | '"' :: rest => ([], .closed rest)
  | ['\\'] => ([], .fault .truncated)
  | '\\' :: 'u' :: a :: b :: c :: d :: rest =>
    match hexValue? a, hexValue? b, hexValue? c, hexValue? d with
    | some a, some b, some c, some d =>
      let (ps, e) := pieces rest
      (Piece.ofCode (((a * 16 + b) * 16 + c) * 16 + d) :: ps, e)
    | _, _, _, _ => ([], .fault .malformed)
  | '\\' :: 'u' :: rest =>
    ([], .fault (if byteCount rest < 4 then .truncated else .malformed))
  | '\\' :: c :: rest =>
    match shortEscape? c with
    | some x =>
      let (ps, e) := pieces rest
      (.char x :: ps, e)
    | none => ([], .fault .malformed)
  | c :: rest =>
    if c.toNat < 0x20 then ([], .fault .malformed)
    else
      let (ps, e) := pieces rest
      (.char c :: ps, e)

/-- The string whose opening quote has been taken. -/
def stringDoc (cs : List Char) : Doc × Rest :=
  match pieces cs with
  | (ps, .closed rest) =>
    match joinPieces? ps with
    | some s => (.text (String.ofList s), some rest)
    | none => (.broken .malformed none, some rest)
  | (ps, .fault f) => (.broken (if hasLoneHalf ps then .malformed else f) (some f), none)

end Dialogue.Json
