/-
Percent encoding: characters that may not stand in a part of a URL are written as the bytes of
their UTF-8 form, each as a percent sign with two hexadecimal digits.
-/
import Dialogue.Text.Quoted

namespace Dialogue.Url

/-- A byte with its percent sign. -/
def percentByte (b : Nat) : List Char :=
  ['%', (Text.hexDigit (b / 16)).toUpper, (Text.hexDigit (b % 16)).toUpper]

/-- The bytes of a character in UTF-8. -/
def utf8Bytes (c : Char) : List Nat :=
  let n := c.toNat
  if n < 0x80 then [n]
  else if n < 0x800 then [0xC0 + n / 0x40, 0x80 + n % 0x40]
  else if n < 0x10000 then [0xE0 + n / 0x1000, 0x80 + n / 0x40 % 0x40, 0x80 + n % 0x40]
  else [0xF0 + n / 0x40000, 0x80 + n / 0x1000 % 0x40, 0x80 + n / 0x40 % 0x40, 0x80 + n % 0x40]

/-- Encodes the characters that may not stand as they are: controls, characters outside ASCII, and
those in `also`. -/
def percentEncode (also : List Char) (cs : List Char) : List Char :=
  cs.flatMap fun c =>
    if c.toNat < 0x20 ∨ 0x7E < c.toNat ∨ c ∈ also then (utf8Bytes c).flatMap percentByte else [c]

/-- What is encoded in a fragment. -/
def fragmentSet : List Char := " \"<>\x60".toList

/-- What is encoded in a query. -/
def querySet : List Char := " \"#<>".toList

/-- What is encoded in a query of the common schemes. -/
def specialQuerySet : List Char := '\'' :: querySet

/-- What is encoded in a path. -/
def pathSet : List Char := fragmentSet ++ "#?\x7b\x7d".toList

/-- What is encoded in a user name or password. -/
def userSet : List Char := pathSet ++ "/:;=@[\\]^|".toList

/-- The value of a hexadecimal digit. -/
def hexDigit? (c : Char) : Option Nat :=
  if c.isDigit then some (c.toNat - '0'.toNat)
  else if 'a' ≤ c.toLower ∧ c.toLower ≤ 'f' then some (c.toLower.toNat - 'a'.toNat + 10)
  else none

/-- The bytes of a text, encoded bytes decoded. -/
def percentBytes : List Char → List Nat
  | '%' :: a :: b :: cs =>
    match hexDigit? a, hexDigit? b with
    | some x, some y => (16 * x + y) :: percentBytes cs
    | _, _ => '%'.toNat :: percentBytes (a :: b :: cs)
  | c :: cs => utf8Bytes c ++ percentBytes cs
  | [] => []

/-- Decodes what is encoded, if the bytes are those of a text. -/
def percentDecode? (cs : List Char) : Option (List Char) :=
  (String.fromUTF8? ⟨((percentBytes cs).map UInt8.ofNat).toArray⟩).map String.toList

end Dialogue.Url
