/-
Texts as lists of characters: sets of characters in the form in which Unicode publishes its
properties, white space and trimming, and cutting texts at a character. Keywords, labels, tags and
settings are all compared after trimming.
-/
namespace Dialogue.Text

/-! ## Sets of characters -/

/-- Inclusive ranges of code points in increasing order. -/
abbrev CodeSet := List (Nat × Nat)

/-- Whether some range holds the character. -/
def CodeSet.contains (s : CodeSet) (c : Char) : Bool :=
  s.any fun r => r.1 ≤ c.toNat && c.toNat ≤ r.2

/-! ## White space and punctuation -/

/-- The characters with the property White_Space. -/
def blankChars : CodeSet := [
  (0x9, 0xD), (0x20, 0x20), (0x85, 0x85), (0xA0, 0xA0), (0x1680, 0x1680), (0x2000, 0x200A),
  (0x2028, 0x2029), (0x202F, 0x202F), (0x205F, 0x205F), (0x3000, 0x3000)]

/-- Whether `c` is white space. -/
def isBlank (c : Char) : Bool :=
  blankChars.contains c

/-- ASCII punctuation: the printable ASCII characters that are no letter, digit or space. -/
def isPunctuation (c : Char) : Bool :=
  (33 ≤ c.toNat && c.toNat ≤ 47) || (58 ≤ c.toNat && c.toNat ≤ 64) ||
    (91 ≤ c.toNat && c.toNat ≤ 96) || (123 ≤ c.toNat && c.toNat ≤ 126)

/-! ## Trimming -/

/-- The list without the longest run of `p`-elements at either end. -/
def stripEnds {α : Type} (p : α → Bool) (l : List α) : List α :=
  ((l.dropWhile p).reverse.dropWhile p).reverse

/-- The text without the characters in `p` at its two ends. -/
def stripWhere (p : Char → Bool) (s : String) : String :=
  String.ofList (stripEnds p s.toList)

/-- The text without white space at its two ends. -/
def trim (s : String) : String :=
  stripWhere isBlank s

/-- Whether the text is empty or all white space. -/
def allBlank (s : String) : Bool :=
  s.toList.all isBlank

/-! ## Cutting -/

/-- The pieces of a list of characters between occurrences of a character. Without that character the
list is one piece, so there is always one. -/
def cut (mark : Char) : List Char → List (List Char)
  | [] => [[]]
  | c :: cs =>
    if c = mark then [] :: cut mark cs
    else
      match cut mark cs with
      | [] => [[c]]
      | p :: ps => (c :: p) :: ps

/-- The pieces of a text between occurrences of a character. -/
def pieces (mark : Char) (s : String) : List String :=
  (cut mark s.toList).map String.ofList

/-- A line without the carriage return at its end. -/
def dropReturn (line : List Char) : List Char :=
  if line.getLast? = some '\r' then line.dropLast else line

/-- The lines of a text. A carriage return in front of a line feed belongs to the break, and the
last line needs no break. -/
def lines (s : String) : List String :=
  let ls := cut '\n' s.toList
  let last := (ls.getLast?.filter (!·.isEmpty)).toList
  (ls.dropLast.map dropReturn ++ last).map String.ofList

end Dialogue.Text
