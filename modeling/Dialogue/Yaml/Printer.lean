/-
YAML as text, in block style: a line for each member, items of a list at the column of their key,
empty collections in brackets. A text is written plain where it reads back as itself; texts with
line breaks are written as literal blocks; the others get single or, as a last resort, double
quotes.
-/
import Dialogue.Number.Shortest
import Dialogue.Text.Quoted
import Dialogue.Yaml.Character
import Dialogue.Yaml.Scalar

namespace Dialogue.Yaml

/-! ## What a text consists of -/

/-- Whether some character is glued to `before` and followed by `after` in the given way. -/
def anyWithin (p : (before : Option Char) → Char → (after : List Char) → Bool) :
    Option Char → List Char → Bool
  | _, [] => false
  | before, c :: after => p before c after || anyWithin p (some c) after

/-- Whether the text would be taken for something else than one plain scalar in block style. -/
def hasIndicators (cs : List Char) : Bool :=
  cs.take 3 == ['-', '-', '-'] || cs.take 3 == ['.', '.', '.'] ||
    anyWithin (fun before c after =>
      match before with
      | none => isIndicator c || ((c == '?' || c == ':' || c == '-') && gapFirst after)
      | some b => (c == ':' && gapFirst after) || (c == '#' && isGap b)) none cs

/-- Whether a space follows a line break. -/
def hasBreakSpace (cs : List Char) : Bool :=
  anyWithin (fun before c _ => c == ' ' && before.any isBreak) none cs

/-- Whether a line break follows a space. -/
def hasSpaceBreak (cs : List Char) : Bool :=
  anyWithin (fun before c _ => isBreak c && before == some ' ') none cs

/-- Whether the text has a space or a line break at an end. -/
def hasLooseEnd (cs : List Char) : Bool :=
  let loose (c : Option Char) : Bool := c.any fun c => c == ' ' || isBreak c
  loose cs.head? || loose cs.getLast?

/-! ## Styles -/

/-- The ways to write a text. -/
inductive Style where
  | plain
  | single
  | double
  | literal
deriving DecidableEq, Repr

/-- Words that some readers take for truth values. -/
def truthWords : List String :=
  ["yes", "Yes", "YES", "no", "No", "NO", "true", "True", "TRUE", "false", "False", "FALSE", "on",
    "On", "ON", "off", "Off", "OFF"]

/-- Whether a plain scalar with this text is read as something else than this text. -/
def readsOtherwise (s : String) : Bool :=
  truthWords.contains s || hasLeadingZero s.toList ||
    match resolve? s with
    | some (.text _) => false
    | some _ => true
    | none => false

/-- Whether a literal block holds the text. -/
def fitsLiteral (cs : List Char) : Bool :=
  cs.all isPrintable && !hasSpaceBreak cs && cs.getLast? != some ' '

/-- Whether single quotes hold the text. -/
def fitsSingle (cs : List Char) : Bool :=
  cs.all isPrintable && !hasSpaceBreak cs && !hasBreakSpace cs

/-- Whether the text can stand on its own. -/
def fitsPlain (cs : List Char) : Bool :=
  !cs.any isBreak && cs.all isPrintable && !hasLooseEnd cs && !hasIndicators cs

/-- The style in which a text is written. -/
def styleOf (s : String) : Style :=
  let cs := s.toList
  let quoted := if fitsSingle cs then Style.single else .double
  if truthWords.contains s then quoted
  else if cs.contains '\n' then if fitsLiteral cs then .literal else .double
  else if readsOtherwise s then quoted
  else if fitsPlain cs then .plain
  else quoted

/-! ## Scalars -/

/-- Spaces up to a column. -/
def spaces (n : Nat) : List Char :=
  List.replicate n ' '

/-- The characters with `indent` spaces in front of every one that follows a line break. -/
def indented (indent : Nat) : (atStart : Bool) → List Char → List Char
  | _, [] => []
  | atStart, c :: cs =>
    if isBreak c then c :: indented indent true cs
    else (if atStart then spaces indent else []) ++ c :: indented indent false cs

/-- The text between single quotes; a single quote is written twice. -/
def singleQuoted (indent : Nat) (cs : List Char) : List Char :=
  let inner := indented indent false (cs.flatMap fun c => if c = '\'' then ['\'', '\''] else [c])
  let close := if cs.getLast?.any isBreak then spaces indent else []
  '\'' :: (inner ++ close ++ ['\''])

/-- The number in upper-case hexadecimal with `width` digits. -/
def hexOf (width n : Nat) : List Char :=
  let ds := (Text.hexDigits n).map Char.toUpper
  List.replicate (width - ds.length) '0' ++ ds

/-- A character between double quotes. -/
def doubleQuotedChar (c : Char) : List Char :=
  if isPrintable c && !isBreak c && c != '"' && c != '\\' then [c]
  else if c = '\x00' then ['\\', '0']
  else if c = '\x07' then ['\\', 'a']
  else if c = '\x08' then ['\\', 'b']
  else if c = '\t' then ['\\', 't']
  else if c = '\n' then ['\\', 'n']
  else if c = '\x0b' then ['\\', 'v']
  else if c = '\x0c' then ['\\', 'f']
  else if c = '\r' then ['\\', 'r']
  else if c = '\x1b' then ['\\', 'e']
  else if c = '"' then ['\\', '"']
  else if c = '\\' then ['\\', '\\']
  else if c = '\x85' then ['\\', 'N']
  else if c = '\u2028' then ['\\', 'L']
  else if c = '\u2029' then ['\\', 'P']
  else if c.toNat ≤ 0xFF then '\\' :: 'x' :: hexOf 2 c.toNat
  else if c.toNat ≤ 0xFFFF then '\\' :: 'u' :: hexOf 4 c.toNat
  else '\\' :: 'U' :: hexOf 8 c.toNat

/-- The text between double quotes. -/
def doubleQuoted (cs : List Char) : List Char :=
  '"' :: (cs.flatMap doubleQuotedChar ++ ['"'])

/-- The header of a literal block: an indentation hint if the text starts with a space or a break,
`-` if it does not end in a break, `+` if it ends in more than one. -/
def literalHeader (cs : List Char) : List Char :=
  let hint := if cs.head?.any fun c => c == ' ' || isBreak c then ['2'] else []
  let chomp := match cs.reverse with
    | [] => ['-']
    | [c] => if isBreak c then ['+'] else ['-']
    | c :: d :: _ => if isBreak c then (if isBreak d then ['+'] else []) else ['-']
  '|' :: (hint ++ chomp)

/-- The text as a literal block whose lines are indented. -/
def literalBlock (indent : Nat) (cs : List Char) : List Char :=
  literalHeader cs ++ '\n' :: indented indent true cs

/-- A text in its style. -/
def scalarChars (indent : Nat) (s : String) : List Char :=
  match styleOf s with
  | .plain => s.toList
  | .single => singleQuoted indent s.toList
  | .double => doubleQuoted s.toList
  | .literal => literalBlock indent s.toList

/-- A key, which must fit on one line. -/
def keyChars (s : String) : List Char :=
  match styleOf s with
  | .plain => s.toList
  | .single => singleQuoted 0 s.toList
  | _ => doubleQuoted s.toList

/-! ## Collections -/

/-- A value that takes no line of its own. -/
def atomChars (indent : Nat) : Json → List Char
  | .null => "null".toList
  | .bool true => "true".toList
  | .bool false => "false".toList
  | .number n => n.text.toList
  | .text s => scalarChars indent s
  | .array _ => "[]".toList
  | .object _ => "\x7b\x7d".toList

/-- One text below the other: a break is put between them unless the first ends in one. -/
def below (a b : List Char) : List Char :=
  if a.getLast?.any isBreak then a ++ b else a ++ '\n' :: b

/-- Texts one below the other. -/
def stack : List (List Char) → List Char
  | [] => []
  | [a] => a
  | a :: rest => below a (stack rest)

mutual

/-- The value after the colon of a key at column `indent`. -/
def memberChars (indent : Nat) : Json → List Char
  | .array [] => " []".toList
  | .array items => stack ([] :: itemBlocks indent items)
  | .object [] => " \x7b\x7d".toList
  | .object members => stack ([] :: memberBlocks (indent + 2) members)
  | j => ' ' :: atomChars (indent + 2) j

/-- Items with their dashes at column `indent`. -/
def itemBlocks (indent : Nat) : List Json → List (List Char)
  | [] => []
  | item :: items => (spaces indent ++ '-' :: itemChars indent item) :: itemBlocks indent items

/-- The item after a dash at column `indent`. -/
def itemChars (indent : Nat) : Json → List Char
  | .array [] => " []".toList
  | .array items => ' ' :: (stack (itemBlocks (indent + 2) items)).drop (indent + 2)
  | .object [] => " \x7b\x7d".toList
  | .object members => ' ' :: (stack (memberBlocks (indent + 2) members)).drop (indent + 2)
  | j => ' ' :: atomChars (indent + 2) j

/-- Members with their keys at column `indent`. -/
def memberBlocks (indent : Nat) : List (String × Json) → List (List Char)
  | [] => []
  | (key, value) :: members =>
    (spaces indent ++ keyChars key ++ ':' :: memberChars indent value) ::
      memberBlocks indent members

end

/-- The whole document, which ends with a line break. -/
def documentChars : Json → List Char
  | .array (item :: items) => below (stack (itemBlocks 0 (item :: items))) []
  | .object (m :: members) => below (stack (memberBlocks 0 (m :: members))) []
  | j => below (atomChars 0 j) []

/-- A value as a YAML document. -/
def print (j : Json) : String :=
  String.ofList (documentChars j)

end Dialogue.Yaml
