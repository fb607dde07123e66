/-
JSON as text, in two layouts: without any space, and with a line for each item and two spaces of
indentation for each level. Only quotes, backslashes and control characters are escaped.
-/
import Dialogue.Json.Basic
import Dialogue.Number.Shortest
import Dialogue.Text.Quoted

namespace Dialogue.Json

/-- A character inside a JSON string. -/
def escapeChar (c : Char) : List Char :=
  if c = '"' then ['\\', '"']
  else if c = '\\' then ['\\', '\\']
  else if c = '\x08' then ['\\', 'b']
  else if c = '\t' then ['\\', 't']
  else if c = '\n' then ['\\', 'n']
  else if c = '\x0c' then ['\\', 'f']
  else if c = '\r' then ['\\', 'r']
  else if c.toNat < 0x20 then
    ['\\', 'u', '0', '0', Text.hexDigit (c.toNat / 16), Text.hexDigit (c.toNat % 16)]
  else [c]

/-- A JSON string with its quotes. -/
def stringChars (s : String) : List Char :=
  '"' :: (s.toList.flatMap escapeChar ++ ['"'])

/-- A value that is neither an array nor an object. -/
def atomChars : Json → List Char
  | .null => "null".toList
  | .bool true => "true".toList
  | .bool false => "false".toList
  | .number n => n.text.toList
  | .text s => stringChars s
  | .array _ => "[]".toList
  | .object _ => "\x7b\x7d".toList

mutual

/-- The value without any space. -/
def compactChars : Json → List Char
  | .array [] => "[]".toList
  | .array (item :: items) => '[' :: (compactChars item ++ (compactItems items ++ [']']))
  | .object [] => "\x7b\x7d".toList
  | .object ((name, value) :: members) =>
    '\x7b' :: (stringChars name ++ (':' :: compactChars value) ++
      (compactMembers members ++ ['\x7d']))
  | j => atomChars j

/-- Further items, each after a comma. -/
def compactItems : List Json → List Char
  | [] => []
  | item :: items => ',' :: (compactChars item ++ compactItems items)

/-- Further members, each after a comma. -/
def compactMembers : List (String × Json) → List Char
  | [] => []
  | (name, value) :: members =>
    ',' :: (stringChars name ++ (':' :: compactChars value) ++ compactMembers members)

end

/-- A line break and the indentation of a level. -/
def newLine (level : Nat) : List Char :=
  '\n' :: List.replicate (2 * level) ' '

mutual

/-- The value with one line for each item, at the given level. -/
def prettyChars (level : Nat) : Json → List Char
  | .array [] => "[]".toList
  | .array (item :: items) =>
    '[' :: (newLine (level + 1) ++ prettyChars (level + 1) item ++
      (prettyItems (level + 1) items ++ (newLine level ++ [']'])))
  | .object [] => "\x7b\x7d".toList
  | .object ((name, value) :: members) =>
    '\x7b' :: (newLine (level + 1) ++ stringChars name ++
      (':' :: ' ' :: prettyChars (level + 1) value) ++
      (prettyMembers (level + 1) members ++ (newLine level ++ ['\x7d'])))
  | j => atomChars j

/-- Further items, each on a line of its own. -/
def prettyItems (level : Nat) : List Json → List Char
  | [] => []
  | item :: items =>
    ',' :: (newLine level ++ prettyChars level item ++ prettyItems level items)

/-- Further members, each on a line of its own. -/
def prettyMembers (level : Nat) : List (String × Json) → List Char
  | [] => []
  | (name, value) :: members =>
    ',' :: (newLine level ++ stringChars name ++ (':' :: ' ' :: prettyChars level value) ++
      prettyMembers level members)

end

/-- The value on one line, without spaces. -/
def compact (j : Json) : String :=
  String.ofList j.compactChars

/-- The value over several lines. -/
def pretty (j : Json) : String :=
  String.ofList (j.prettyChars 0)

end Dialogue.Json
