/-
Lower-casing of whole texts: every character by its own form, except that a capital sigma at the
end of a word becomes the final sigma, and that the dotted capital I becomes two characters.
-/
import Dialogue.Text.Basic
import Dialogue.Text.CaseTable

namespace Dialogue.Text

/-- The lower-case form of a character, whatever stands around it. -/
def lowerChar (c : Char) : List Char :=
  if c.toNat < 0x80 then [c.toLower]
  else if c = 'İ' then ['i', '\u0307']
  else [lowerForms.apply c]

/-- Whether the first character that does not count as ignorable is cased. -/
def startsCased (cs : List Char) : Bool :=
  match cs.dropWhile caseIgnorableChars.contains with
  | c :: _ => casedChars.contains c
  | [] => false

/-- Lower-cases the characters after `before`, which is held in reverse. A sigma is final when a
cased character precedes it and none follows, ignorable characters not counted. -/
def lowerChars : (before : List Char) → List Char → List Char
  | _, [] => []
  | before, c :: after =>
    let low := if c = 'Σ' then
        if startsCased before && !startsCased after then ['ς'] else ['σ']
      else lowerChar c
    low ++ lowerChars (c :: before) after

/-- The text in lower case. -/
def lowercase (s : String) : String :=
  String.ofList (lowerChars [] s.toList)

/-- The form in which keywords, labels and tiers are compared: trimmed, then lower-cased. -/
def normalize (s : String) : String :=
  lowercase (trim s)

end Dialogue.Text
