/-
The characters that structure a YAML text: line breaks, blanks and indicators.
-/
namespace Dialogue.Yaml

/-- Line breaks: line feed, carriage return, next line, line and paragraph separator. -/
def isBreak (c : Char) : Bool :=
  c == '\n' || c == '\r' || c == '\x85' || c == '\u2028' || c == '\u2029'

/-- The two characters that separate words on a line. -/
def isSpacing (c : Char) : Bool :=
  c == ' ' || c == '\t'

/-- Spaces, tabs, line breaks and the null character. -/
def isGap (c : Char) : Bool :=
  isSpacing c || c == '\x00' || isBreak c

/-- Characters that may be written as they are. -/
def isPrintable (c : Char) : Bool :=
  c == '\n' || (0x20 ≤ c.toNat && c.toNat ≤ 0x7E) ||
    (0xA0 ≤ c.toNat && c.toNat != 0xFEFF && c.toNat != 0xFFFE && c.toNat != 0xFFFF)

/-- Characters that a text may hold: no controls but tabs and line breaks. -/
def isReadable (c : Char) : Bool :=
  isPrintable c || c == '\t' || c == '\r' || c == '\x85' || c == '\ufeff'

/-- Characters with a meaning of their own at the start of a plain scalar. -/
def isIndicator (c : Char) : Bool :=
  "#,[]\x7b\x7d&*!|>'\"%@\x60".toList.contains c

/-- The marks of collections in brackets. -/
def isFlowMark (c : Char) : Bool :=
  ",[]\x7b\x7d".toList.contains c

/-- Characters of the names of anchors and of tag handles. -/
def isNameChar (c : Char) : Bool :=
  c.isAlphanum || c == '-' || c == '_'

/-- Whether a gap, or the end, comes first. -/
def gapFirst : List Char → Bool
  | [] => true
  | c :: _ => isGap c

/-- Whether the text starts with the line that begins or ends a document. -/
def documentMark (mark : Char) (cs : List Char) : Bool :=
  cs.take 3 == [mark, mark, mark] && gapFirst (cs.drop 3)

/-- Whether a document begins or ends here. -/
def atDocumentMark (cs : List Char) : Bool :=
  documentMark '-' cs || documentMark '.' cs

/-- One line break, as it counts in a scalar, and what follows it. -/
def readBreak : List Char → Option (Char × List Char)
  | '\r' :: '\n' :: cs => some ('\n', cs)
  | c :: cs =>
    if c = '\n' ∨ c = '\r' ∨ c = '\x85' then some ('\n', cs)
    else if isBreak c then some (c, cs)
    else none
  | [] => none

end Dialogue.Yaml
