/-
Mentions: where a text names a label. Letters are compared up to simple case folding, and the
label may not be glued to a word character on either side, so that labels with punctuation are
found as well as plain words.
-/
import Dialogue.Text.CaseTable
import Dialogue.Text.WordChar

namespace Dialogue.Text

/-- The least member of the folding class of `c`. -/
def foldChar (c : Char) : Char :=
  if c.toNat < 0x80 then c.toUpper else foldClasses.apply c

/-- Drops the folded word from the front of the text. -/
def afterFolded? : (word text : List Char) → Option (List Char)
  | [], rest => some rest
  | _ :: _, [] => none
  | w :: ws, c :: cs => if foldChar w = foldChar c then afterFolded? ws cs else none

/-- Whether a text starts with no word character. -/
def startsFree : List Char → Bool
  | [] => true
  | c :: _ => !isWordChar c

/-- Whether the word stands at the front of the text with no word character after it. -/
def mentionedHere (word text : List Char) : Bool :=
  match afterFolded? word text with
  | some rest => startsFree rest
  | none => false

/-- Whether the word stands somewhere behind a character that is no word character. -/
def mentionedBehind (word : List Char) : List Char → Bool
  | [] => false
  | c :: cs => (!isWordChar c && mentionedHere word cs) || mentionedBehind word cs

/-- Whether the text mentions the word: up to case, and free of word characters on both sides. -/
def mentions (text word : String) : Bool :=
  mentionedHere word.toList text.toList || mentionedBehind word.toList text.toList

end Dialogue.Text
