/-
Patterns, as they are written down to search a text for a word: a part may ask for characters, or for
the start or the end of the text. A pattern matches a stretch of a text, with what stands before and
behind it in view.
-/
import Dialogue.Text.Mention

namespace Dialogue.Text

/-- What may stand somewhere in a text. -/
inductive Pattern where
  /-- Nothing at all. -/
  | empty
  /-- Nothing, where the text starts. -/
  | start
  /-- Nothing, where the text ends. -/
  | finish
  /-- One character of a class. -/
  | char (p : Char → Bool)
  /-- One pattern behind the other. -/
  | both (a b : Pattern)
  /-- One pattern or the other. -/
  | either (a b : Pattern)

namespace Pattern

/-- The word, character by character and whatever the case of its letters. -/
def word : List Char → Pattern
  | [] => empty
  | w :: ws => both (char fun c => foldChar c == foldChar w) (word ws)

end Pattern

end Dialogue.Text
