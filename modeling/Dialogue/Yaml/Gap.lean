/-
Gaps: what separates the runs of characters in a scalar that stands on several lines. Blanks on
one line are kept. A single line break becomes a space; of several the first is dropped and the
others are kept; blanks around line breaks are dropped.
-/
import Dialogue.Yaml.Character

namespace Dialogue.Yaml

/-- Blanks on one line, or line breaks with the blanks around them left out. -/
structure Gap where
  blanks : List Char := []
  breaks : List Char := []
  /-- The number of blanks behind the last break. -/
  column : Nat := 0
  /-- The columns of tabs behind a break. -/
  tabs : List Nat := []
deriving DecidableEq, Repr

namespace Gap

/-- Whether there is nothing at all. -/
def isEmpty (g : Gap) : Bool :=
  g.blanks.isEmpty && g.breaks.isEmpty

/-- Whether the gap goes over the end of a line. -/
def hasBreak (g : Gap) : Bool :=
  !g.breaks.isEmpty

/-- Whether the gap ends at the start of a line. -/
def endsLine (g : Gap) : Bool :=
  g.hasBreak && g.column == 0

/-- What the gap stands for. -/
def text (g : Gap) : List Char :=
  match g.breaks with
  | [] => g.blanks
  | b :: rest =>
    if b ≠ '\n' then b :: rest
    else if rest.isEmpty then [' ']
    else rest

/-- The rest of a gap, at a column of a new line. -/
def onNewLine (column : Nat) : List Char → Gap × List Char
  | '\r' :: '\n' :: cs =>
    let (g, rest) := onNewLine 0 cs
    ({ g with breaks := '\n' :: g.breaks }, rest)
  | c :: cs =>
    if isSpacing c then
      let (g, rest) := onNewLine (column + 1) cs
      (if c = '\t' then { g with tabs := column :: g.tabs } else g, rest)
    else if isBreak c then
      let (g, rest) := onNewLine 0 cs
      let b := if c = '\u2028' ∨ c = '\u2029' then c else '\n'
      ({ g with breaks := b :: g.breaks }, rest)
    else ({ column }, c :: cs)
  | [] => ({ column }, [])

/-- The gap in front of the text. -/
def read (cs : List Char) : Gap × List Char :=
  let blanks := cs.takeWhile isSpacing
  let cs := cs.drop blanks.length
  match readBreak cs with
  | some (b, cs) =>
    let (g, rest) := onNewLine 0 cs
    ({ g with breaks := b :: g.breaks }, rest)
  | none => ({ blanks }, cs)

end Gap

end Dialogue.Yaml
