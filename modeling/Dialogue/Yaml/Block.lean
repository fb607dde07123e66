/-
Block scalars: indented lines below a header. Literal ones keep their line breaks, folded ones
join lines that start with no blank. The header may fix the indentation and what becomes of the
breaks at the end.
-/
import Dialogue.Yaml.Character

namespace Dialogue.Yaml

/-- What becomes of the line breaks at the end. -/
inductive Chomp where
  /-- None is kept. -/
  | strip
  /-- One is kept. -/
  | clip
  | keep
deriving DecidableEq, Repr

/-- The header of a block scalar. -/
structure BlockHeader where
  folded : Bool
  chomp : Chomp := .clip
  /-- How much deeper than its surroundings the text is indented, if that is given. -/
  increment : Option Nat := none
deriving DecidableEq, Repr

namespace BlockHeader

/-- Adds a character to the header, if it may stand there. -/
def add (h : BlockHeader) (c : Char) : Option BlockHeader :=
  if c = '+' then some { h with chomp := .keep }
  else if c = '-' then some { h with chomp := .strip }
  else if c.isDigit ∧ c ≠ '0' then some { h with increment := some (c.toNat - '0'.toNat) }
  else none

/-- Whether a character belongs to the header: a sign or a digit, each at most once. -/
def takes (h : BlockHeader) (c : Char) : Bool :=
  ((c == '+' || c == '-') && h.chomp == .clip) || (c.isDigit && h.increment.isNone)

/-- The header from the characters behind its first mark, and what follows them. -/
def read (folded : Bool) (cs : List Char) : Option (BlockHeader × List Char) :=
  let h : BlockHeader := { folded }
  match cs with
  | a :: b :: rest =>
    if h.takes a then do
      let h ← h.add a
      if h.takes b then some (← h.add b, rest) else some (h, b :: rest)
    else some (h, cs)
  | [a] => if h.takes a then do some (← h.add a, []) else some (h, cs)
  | [] => some (h, [])

/-- Leaves the line of the header, on which only a comment may follow. -/
def leaveLine (cs : List Char) : Option (List Char) :=
  let cs := cs.dropWhile isSpacing
  let cs := if cs.head? = some '#' then cs.dropWhile fun c => !isBreak c else cs
  match cs with
  | [] => some []
  | cs => (readBreak cs).map (·.2)

end BlockHeader

/-- Empty lines, and the spaces in front of the next line. -/
structure BlankLines where
  breaks : List Char
  /-- The greatest number of spaces on one of these lines. -/
  widest : Nat
  /-- The number of spaces in front of what follows. -/
  column : Nat
deriving DecidableEq, Repr

/-- Skips spaces, up to the indentation if it is known, and empty lines. A tab may not stand where
indentation is expected. -/
def blankLines (indent : Option Nat) (column : Nat) : List Char → Option (BlankLines × List Char)
  | '\r' :: '\n' :: cs => do
    let (b, rest) ← blankLines indent 0 cs
    some (⟨'\n' :: b.breaks, max column b.widest, b.column⟩, rest)
  | c :: cs =>
    let inside := indent.all (column < ·)
    if c = ' ' ∧ inside then blankLines indent (column + 1) cs
    else if c = '\t' ∧ inside then none
    else if isBreak c then do
      let (b, rest) ← blankLines indent 0 cs
      let newLine := if c = '\u2028' ∨ c = '\u2029' then c else '\n'
      some (⟨newLine :: b.breaks, max column b.widest, b.column⟩, rest)
    else some (⟨[], column, column⟩, c :: cs)
  | [] => some (⟨[], column, column⟩, [])

/-- The break that ended the line before, as it is written before the next line. -/
def joint (folded : Bool) (ended : List Char) (blankBefore blankHere : Bool)
    (skipped : List Char) : List Char :=
  if folded && ended.head? == some '\n' && !blankBefore && !blankHere then
    if skipped.isEmpty then [' '] else []
  else ended

/-- The lines of a block scalar. `ended` is the break that ended the line before, `blankBefore`
tells whether that line started with a blank. -/
def blockLines (h : BlockHeader) (indent : Nat) :
    Nat → (ended : List Char) → (blankBefore : Bool) → BlankLines → List Char →
      Option (List Char × List Char)
  | 0, _, _, _, _ => none
  | fuel + 1, ended, blankBefore, blanks, cs =>
    match cs, blanks.column == indent with
    | c :: _, true => do
      let blankHere := isSpacing c
      let line := cs.takeWhile fun c => !isBreak c
      let after := cs.drop line.length
      let (newEnd, after) := match readBreak after with
        | some (b, after) => ([b], after)
        | none => ([], after)
      let (next, after) ← blankLines (some indent) 0 after
      let (text, rest) ← blockLines h indent fuel newEnd blankHere next after
      some (joint h.folded ended blankBefore blankHere blanks.breaks ++ blanks.breaks ++ line ++
        text, rest)
    | cs, _ =>
      let text := match h.chomp with
        | .strip => []
        | .clip => ended
        | .keep => ended ++ blanks.breaks
      some (text, cs)

/-- The block scalar behind its first mark, and the rest. `outer` is the least indentation of the
text. -/
def blockScalar (folded : Bool) (outer : Nat) (cs : List Char) :
    Option (List Char × List Char) := do
  let (h, cs) ← BlockHeader.read folded cs
  let cs ← BlockHeader.leaveLine cs
  let fixed := h.increment.map fun n => if outer = 0 then n else outer - 1 + n
  let (blanks, cs) ← blankLines fixed 0 cs
  let indent := fixed.getD (max blanks.widest (max outer 1))
  blockLines h indent (cs.length + 1) [] false blanks cs

end Dialogue.Yaml
