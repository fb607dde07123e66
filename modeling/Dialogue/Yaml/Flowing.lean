/-
Scalars that run on over lines: plain ones, which end before whatever has a meaning of its own,
and those between single or double quotes.
-/
import Dialogue.Json.StringToken
import Dialogue.Yaml.Gap

namespace Dialogue.Yaml

/-! ## Plain scalars -/

/-- A run of a plain scalar. Inside brackets, a colon may not be followed by a mark. -/
def plainRun (inFlow : Bool) : List Char → Option (List Char × List Char)
  | [] => some ([], [])
  | c :: cs =>
    if isGap c || (inFlow && isFlowMark c) then some ([], c :: cs)
    else if c = ':' ∧ gapFirst cs then some ([], c :: cs)
    else if c = ':' ∧ inFlow ∧ (cs.head?.any fun d => isFlowMark d || d == '?') then none
    else do
      let (run, rest) ← plainRun inFlow cs
      some (c :: run, rest)

/-- Whether a plain scalar ends behind a gap: at a comment, at the end of the document, and in
block style at a line that is not indented. -/
def endsPlain (inFlow : Bool) (indent : Nat) (g : Gap) (rest : List Char) : Bool :=
  rest.head? == some '#' || (g.endsLine && atDocumentMark rest) ||
    (!inFlow && g.hasBreak && g.column < indent)

/-- What follows a run of a plain scalar: further text, the rest, and whether a line ended between
the scalar and the rest. Tabs may not take the place of indentation. -/
def plainTail (inFlow : Bool) (indent : Nat) :
    Nat → List Char → Option (List Char × Bool × List Char)
  | 0, _ => none
  | fuel + 1, cs =>
    let (g, rest) := Gap.read cs
    if g.tabs.any (· < indent) then none
    else if g.isEmpty || endsPlain inFlow indent g rest then some ([], g.hasBreak, rest)
    else do
      let (run, rest) ← plainRun inFlow rest
      if run.isEmpty then some ([], g.hasBreak, rest)
      else do
        let (text, broken, rest) ← plainTail inFlow indent fuel rest
        some (g.text ++ run ++ text, broken, rest)

/-- The plain scalar in front of the text, the rest, and whether a line ended between them. -/
def plainScalar (inFlow : Bool) (indent : Nat) (cs : List Char) :
    Option (List Char × Bool × List Char) := do
  let (run, rest) ← plainRun inFlow cs
  let (text, broken, rest) ← plainTail inFlow indent (cs.length + 1) rest
  some (run ++ text, broken, rest)

/-! ## Quoted scalars -/

/-- The character that a backslash and a character stand for. -/
def shortEscape? (c : Char) : Option Char :=
  [('0', '\x00'), ('a', '\x07'), ('b', '\x08'), ('t', '\t'), ('\t', '\t'), ('n', '\n'),
    ('v', '\x0b'), ('f', '\x0c'), ('r', '\r'), ('e', '\x1b'), (' ', ' '), ('"', '"'), ('/', '/'),
    ('\\', '\\'), ('N', '\x85'), ('_', '\xa0'), ('L', '\u2028'), ('P', '\u2029')].lookup c

/-- The number of hexadecimal digits behind a backslash and a letter. -/
def codeLength? (c : Char) : Option Nat :=
  [('x', 2), ('u', 4), ('U', 8)].lookup c

/-- The character whose code is given by hexadecimal digits. -/
def charOfCode? (ds : List Char) : Option Char := do
  let n ← ds.foldlM (fun n d => (Json.hexValue? d).map (16 * n + ·)) 0
  if n.isValidChar then some (Char.ofNat n) else none

/-- How a run between quotes ends. -/
inductive RunEnd where
  /-- At the closing quote or at a gap. -/
  | here
  /-- At a line break behind a backslash, which joins the lines. -/
  | joined
deriving DecidableEq, Repr

/-- A run between single quotes; a doubled quote stands for one. -/
def singleRun : List Char → List Char × List Char
  | '\'' :: '\'' :: cs =>
    let (run, rest) := singleRun cs
    ('\'' :: run, rest)
  | c :: cs =>
    if c = '\'' ∨ isGap c then ([], c :: cs)
    else
      let (run, rest) := singleRun cs
      (c :: run, rest)
  | [] => ([], [])

/-- A run between double quotes. `pending` counts the characters of an escape that were taken
already. -/
def doubleRun : (pending : Nat) → List Char → Option (List Char × RunEnd × List Char)
  | _, [] => some ([], .here, [])
  | pending + 1, _ :: cs => doubleRun pending cs
  | 0, '\\' :: c :: cs =>
    match shortEscape? c, codeLength? c with
    | some x, _ => do
      let (run, e, rest) ← doubleRun 1 (c :: cs)
      some (x :: run, e, rest)
    | none, some n =>
      if cs.length < n then none
      else do
        let x ← charOfCode? (cs.take n)
        let (run, e, rest) ← doubleRun (n + 1) (c :: cs)
        some (x :: run, e, rest)
    | none, none => if isBreak c then some ([], .joined, c :: cs) else none
  | 0, c :: cs =>
    if c = '"' ∨ isGap c then some ([], .here, c :: cs)
    else if c = '\\' then none
    else do
      let (run, e, rest) ← doubleRun 0 cs
      some (c :: run, e, rest)

/-- A run between quotes of either kind. -/
def quotedRun (quote : Char) (cs : List Char) : Option (List Char × RunEnd × List Char) :=
  if quote = '"' then doubleRun 0 cs
  else
    let (run, rest) := singleRun cs
    some (run, .here, rest)

/-- The gap behind a run: what it stands for, and whether it ends at the start of a line. -/
def quotedGap (e : RunEnd) (cs : List Char) : List Char × Bool × List Char :=
  match e, readBreak cs with
  | .joined, some (_, cs) =>
    let (g, rest) := Gap.onNewLine 0 cs
    (g.breaks, g.column == 0, rest)
  | _, _ =>
    let (g, rest) := Gap.read cs
    (g.text, g.endsLine, rest)

/-- The text up to the closing quote. -/
def quotedRest (quote : Char) : Nat → List Char → Option (List Char × List Char)
  | 0, _ => none
  | fuel + 1, cs => do
    let (run, e, rest) ← quotedRun quote cs
    match rest with
    | [] => none
    | c :: after =>
      if e = .here ∧ c = quote then some (run, after)
      else
        let (gap, atStart, rest) := quotedGap e rest
        if atStart && atDocumentMark rest then none
        else do
          let (text, rest) ← quotedRest quote fuel rest
          some (run ++ gap ++ text, rest)

/-- The scalar whose opening quote has been taken, and the rest. -/
def quotedScalar (quote : Char) (cs : List Char) : Option (List Char × List Char) :=
  quotedRest quote (cs.length + 1) cs

end Dialogue.Yaml
