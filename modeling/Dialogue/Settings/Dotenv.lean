/-
Files with variables, one assignment on a line. Single quotes keep their text as it is; double
quotes and plain text may hold escapes, and variables after a dollar sign. What the environment
has already is kept, and the first bad line ends the reading.
-/
import Dialogue.Files.Tree
import Dialogue.Settings.Source
import Dialogue.Text.WordChar

namespace Dialogue.Dotenv

/-! ## Lines -/

/-- Where the cutting into lines stands. -/
inductive LineState where
  | plain
  /-- Behind a blank, where a comment may start. -/
  | blank
  | escape
  | weak
  | weakEscape
  | strong
  | comment
deriving DecidableEq, Repr

/-- The state behind a character. -/
def LineState.after (s : LineState) (c : Char) : LineState :=
  match s with
  | .plain =>
    if Text.isBlank c ∧ c ≠ '\n' ∧ c ≠ '\r' then .blank
    else if c = '\\' then .escape
    else if c = '"' then .weak
    else if c = '\'' then .strong
    else .plain
  | .blank =>
    if c = '#' then .comment
    else if c = '\\' then .escape
    else if c = '"' then .weak
    else if c = '\'' then .strong
    else .plain
  | .escape => .plain
  | .weak => if c = '\\' then .weakEscape else if c = '"' then .plain else .weak
  | .weakEscape => .weak
  | .strong => if c = '\'' then .plain else .strong
  | .comment => .comment

/-- An assignment as it stands in the file, or the fault of one that does not end. -/
inductive Entry where
  | line (cs : List Char)
  | unfinished
deriving DecidableEq, Repr

/-- The physical lines, each with its line feed. -/
def physicalLines (cs : List Char) : List (List Char) :=
  let ls := Text.cut '\n' cs
  let whole := ls.dropLast.map (· ++ ['\n'])
  match ls.getLast? with
  | some last => if last.isEmpty then whole else whole ++ [last]
  | none => whole

/-- The state at the end of a line, and the part of it in front of a comment. -/
def scan : LineState → List Char → LineState × List Char
  | s, [] => (s, [])
  | s, c :: cs =>
    match s.after c with
    | .comment => (.comment, [])
    | s =>
      let (e, front) := scan s cs
      (e, c :: front)

/-- Whether the first character that is not blank starts a comment. -/
def isComment (cs : List Char) : Bool :=
  (cs.dropWhile Text.isBlank).head? == some '#'

/-- Joins lines to assignments: quotes may go over several lines. -/
def entries (s : LineState) (held : List Char) : List (List Char) → List Entry
  | [] => if s = .plain then [] else [.unfinished]
  | l :: ls =>
    let all := held ++ l
    if isComment all then entries .plain [] ls
    else
      match scan s l with
      | (.plain, _) => .line all :: entries .plain [] ls
      | (.comment, front) => .line (held ++ front) :: entries .plain [] ls
      | (s, _) => entries s all ls

/-! ## Values -/

/-- What the reading of a value waits for. -/
inductive ValueState where
  | plain
  | strong
  | weak
  /-- Behind a backslash, inside double quotes or not. -/
  | escape (inWeak : Bool)
  /-- Behind a dollar sign: the name so far, in reverse. -/
  | variable (inWeak : Bool) (name : List Char)
  /-- Behind a dollar sign and an opening brace. -/
  | braced (inWeak : Bool) (name : List Char)
  /-- Behind the blank that ends a value. -/
  | finished
deriving DecidableEq, Repr

/-- The state outside of escapes and names. -/
def ValueState.ofQuote (inWeak : Bool) : ValueState :=
  if inWeak then .weak else .plain

/-- Whether a character belongs to the name of a variable without braces. -/
def isNameChar (c : Char) : Bool :=
  if c.toNat < 0x80 then c.isAlphanum else Text.isWordChar c

/-- The character that an escape stands for. -/
def escaped? (c : Char) : Option Char :=
  if c = '\\' ∨ c = '\'' ∨ c = '"' ∨ c = '$' ∨ c = ' ' then some c
  else if c = 'n' then some '\n'
  else none

/-- Reads one character in front of which nothing is pending. -/
def readPlain (c : Char) : ValueState × List Char :=
  if c = '$' then (.variable false [], [])
  else if c = '\'' then (.strong, [])
  else if c = '"' then (.weak, [])
  else if c = '\\' then (.escape false, [])
  else if c = ' ' ∨ c = '\t' then (.finished, [])
  else (.plain, [c])

/-- Reads one character inside double quotes. -/
def readWeak (c : Char) : ValueState × List Char :=
  if c = '$' then (.variable true [], [])
  else if c = '"' then (.plain, [])
  else if c = '\\' then (.escape true, [])
  else (.weak, [c])

/-- Reads a value, given the values of variables. A name without braces takes the character that
ends it as text. -/
def value? (lookup : String → String) : ValueState → List Char → Option (List Char)
  | .plain, [] => some []
  | .finished, [] => some []
  | .escape false, [] => some []
  | .variable false name, [] => some (lookup (String.ofList name.reverse)).toList
  | _, [] => none
  | .plain, c :: cs =>
    let (s, out) := readPlain c
    (value? lookup s cs).map (out ++ ·)
  | .weak, c :: cs =>
    let (s, out) := readWeak c
    (value? lookup s cs).map (out ++ ·)
  | .strong, c :: cs =>
    if c = '\'' then value? lookup .plain cs else (value? lookup .strong cs).map (c :: ·)
  | .escape inWeak, c :: cs =>
    match escaped? c with
    | some x => (value? lookup (.ofQuote inWeak) cs).map (x :: ·)
    | none => none
  | .variable inWeak name, c :: cs =>
    if isNameChar c then value? lookup (.variable inWeak (c :: name)) cs
    else if c = '\x7b' ∧ name.isEmpty then value? lookup (.braced inWeak []) cs
    else
      let out := (lookup (String.ofList name.reverse)).toList
      if c = '$' then (value? lookup (.variable inWeak []) cs).map (out ++ ·)
      else (value? lookup (.ofQuote inWeak) cs).map (out ++ c :: ·)
  | .braced inWeak name, c :: cs =>
    if c = '\x7d' then
      (value? lookup (.ofQuote inWeak) cs).map
        ((lookup (String.ofList name.reverse)).toList ++ ·)
    else value? lookup (.braced inWeak (c :: name)) cs
  | .finished, c :: cs =>
    if c = ' ' ∨ c = '\t' then value? lookup .finished cs
    else if c = '#' then some []
    else none

/-! ## Assignments -/

/-- The name in front of a text, and what follows it without the blanks in between. -/
def key? (cs : List Char) : Option (List Char × List Char) :=
  if cs.head?.any fun c => c.isAlpha || c == '_' then
    let name := cs.takeWhile fun c => c.isAlphanum || c == '_' || c == '.'
    some (name, (cs.drop name.length).dropWhile Text.isBlank)
  else none

/-- What follows an equals sign. -/
def afterEquals? : List Char → Option (List Char)
  | '=' :: cs => some (cs.dropWhile Text.isBlank)
  | _ => none

/-- The name and the value of a line, still as they stand. The word `export` in front does not
count. -/
def assignment? (cs : List Char) : Option (List Char × List Char) := do
  let (name, rest) ← key? cs
  match afterEquals? rest with
  | some value => some (name, value)
  | none =>
    if name = "export".toList then
      let (name, rest) ← key? rest
      some (name, ← afterEquals? rest)
    else none

/-- What the reading of a file has brought so far. -/
structure Loading where
  env : Environment
  /-- The assignments of the file, whether or not they counted. -/
  assigned : Table String := []

/-- The value of a variable: that of the environment, else that of the file. -/
def Loading.lookup (l : Loading) (name : String) : String :=
  match l.env.get? name with
  | some v => v
  | none => (l.assigned.get? name).getD ""

/-- Takes one line. -/
def Loading.take? (l : Loading) (line : List Char) : Option Loading :=
  match Text.stripEnds Text.isBlank line with
  | [] => some l
  | '#' :: _ => some l
  | cs => do
    let (name, rest) ← assignment? cs
    let key := String.ofList name
    let value ← if rest.isEmpty ∨ rest.head? = some '#' then some []
      else value? l.lookup .plain rest
    let value := String.ofList value
    some ⟨l.env.insertIfNew key value, l.assigned.insert key value⟩

/-- Takes lines up to the first bad one. -/
def Loading.takeAll (l : Loading) : List Entry → Loading
  | [] => l
  | .unfinished :: _ => l
  | .line cs :: rest =>
    match l.take? cs with
    | some l => l.takeAll rest
    | none => l

/-- The environment with the variables of a text. -/
def loadText (env : Environment) (s : String) : Environment :=
  let cs := match s.toList with
    | '\ufeff' :: cs => cs
    | cs => cs
  (Loading.takeAll { env } (entries .plain [] (physicalLines cs))).env

/-- The environment with the variables of a file. -/
def loadContent (env : Environment) : FileContent → Environment
  | .text s => loadText env s
  | .binary front => loadText env front

/-! ## Finding files -/

/-- The usual name of a file with variables. -/
def usualName : String := ".env"

/-- The content of the file of the usual name in the working folder or in the nearest folder around
it. -/
def findUpward (t : FileTree) : Option FileContent :=
  ((List.range (t.here.length + 1)).reverse.map fun n => t.here.take n ++ [usualName]).findSome?
    t.file?

/-- Opens the environment as a source of settings. A file is read into it: the named one, or else
the nearest one of the usual name. The last part tells whether the named file was there. -/
def openSource (env : Environment) (t : FileTree) (file : Option String) : Environment × Bool :=
  match file with
  | some path =>
    match (t.locate path).toOption.bind t.file? with
    | some content => (loadContent env content, true)
    | none => (env, t.isFolder path)
  | none =>
    match findUpward t with
    | some content => (loadContent env content, true)
    | none => (env, true)

end Dialogue.Dotenv
