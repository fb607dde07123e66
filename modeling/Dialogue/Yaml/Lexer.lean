/-
Tokens, and the lexer that cuts a YAML text into them. Indentation becomes visible as marks that open
and close block collections, and every key is announced by a mark of its own. Whether a scalar is a
key shows only at the colon behind it, so the lexer remembers where a key may have started, and puts
the marks for it there once the colon comes. A key has to stand on one line and within 1024 characters
of its colon.
-/
import Dialogue.Yaml.Block
import Dialogue.Yaml.Flowing

namespace Dialogue.Yaml

/-- A token. -/
inductive Token where
  | versionDirective (major minor : Nat)
  /-- A handle for tags, and what it stands for. -/
  | tagDirective (handle head : String)
  | documentStart
  | documentEnd
  | blockListStart
  | blockRecordStart
  | blockEnd
  | flowListStart
  | flowListEnd
  | flowRecordStart
  | flowRecordEnd
  /-- The dash in front of an item. -/
  | blockItem
  /-- The comma between entries. -/
  | flowComma
  | key
  | value
  /-- A reference to a node. -/
  | alias (name : String)
  /-- A name for the node that follows. -/
  | anchor (name : String)
  | tag (handle suffix : String)
  | scalar (plain : Bool) (text : String)
deriving DecidableEq, Repr

/-! ## What the lexer knows -/

/-- A place in a text. -/
structure Place where
  line : Nat := 0
  column : Nat := 0
  /-- The number of characters in front. -/
  offset : Nat := 0
deriving DecidableEq, Repr

/-- The place behind some characters. -/
def Place.after (p : Place) : List Char → Place
  | [] => p
  | '\r' :: '\n' :: cs => Place.after ⟨p.line + 1, 0, p.offset + 2⟩ cs
  | c :: cs =>
    if isBreak c then Place.after ⟨p.line + 1, 0, p.offset + 1⟩ cs
    else Place.after ⟨p.line, p.column + 1, p.offset + 1⟩ cs

/-- Where a key may have started. -/
structure PossibleKey where
  place : Place
  /-- The number of tokens in front. -/
  position : Nat
  /-- Whether nothing but a key can stand there. -/
  required : Bool
deriving DecidableEq, Repr

/-- What the lexer knows. -/
structure Lexer where
  rest : List Char
  place : Place := {}
  /-- The tokens so far, the latest first. -/
  written : List Token := []
  /-- The columns of the open block collections, the innermost first. -/
  columns : List Nat := []
  /-- The possible key of the innermost collection. -/
  possibleKey : Option PossibleKey := none
  /-- The possible keys around the open brackets, the innermost first. -/
  outerKeys : List (Option PossibleKey) := []
  /-- Whether a key may start here. -/
  keyAllowed : Bool := true
deriving DecidableEq, Repr

namespace Lexer

/-- Whether brackets are open. -/
def inFlow (l : Lexer) : Bool :=
  !l.outerKeys.isEmpty

/-- The least column of what is indented below the innermost block collection. -/
def innerColumn (l : Lexer) : Nat :=
  match l.columns with
  | [] => 0
  | c :: _ => c + 1

/-- Goes on at `rest`, a later part of the text. -/
def moveTo (l : Lexer) (rest : List Char) : Lexer :=
  { l with rest, place := l.place.after (l.rest.take (l.rest.length - rest.length)) }

/-- Writes a token. -/
def write (l : Lexer) (t : Token) : Lexer :=
  { l with written := t :: l.written }

/-- Writes a token that takes `n` characters. -/
def writeOver (l : Lexer) (t : Token) (n : Nat) : Lexer :=
  (l.moveTo (l.rest.drop n)).write t

/-- Writes a token at an earlier position. -/
def writeAt (l : Lexer) (t : Token) (position : Nat) : Lexer :=
  let later := l.written.length - position
  { l with written := l.written.take later ++ t :: l.written.drop later }

/-! ## Possible keys -/

/-- Gives up the possible key, which must not have been required. -/
def dropKey (l : Lexer) : Option Lexer :=
  if l.possibleKey.any (·.required) then none else some { l with possibleKey := none }

/-- Notes that a key may start here, if keys are allowed. -/
def noteKey (l : Lexer) : Option Lexer :=
  if l.keyAllowed then do
    let required := !l.inFlow && l.columns.head? == some l.place.column
    let l ← l.dropKey
    some { l with possibleKey := some ⟨l.place, l.written.length, required⟩ }
  else some l

/-- Allows keys, or forbids them. -/
def allowKey (l : Lexer) (allowed : Bool) : Lexer :=
  { l with keyAllowed := allowed }

/-- The longest distance between the start of a key and its colon. -/
def keySpan : Nat := 1024

/-- A possible key, unless it is out of date; a required one must not be. -/
def current (here : Place) (k : Option PossibleKey) : Option (Option PossibleKey) :=
  match k with
  | some k =>
    if k.place.line < here.line ∨ k.place.offset + keySpan < here.offset then
      if k.required then none else some none
    else some (some k)
  | none => some none

/-- Gives up the possible keys that are out of date. -/
def dropOldKeys (l : Lexer) : Option Lexer := do
  let possibleKey ← current l.place l.possibleKey
  let outerKeys ← l.outerKeys.mapM (current l.place)
  some { l with possibleKey, outerKeys }

/-! ## Indentation -/

/-- Opens a block collection at a column if it is deeper than the open ones. -/
def openBlock (l : Lexer) (t : Token) (column position : Nat) : Lexer :=
  if l.inFlow || column < l.innerColumn then l
  else { l.writeAt t position with columns := column :: l.columns }

/-- Closes the block collections that are deeper than a column. -/
def closeBlocks (column : Nat) : (columns : List Nat) → List Token → List Nat × List Token
  | [], written => ([], written)
  | c :: columns, written =>
    if column < c then closeBlocks column columns (.blockEnd :: written)
    else (c :: columns, written)

/-- Closes the block collections that end in front of this column. -/
def closeDeeper (l : Lexer) : Lexer :=
  if l.inFlow then l
  else
    let (columns, written) := closeBlocks l.place.column l.columns l.written
    { l with columns, written }

/-- Closes all block collections. -/
def closeAll (l : Lexer) : Lexer :=
  if l.inFlow then l
  else { l with columns := [], written := l.columns.map (fun _ => .blockEnd) ++ l.written }

/-! ## Blanks and comments -/

/-- Skips blanks, comments and line breaks. Outside of brackets a new line allows keys; where a
key may start, a tab is no blank. -/
def skipFiller (inFlow : Bool) :
    (keyAllowed inComment : Bool) → List Char → Bool × List Char
  | keyAllowed, _, [] => (keyAllowed, [])
  | keyAllowed, inComment, c :: cs =>
    if isBreak c then skipFiller inFlow (keyAllowed || !inFlow) false cs
    else if inComment then skipFiller inFlow keyAllowed true cs
    else if c = ' ' ∨ (c = '\t' ∧ (inFlow ∨ !keyAllowed)) then
      skipFiller inFlow keyAllowed false cs
    else if c = '#' then skipFiller inFlow keyAllowed true cs
    else (keyAllowed, c :: cs)

/-- Goes to the next token. -/
def skip (l : Lexer) : Lexer :=
  let (keyAllowed, rest) := skipFiller l.inFlow l.keyAllowed false l.rest
  (l.moveTo rest).allowKey keyAllowed

/-! ## Names and tags -/

/-- The name of an anchor, and what follows it. -/
def readName (cs : List Char) : Option (String × List Char) :=
  let name := cs.takeWhile isNameChar
  let rest := cs.drop name.length
  if name.isEmpty then none
  else if gapFirst rest || rest.head?.any ("?:,]\x7d%@\x60".toList.contains ·) then
    some (String.ofList name, rest)
  else none

/-- Characters of a tag, apart from letters and digits. -/
def tagMarks (verbatim : Bool) : List Char :=
  "-_;/?:@&=+$.!~*'()%".toList ++ if verbatim then ",[]".toList else []

/-- The characters of a tag in front of the text. -/
def tagChars (verbatim : Bool) (cs : List Char) : List Char :=
  cs.takeWhile fun c => c.isAlphanum || (tagMarks verbatim).contains c

/-- The handle in front of the text: an exclamation mark, or a name between two. -/
def readHandle : List Char → Option (List Char × List Char)
  | '!' :: cs =>
    let name := cs.takeWhile isNameChar
    match cs.drop name.length with
    | '!' :: rest => some ('!' :: name ++ ['!'], rest)
    | rest => some ('!' :: name, rest)
  | _ => none

/-- The tag behind its exclamation mark, as a handle and a suffix. -/
def readTag (cs : List Char) : Option (Token × List Char) := do
  match cs with
  | '<' :: cs =>
    let suffix := tagChars true cs
    match suffix, cs.drop suffix.length with
    | _ :: _, '>' :: rest => some (.tag "" (String.ofList suffix), rest)
    | _, _ => none
  | cs =>
    let (handle, rest) ← readHandle ('!' :: cs)
    if handle.length > 1 ∧ handle.getLast? = some '!' then
      let suffix := tagChars false rest
      if suffix.isEmpty then none
      else some (.tag (String.ofList handle) (String.ofList suffix), rest.drop suffix.length)
    else
      let suffix := tagChars false cs
      some (if suffix.isEmpty then .tag "" "!" else .tag "!" (String.ofList suffix),
        cs.drop suffix.length)

/-- The tag, which must be followed by a gap, or inside brackets by a comma. -/
def readWholeTag (inFlow : Bool) (cs : List Char) : Option (Token × List Char) := do
  let (t, rest) ← readTag cs
  if gapFirst rest || (inFlow && rest.head? == some ',') then some (t, rest) else none

/-! ## Directives -/

/-- A number of at most nine digits. -/
def readNumber (cs : List Char) : Option (Nat × List Char) :=
  let ds := cs.takeWhile Char.isDigit
  if ds.isEmpty ∨ 9 < ds.length then none
  else some (ds.foldl (fun n d => 10 * n + (d.toNat - '0'.toNat)) 0, cs.drop ds.length)

/-- The directive behind its percent sign. -/
def readDirective (cs : List Char) : Option (Token × List Char) := do
  let name := cs.takeWhile isNameChar
  let rest := (cs.drop name.length).dropWhile isSpacing
  if name = "YAML".toList then
    let (major, rest) ← readNumber rest
    match rest with
    | '.' :: rest =>
      let (minor, rest) ← readNumber rest
      some (.versionDirective major minor, ← BlockHeader.leaveLine rest)
    | _ => none
  else if name = "TAG".toList then
    let (handle, rest) ← readHandle rest
    if handle.length > 1 ∧ handle.getLast? ≠ some '!' then none
    else if !(rest.head?.any isSpacing) then none
    else
      let rest := rest.dropWhile isSpacing
      let head := tagChars true rest
      if head.isEmpty then none
      else some (.tagDirective (String.ofList handle) (String.ofList head),
        ← BlockHeader.leaveLine (rest.drop head.length))
  else none

/-! ## Tokens -/

/-- A directive, or a line that begins or ends a document. -/
def documentToken (l : Lexer) (t : Token) (rest : List Char) : Option Lexer := do
  let l ← l.closeAll.dropKey
  some (((l.allowKey false).moveTo rest).write t)

/-- An opening bracket. -/
def openFlow (l : Lexer) (t : Token) : Option Lexer := do
  let l ← l.noteKey
  let l := { l with outerKeys := l.possibleKey :: l.outerKeys, possibleKey := none }
  some ((l.allowKey true).writeOver t 1)

/-- A closing bracket. -/
def closeFlow (l : Lexer) (t : Token) : Option Lexer := do
  let l ← l.dropKey
  let l := match l.outerKeys with
    | k :: outerKeys => { l with possibleKey := k, outerKeys }
    | [] => l
  some ((l.allowKey false).writeOver t 1)

/-- A comma between entries. -/
def comma (l : Lexer) : Option Lexer := do
  let l ← l.dropKey
  some ((l.allowKey true).writeOver .flowComma 1)

/-- The dash of an item, which opens a list if it is indented deeper. -/
def item (l : Lexer) : Option Lexer := do
  if !l.inFlow && !l.keyAllowed then none
  let l := l.openBlock .blockListStart l.place.column l.written.length
  let l ← l.dropKey
  some ((l.allowKey true).writeOver .blockItem 1)

/-- The question mark of a key, which opens a record if it is indented deeper. -/
def explicitKey (l : Lexer) : Option Lexer := do
  if !l.inFlow && !l.keyAllowed then none
  let l := l.openBlock .blockRecordStart l.place.column l.written.length
  let l ← l.dropKey
  some ((l.allowKey (!l.inFlow)).writeOver .key 1)

/-- The colon in front of a value. It makes a key of what could be one. -/
def value (l : Lexer) : Option Lexer :=
  match l.possibleKey with
  | some k =>
    let l := (l.writeAt .key k.position).openBlock .blockRecordStart k.place.column k.position
    some (({ l with possibleKey := none }.allowKey false).writeOver .value 1)
  | none =>
    if !l.inFlow && !l.keyAllowed then none
    else
      let l := l.openBlock .blockRecordStart l.place.column l.written.length
      some ((l.allowKey (!l.inFlow)).writeOver .value 1)

/-- A token that may stand in front of a colon. -/
def keyLike (l : Lexer) (t : Token) (rest : List Char) : Option Lexer := do
  let l ← l.noteKey
  some (((l.allowKey false).moveTo rest).write t)

/-- A block scalar. -/
def block (l : Lexer) (folded : Bool) (cs : List Char) : Option Lexer := do
  let l ← l.dropKey
  let (text, rest) ← blockScalar folded l.innerColumn cs
  some (((l.allowKey true).moveTo rest).write (.scalar false (String.ofList text)))

/-- A quoted scalar. -/
def quoted (l : Lexer) (quote : Char) (cs : List Char) : Option Lexer := do
  let (text, rest) ← quotedScalar quote cs
  l.keyLike (.scalar false (String.ofList text)) rest

/-- Whether a plain scalar may start with the character. -/
def startsPlain (inFlow : Bool) (c : Char) (cs : List Char) : Bool :=
  if c = '-' then !cs.head?.any isSpacing
  else if c = '?' ∨ c = ':' then !inFlow && !gapFirst cs
  else !isGap c && !isIndicator c

/-- A plain scalar. -/
def plain (l : Lexer) : Option Lexer := do
  let (text, broken, rest) ← plainScalar l.inFlow l.innerColumn l.rest
  let l ← l.keyLike (.scalar true (String.ofList text)) rest
  some (if broken then l.allowKey true else l)

/-- Takes one token, which starts with the character. -/
def token (l : Lexer) (c : Char) (cs : List Char) : Option Lexer :=
  if l.place.column = 0 ∧ c = '%' then do
    let (t, rest) ← readDirective cs
    l.documentToken t rest
  else if l.place.column = 0 ∧ documentMark '-' l.rest then
    l.documentToken .documentStart (l.rest.drop 3)
  else if l.place.column = 0 ∧ documentMark '.' l.rest then
    l.documentToken .documentEnd (l.rest.drop 3)
  else if c = '[' then l.openFlow .flowListStart
  else if c = '\x7b' then l.openFlow .flowRecordStart
  else if c = ']' then l.closeFlow .flowListEnd
  else if c = '\x7d' then l.closeFlow .flowRecordEnd
  else if c = ',' then l.comma
  else if c = '-' ∧ gapFirst cs then l.item
  else if c = '?' ∧ (l.inFlow ∨ gapFirst cs) then l.explicitKey
  else if c = ':' ∧ (l.inFlow ∨ gapFirst cs) then l.value
  else if c = '*' then do
    let (name, rest) ← readName cs
    l.keyLike (.alias name) rest
  else if c = '&' then do
    let (name, rest) ← readName cs
    l.keyLike (.anchor name) rest
  else if c = '!' then do
    let (t, rest) ← readWholeTag l.inFlow cs
    l.keyLike t rest
  else if c = '|' ∧ !l.inFlow then l.block false cs
  else if c = '>' ∧ !l.inFlow then l.block true cs
  else if c = '\'' ∨ c = '"' then l.quoted c cs
  else if startsPlain l.inFlow c cs then l.plain
  else none

/-- Takes all tokens. -/
def run : Nat → Lexer → Option Lexer
  | 0, _ => none
  | fuel + 1, l => do
    let l := l.skip
    let l ← l.dropOldKeys
    match l.rest with
    | [] => l.closeAll.dropKey
    | c :: cs => (l.closeDeeper.token c cs).bind (run fuel)

end Lexer

/-- The tokens of a text, or nothing if it cannot be cut into tokens. A mark of the byte order in
front does not count. -/
def tokens? (s : String) : Option (List Token) := do
  let cs := match s.toList with
    | '\ufeff' :: cs => cs
    | cs => cs
  if cs.all isReadable then
    let l ← Lexer.run (cs.length + 1) { rest := cs }
    some l.written.reverse
  else none

end Dialogue.Yaml
