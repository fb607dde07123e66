/-
JSON text as a document. Reading never fails as a whole: what is wrong with the text becomes a
broken place in the document, so that a decoder meets it only if it gets that far. Nesting is
limited for values that are decoded, not for those that are passed over.
-/
import Dialogue.Document.Record
import Dialogue.Json.StringToken

namespace Dialogue.Json

/-- The four blanks of JSON. -/
def isSpace (c : Char) : Bool :=
  c == ' ' || c == '\n' || c == '\t' || c == '\r'

/-- The text without blanks in front. -/
def skipSpaces (cs : List Char) : List Char :=
  cs.dropWhile isSpace

/-- A place where nothing but a fault can be met. -/
def fatal (f : Fault) : Doc :=
  .broken f (some f)

/-- The greatest number of collections that may be nested in one another. -/
def depthLimit : Nat := 127

/-- A collection at some depth: past the limit it can only be passed over. -/
def atDepth (depth : Nat) (d : Doc) : Doc :=
  if depth < depthLimit then d else .broken .malformed d.skip

/-- What follows a fixed word. -/
def word (w : List Char) (d : Doc) (cs : List Char) : Doc × Rest :=
  match w, cs with
  | [], rest => (d, some rest)
  | _ :: _, [] => (fatal .truncated, none)
  | a :: w, c :: cs => if a = c then word w d cs else (fatal .malformed, none)

/-- The fault of a text that breaks off or goes on in the wrong way. -/
def faultAt : List Char → Fault
  | [] => .truncated
  | _ => .malformed

mutual

/-- The value in front of the text, which may be nested in `depth` collections. -/
def valueDoc (fuel depth : Nat) (cs : List Char) : Doc × Rest :=
  match fuel with
  | 0 => (fatal .malformed, none)
  | fuel + 1 =>
    match skipSpaces cs with
    | [] => (fatal .truncated, none)
    | '"' :: cs => stringDoc cs
    | '[' :: cs =>
      match skipSpaces cs with
      | ']' :: rest => (atDepth depth (.list [] none), some rest)
      | [] => (atDepth depth (.list [] (some .truncated)), none)
      | cs =>
        let (items, ending, rest) := itemDocs fuel (depth + 1) cs
        (atDepth depth (.list items ending), rest)
    | '\x7b' :: cs =>
      match skipSpaces cs with
      | '\x7d' :: rest => (atDepth depth (.record [] none), some rest)
      | '"' :: cs =>
        let (members, ending, rest) := memberDocs fuel (depth + 1) cs
        (atDepth depth (.record members ending), rest)
      | cs => (atDepth depth (.record [] (some (faultAt cs))), none)
    | 'n' :: cs => word "ull".toList .null cs
    | 't' :: cs => word "rue".toList (.flag true) cs
    | 'f' :: cs => word "alse".toList (.flag false) cs
    | c :: cs =>
      if c = '-' ∨ c.isDigit then numberDoc (c :: cs) else (fatal .malformed, none)

/-- Items up to the closing bracket, the first of which stands in front of the text. -/
def itemDocs (fuel depth : Nat) (cs : List Char) : List Doc × Option Fault × Rest :=
  match fuel with
  | 0 => ([], some .malformed, none)
  | fuel + 1 =>
    let (d, rest) := valueDoc fuel depth cs
    match rest with
    | none => ([d], none, none)
    | some cs =>
      match skipSpaces cs with
      | ']' :: rest => ([d], none, some rest)
      | ',' :: cs =>
        match skipSpaces cs with
        | [] => ([d, fatal .truncated], none, none)
        | ']' :: _ => ([d, fatal .malformed], none, none)
        | cs =>
          let (ds, ending, rest) := itemDocs fuel depth cs
          (d :: ds, ending, rest)
      | cs => ([d], some (faultAt cs), none)

/-- Members up to the closing brace; the opening quote of the first key has been taken. -/
def memberDocs (fuel depth : Nat) (cs : List Char) : List (Doc × Doc) × Option Fault × Rest :=
  match fuel with
  | 0 => ([], some .malformed, none)
  | fuel + 1 =>
    let (key, rest) := stringDoc cs
    match rest with
    | none => ([(key, .null)], none, none)
    | some cs =>
      match skipSpaces cs with
      | ':' :: cs =>
        let (d, rest) := valueDoc fuel depth cs
        match rest with
        | none => ([(key, d)], none, none)
        | some cs =>
          match skipSpaces cs with
          | '\x7d' :: rest => ([(key, d)], none, some rest)
          | ',' :: cs =>
            match skipSpaces cs with
            | '"' :: cs =>
              let (ms, ending, rest) := memberDocs fuel depth cs
              ((key, d) :: ms, ending, rest)
            | cs => ([(key, d), (fatal (faultAt cs), .null)], none, none)
          | cs => ([(key, d)], some (faultAt cs), none)
      | cs => ([(key, fatal (faultAt cs))], none, none)

end

/-- The document in front of the text, and what follows it. -/
def readDoc (s : String) : Doc × Rest :=
  valueDoc (2 * s.length + 2) 0 s.toList

/-- Decodes a text: the value first, and then nothing but blanks. -/
def decodeText {α : Type} (f : Decoder α) (s : String) : Decoded α := do
  let (d, rest) := readDoc s
  let a ← f .text d
  match rest with
  | some cs => if (skipSpaces cs).isEmpty then .ok a else stopAt .malformed
  | none => .ok a

/-- Decodes a value. -/
def decodeValue {α : Type} (f : Decoder α) (j : Json) : Decoded α :=
  f .value (Doc.ofJson j)

end Dialogue.Json
