/-
Documents: what reading a text of either format, or a JSON value already at hand, gives to the
decoders. A document is a tree that also holds the places where its text breaks off, so that a
decoder going through it from front to back meets mismatches and faults in the order of the text.
-/
import Dialogue.Document.Error
import Dialogue.Json.Basic
import Dialogue.Number.Shortest

namespace Dialogue

/-- Where a document comes from. Three rules depend on it: whether a list may stand for a record,
what a surplus item of such a list is called, and what is said of a variant that is neither a name
nor a single member. -/
inductive Origin where
  /-- The document is decoded from its text. -/
  | text
  /-- The document is a value that was read before. -/
  | value
  /-- The document is decoded from YAML, where no list stands for a record. -/
  | yaml
deriving DecidableEq, Repr

/-- A document, possibly broken. -/
inductive Doc where
  | null
  | flag (b : Bool)
  | number (n : Number)
  | text (s : String)
  /-- A scalar whose type is left to the reader. -/
  | plain (s : String)
  /-- Items, and the fault that takes the place of the closing mark. -/
  | list (items : List Doc) (ending : Option Fault)
  /-- Keys with values, and the fault that takes the place of the closing mark. -/
  | record (members : List (Doc × Doc)) (ending : Option Fault)
  /-- A place where decoding fails with a fault; passing over it may fail with another, or not. -/
  | broken (fault : Fault) (skipped : Option Fault)
deriving Inhabited

namespace Doc

mutual

/-- A value as a document. -/
def ofJson : Json → Doc
  | .null => .null
  | .bool b => .flag b
  | .number n => .number n
  | .text s => .text s
  | .array items => .list (ofItems items) none
  | .object members => .record (ofMembers members) none

/-- Values as documents. -/
def ofItems : List Json → List Doc
  | [] => []
  | j :: js => ofJson j :: ofItems js

/-- Members as keys with documents. -/
def ofMembers : List (String × Json) → List (Doc × Doc)
  | [] => []
  | (k, j) :: js => (.text k, ofJson j) :: ofMembers js

end

/-- The first of two faults, if any. -/
def firstFault (a b : Option Fault) : Option Fault :=
  match a with
  | some f => some f
  | none => b

mutual

/-- The fault met when the document is passed over without being decoded. -/
def skip : Doc → Option Fault
  | .list items ending => skipItems items ending
  | .record members ending => skipMembers members ending
  | .broken _ skipped => skipped
  | _ => none

/-- The fault met in passing over items. -/
def skipItems : List Doc → Option Fault → Option Fault
  | [], ending => ending
  | d :: ds, ending => firstFault d.skip (skipItems ds ending)

/-- The fault met in passing over members. -/
def skipMembers : List (Doc × Doc) → Option Fault → Option Fault
  | [], ending => ending
  | (k, v) :: rest, ending => firstFault k.skip (firstFault v.skip (skipMembers rest ending))

end

/-- What is said to have been found where something else was expected. -/
def found : Doc → String
  | .null => "null"
  | .flag true => "boolean \x60true\x60"
  | .flag false => "boolean \x60false\x60"
  | .number (.int n) => "integer \x60" ++ toString n ++ "\x60"
  | .number (.float x) => "floating point \x60" ++ x.text ++ "\x60"
  | .text s => "string " ++ Text.quoted s
  | .plain s => "string " ++ Text.quoted s
  | .list _ _ => "sequence"
  | .record _ _ => "map"
  | .broken _ _ => "nothing"

end Doc

end Dialogue
