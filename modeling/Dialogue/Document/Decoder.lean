/-
Decoders: functions from documents to typed values. This module holds those for scalars, lists,
optional values and names of variants; `Dialogue.Document.Record` builds records from them.
-/
import Dialogue.Document.Basic
import Dialogue.Yaml.Scalar

namespace Dialogue

/-- The outcome of decoding. -/
abbrev Decoded (α : Type) := Except DecodeError α

/-- A function from documents to values of a type. -/
abbrev Decoder (α : Type) := Origin → Doc → Decoded α

/-- Decoding stops at a fault. -/
def stopAt {α : Type} (f : Fault) : Decoded α :=
  .error (.fault f)

/-- Decoding fails for a mismatch. -/
def mismatch {α : Type} (m : Mismatch) : Decoded α :=
  .error (.mismatch m)

/-- Decoding goes on unless there is a fault. -/
def unlessFault : Option Fault → Decoded Unit
  | some f => stopAt f
  | none => .ok ()

namespace Doc

/-- The failure of a decoder that has no use for the document. -/
def unexpected {α : Type} (d : Doc) (expected : String) : Decoded α :=
  match d with
  | .broken f _ => stopAt f
  | d => mismatch (.wrongType d.found expected)

/-- A text. Any scalar whose type is open is a text. -/
def toText : Doc → Decoded String
  | .text s => .ok s
  | .plain s => .ok s
  | d => d.unexpected "a string"

/-- A truth value. -/
def toFlag : Doc → Decoded Bool
  | .flag b => .ok b
  | .plain s =>
    match Yaml.truth? s with
    | some b => .ok b
    | none => (Doc.plain s).unexpected "a boolean"
  | d => d.unexpected "a boolean"

/-- Whether the document stands for the absence of a value. -/
def isAbsent : Doc → Bool
  | .null => true
  | .plain s => Yaml.isNull s
  | _ => false

/-- A natural number of 64 bits. -/
def toCount (name : String) : Doc → Decoded Nat
  | .number (.int (.ofNat n)) => .ok n
  | .number (.int n) => mismatch (.wrongValue ("integer \x60" ++ toString n ++ "\x60") name)
  | d => d.unexpected name

/-- An instant, written as a text. -/
def toInstant : Doc → Decoded Instant
  | .text s => ofInstantText s
  | .plain s => ofInstantText s
  | d => d.unexpected "an RFC 3339 formatted date and time string"
where
  ofInstantText (s : String) : Decoded Instant :=
    match Instant.read s with
    | .ok i => .ok i
    | .error e => mismatch (.badInstant e)

/-- Nothing at all. -/
def toUnit (d : Doc) : Decoded Unit :=
  if d.isAbsent then .ok () else d.unexpected "unit"

end Doc

namespace Decoder

/-- Texts. -/
def text : Decoder String := fun _ d => d.toText

/-- Truth values. -/
def flag : Decoder Bool := fun _ d => d.toFlag

/-- Instants. -/
def instant : Decoder Instant := fun _ d => d.toInstant

/-- Natural numbers, under the name that messages give to their type. -/
def count (name : String) : Decoder Nat := fun _ d => d.toCount name

/-- A value or its absence. -/
def optional {α : Type} (f : Decoder α) : Decoder (Option α) := fun o d =>
  if d.isAbsent then .ok none else (f o d).map some

/-- Decodes items one after the other; a fault at the end counts last. -/
def items {α : Type} (f : Doc → Decoded α) : List Doc → Option Fault → Decoded (List α)
  | [], ending => (unlessFault ending).map fun _ => []
  | d :: ds, ending => do
    let a ← f d
    let as ← items f ds ending
    .ok (a :: as)

/-- A list of values. An open scalar without any text is an empty list. -/
def list {α : Type} (f : Decoder α) : Decoder (List α) := fun o d =>
  match d with
  | .list ds ending => items (f o) ds ending
  | .plain "" => .ok []
  | d => d.unexpected "a sequence"

/-- The value that a name stands for. -/
def named {α : Type} (known : List (String × α)) (name : String) : Decoded α :=
  match known.lookup name with
  | some a => .ok a
  | none => mismatch (.unknownVariant name (known.map (·.1)))

/-- One of several names; a name may also be the only member of a record, with nothing as its
value. -/
def choice {α : Type} (known : List (String × α)) : Decoder α := fun o d =>
  match o, d with
  | _, .text s => named known s
  | _, .plain s => named known s
  | _, .broken f _ => stopAt f
  | .text, .record [] none => stopAt .malformed
  | .text, .record [] (some f) => stopAt f
  | .text, .record ((k, v) :: rest) ending => do
    let a ← named known (← k.toText)
    v.toUnit
    if !rest.isEmpty then stopAt .malformed
    unlessFault ending
    .ok a
  | .text, _ => stopAt .malformed
  | _, .record [(k, v)] _ => do
    let a ← named known (← k.toText)
    v.toUnit
    .ok a
  | _, .record _ _ => mismatch (.wrongValue "map" "map with a single key")
  | _, d => d.unexpected "string or map"

end Decoder

end Dialogue
