/-
Records: a shape lists the fields of a record in the order of their declaration, and decoding
follows the document. Members are taken in the order in which they stand; unknown ones are passed
over; a known one that stands twice is refused. What was not given takes its default or is
missing. A list of the fields in the order of declaration is accepted in place of a record.
-/
import Dialogue.Document.Decoder

namespace Dialogue

/-- A field: its name, how its value is decoded, and what stands for it when it is not given. -/
structure Field (α : Type) where
  name : String
  decode : Decoder α
  default? : Option α

/-- The fields of a record, and the function that builds the record from their values. -/
inductive Shape : Type → Type 1 where
  | build {α : Type} (a : α) : Shape α
  | field {α β : Type} (rest : Shape (β → α)) (f : Field β) : Shape α

namespace Shape

/-- Adds a field that must be given. -/
def required {α β : Type} (s : Shape (β → α)) (name : String) (f : Decoder β) : Shape α :=
  s.field ⟨name, f, none⟩

/-- Adds a field with a default. -/
def withDefault {α β : Type} (s : Shape (β → α)) (name : String) (f : Decoder β) (b : β) :
    Shape α :=
  s.field ⟨name, f, some b⟩

/-- Adds a field that may be absent. -/
def optional {α β : Type} (s : Shape (Option β → α)) (name : String) (f : Decoder β) : Shape α :=
  s.field ⟨name, f.optional, some none⟩

/-- The number of fields. -/
def size : {α : Type} → Shape α → Nat
  | _, .build _ => 0
  | _, .field rest _ => rest.size + 1

/-- A place for the value of each field, empty until the field is met. -/
def Slots : {α : Type} → Shape α → Type
  | _, .build _ => Unit
  | _, .field (β := β) rest _ => rest.Slots × Option β

/-- Slots before anything is met. -/
def emptySlots : {α : Type} → (s : Shape α) → s.Slots
  | _, .build _ => ()
  | _, .field rest _ => (rest.emptySlots, none)

/-- Takes one member: decodes it into its slot, or passes over it if the name is unknown. -/
def take : {α : Type} → (s : Shape α) → Origin → String → Doc → s.Slots → Decoded s.Slots
  | _, .build _, _, _, d, slots => (unlessFault d.skip).map fun _ => slots
  | _, .field (β := β) rest f, o, name, d, slots =>
    let (others, slot) : rest.Slots × Option β := slots
    if name = f.name then
      match slot with
      | some _ => mismatch (.repeatedField name)
      | none => (f.decode o d).map fun b => (others, some b)
    else (rest.take o name d others).map fun others => (others, slot)

/-- Takes all members, in order. -/
def takeAll {α : Type} (s : Shape α) (o : Origin) :
    List (Doc × Doc) → Option Fault → s.Slots → Decoded s.Slots
  | [], ending, slots => (unlessFault ending).map fun _ => slots
  | (k, v) :: rest, ending, slots => do
    let name ← k.toText
    let slots ← s.take o name v slots
    s.takeAll o rest ending slots

/-- The record, once all members are taken. The first field without value and default fails. -/
def finish : {α : Type} → (s : Shape α) → s.Slots → Decoded α
  | _, .build a, _ => .ok a
  | _, .field (β := β) rest f, slots => do
    let (others, slot) : rest.Slots × Option β := slots
    let g ← rest.finish others
    match slot, f.default? with
    | some b, _ => .ok (g b)
    | none, some b => .ok (g b)
    | none, none => mismatch (.missingField f.name)

/-- The record from a list of its fields, with what is left of the list. `expected` names the
record in the message for a list that is too short. -/
def fromItems (o : Origin) (expected : String) (ending : Option Fault) :
    {α : Type} → Shape α → List Doc → Decoded (α × List Doc)
  | _, .build a, items => .ok (a, items)
  | _, .field rest f, items => do
    let (g, items) ← rest.fromItems o expected ending items
    match items with
    | d :: items => (f.decode o d).map fun b => (g b, items)
    | [] => do
      unlessFault ending
      match f.default? with
      | some b => .ok (g b, [])
      | none => mismatch (.wrongLength rest.size expected)

/-- What is said of a list with more items than the record has fields. -/
def surplus {α : Type} (o : Origin) (count : Nat) : Decoded α :=
  match o with
  | .text => stopAt .malformed
  | _ => mismatch (.wrongLength count "fewer elements in array")

/-- The name of a record type together with the number of its fields. -/
def sizedName {α : Type} (s : Shape α) (name : String) : String :=
  name ++ " with " ++ toString s.size ++ (if s.size = 1 then " element" else " elements")

/-- The decoder of a record. -/
def decoder {α : Type} (s : Shape α) (name : String) : Decoder α := fun o d =>
  match d with
  | .record members ending => do s.finish (← s.takeAll o members ending s.emptySlots)
  | .list items ending =>
    if o = .yaml then d.unexpected name
    else do
      let (a, rest) ← s.fromItems o (s.sizedName name) ending items
      if rest.isEmpty then
        unlessFault ending
        .ok a
      else surplus o items.length
  | .plain "" => s.finish s.emptySlots
  | d => d.unexpected name

end Shape

end Dialogue
