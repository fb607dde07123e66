/-
Documents of any form as JSON values.
-/
import Dialogue.Document.Decoder

namespace Dialogue.Doc

mutual

/-- The value of a document. Open scalars are typed by what they look like; a name that occurs
twice keeps its last value. -/
def toJson : Doc → Decoded Json
  | .null => .ok .null
  | .flag b => .ok (.bool b)
  | .number n => .ok (.number n)
  | .text s => .ok (.text s)
  | .plain s =>
    match Yaml.resolve? s with
    | some j => .ok j
    | none => mismatch (.wrongValue (Doc.plain s).found "a number of 64 bits")
  | .list items ending => (toItems items ending).map .array
  | .record members ending => (toMembers members ending []).map .object
  | .broken f _ => stopAt f

/-- The values of items. -/
def toItems : List Doc → Option Fault → Decoded (List Json)
  | [], ending => (unlessFault ending).map fun _ => []
  | d :: ds, ending => do
    let j ← toJson d
    let js ← toItems ds ending
    .ok (j :: js)

/-- The values of members, put after those already read. -/
def toMembers : List (Doc × Doc) → Option Fault → List (String × Json) →
    Decoded (List (String × Json))
  | [], ending, done => (unlessFault ending).map fun _ => done
  | (k, v) :: rest, ending, done => do
    let name ← k.toText
    let j ← toJson v
    toMembers rest ending (Json.putMember name j done)

end

end Dialogue.Doc

namespace Dialogue.Decoder

/-- Values of any form. -/
def any : Decoder Json := fun _ d => d.toJson

end Dialogue.Decoder
