/-
JSON values. The members of an object keep the order in which they were given, and a name occurs
once: a later value for the same name takes the place of the earlier one.
-/
import Dialogue.Number.Basic

namespace Dialogue

/-- A JSON value. -/
inductive Json where
  | null
  | bool (b : Bool)
  | number (n : Number)
  | text (s : String)
  | array (items : List Json)
  | object (members : List (String × Json))
deriving Inhabited

namespace Json

/-- A whole number as a value. -/
def ofNat (n : Nat) : Json :=
  .number (.int n)

/-- A list of texts as a value. -/
def ofTexts (l : List String) : Json :=
  .array (l.map .text)

/-- A text, or null. -/
def ofText? : Option String → Json
  | some s => .text s
  | none => .null

/-- A member that is left out where there is no value for it. -/
def optional (name : String) : Option String → List (String × Json)
  | some s => [(name, .text s)]
  | none => []

/-- Adds a member, or gives the member of that name a new value in its old place. -/
def putMember (name : String) (value : Json) : List (String × Json) → List (String × Json)
  | [] => [(name, value)]
  | (k, v) :: rest =>
    if k = name then (k, value) :: rest else (k, v) :: putMember name value rest

/-- The value of a member of an object. -/
def get? (j : Json) (name : String) : Option Json :=
  match j with
  | .object members => members.lookup name
  | _ => none

/-- The text held by a text value. -/
def text? : Json → Option String
  | .text s => some s
  | _ => none

/-- The values held by an array. -/
def items? : Json → Option (List Json)
  | .array l => some l
  | _ => none

/-- The truth value held. -/
def bool? : Json → Option Bool
  | .bool b => some b
  | _ => none

/-- The natural number held. -/
def nat? : Json → Option Nat
  | .number (.int (.ofNat n)) => some n
  | _ => none

/-- Whether the value is null. -/
def isNull : Json → Bool
  | .null => true
  | _ => false

end Json

end Dialogue
