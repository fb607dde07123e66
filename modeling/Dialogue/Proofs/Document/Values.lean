/-
Values at hand as documents. They have no faults, so that whoever has no use for one can pass over it
(`skip_ofJson`), and reading one as a value of any form succeeds; of a name that occurs twice it keeps
the last value (`toJson_ofJson`).
-/
import Dialogue.Proofs.Document.Reading

namespace Dialogue

namespace Json

mutual

/-- The value in which every name that occurs twice in an object keeps its last value. -/
def merged : Json → Json
  | .array items => .array (mergedItems items)
  | .object members => .object (mergedMembers members [])
  | j => j

/-- Such values of a list. -/
def mergedItems : List Json → List Json
  | [] => []
  | j :: js => j.merged :: mergedItems js

/-- Such members, put after those already there. -/
def mergedMembers : List (String × Json) → List (String × Json) → List (String × Json)
  | [], done => done
  | (name, j) :: rest, done => mergedMembers rest (putMember name j.merged done)

end

theorem mergedItems_eq_map (js : List Json) : mergedItems js = js.map merged := by
  induction js with
  | nil => rfl
  | cons j js ih => rw [mergedItems, ih, List.map_cons]

end Json

namespace Doc

mutual

theorem skip_ofJson (j : Json) : (ofJson j).skip = none := by
  match j with
  | .array items => simp only [ofJson, skip, skipItems_ofItems items]
  | .object members => simp only [ofJson, skip, skipMembers_ofMembers members]
  | .null | .bool _ | .number _ | .text _ => rfl

theorem skipItems_ofItems (js : List Json) : skipItems (ofItems js) none = none := by
  match js with
  | [] => rfl
  | j :: js => simp only [ofItems, skipItems, skip_ofJson j, firstFault, skipItems_ofItems js]

theorem skipMembers_ofMembers (members : List (String × Json)) :
    skipMembers (ofMembers members) none = none := by
  match members with
  | [] => rfl
  | (name, j) :: rest =>
    simp only [ofMembers, skipMembers, skip, skip_ofJson j, firstFault, skipMembers_ofMembers rest]

end

mutual

theorem toJson_ofJson (j : Json) : (ofJson j).toJson = .ok j.merged := by
  match j with
  | .array items => simp only [ofJson, toJson, toItems_ofItems items, Json.merged, Except.map]
  | .object members =>
    simp only [ofJson, toJson, toMembers_ofMembers members [], Json.merged, Except.map]
  | .null | .bool _ | .number _ | .text _ => rfl

theorem toItems_ofItems (js : List Json) :
    toItems (ofItems js) none = .ok (Json.mergedItems js) := by
  match js with
  | [] => rfl
  | j :: js =>
    simp only [ofItems, toItems, toJson_ofJson j, toItems_ofItems js, Json.mergedItems, bind,
      Except.bind]

theorem toMembers_ofMembers (members done : List (String × Json)) :
    toMembers (ofMembers members) none done = .ok (Json.mergedMembers members done) := by
  match members with
  | [] => rfl
  | (name, j) :: rest =>
    simp only [ofMembers, toMembers, toText, toJson_ofJson j, Json.mergedMembers, bind, Except.bind]
    exact toMembers_ofMembers rest _

end

end Doc

end Dialogue
