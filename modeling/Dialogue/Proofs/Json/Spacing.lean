/-
Layouts of JSON text. The one over several lines and the one without any space differ only in where
they put blanks (`chars_lines`, `chars_tight`), so that what is said of all layouts holds of both.
-/
import Dialogue.Json.Printer
import Dialogue.Json.Reader

namespace Dialogue.Json

/-- Where a layout puts blanks: in front of each part of a collection and of its closing mark, as the
level asks for, and behind the colon of a member. -/
structure Spacing where
  gap : Nat → List Char
  afterColon : List Char
  gap_blank (level : Nat) : ∀ c ∈ gap level, isSpace c
  afterColon_blank : ∀ c ∈ afterColon, isSpace c

namespace Spacing

mutual

/-- The value with the blanks of a layout. -/
def chars (p : Spacing) (level : Nat) : Json → List Char
  | .array [] => "[]".toList
  | .array (item :: items) =>
    '[' :: (p.gap (level + 1) ++ chars p (level + 1) item ++
      (itemChars p (level + 1) items ++ (p.gap level ++ [']'])))
  | .object [] => "\x7b\x7d".toList
  | .object ((name, value) :: members) =>
    '\x7b' :: (p.gap (level + 1) ++ stringChars name ++
      (':' :: p.afterColon ++ chars p (level + 1) value) ++
      (memberChars p (level + 1) members ++ (p.gap level ++ ['\x7d'])))
  | j => atomChars j

/-- Further items, each after a comma. -/
def itemChars (p : Spacing) (level : Nat) : List Json → List Char
  | [] => []
  | item :: items => ',' :: (p.gap level ++ chars p level item ++ itemChars p level items)

/-- Further members, each after a comma. -/
def memberChars (p : Spacing) (level : Nat) : List (String × Json) → List Char
  | [] => []
  | (name, value) :: members =>
    ',' :: (p.gap level ++ stringChars name ++ (':' :: p.afterColon ++ chars p level value) ++
      memberChars p level members)

end

/-- A line for each part. -/
def lines : Spacing where
  gap := newLine
  afterColon := [' ']
  gap_blank level c hc := by
    rcases List.mem_cons.mp hc with rfl | hc
    · rfl
    · rw [List.eq_of_mem_replicate hc]; rfl
  afterColon_blank c hc := by rw [List.mem_singleton.mp hc]; rfl

/-- No blanks at all. -/
def tight : Spacing where
  gap _ := []
  afterColon := []
  gap_blank _ := by simp
  afterColon_blank := by simp

/-! ## The two layouts -/

mutual

theorem chars_lines (level : Nat) (j : Json) : lines.chars level j = prettyChars level j := by
  match j with
  | .array [] | .object [] => rfl
  | .array (item :: items) =>
    simp only [chars, prettyChars, chars_lines _ item, itemChars_lines _ items]
    rfl
  | .object ((name, value) :: members) =>
    simp only [chars, prettyChars, chars_lines _ value, memberChars_lines _ members]
    rfl
  | .null | .bool _ | .number _ | .text _ => rfl

theorem itemChars_lines (level : Nat) (items : List Json) :
    lines.itemChars level items = prettyItems level items := by
  match items with
  | [] => rfl
  | item :: items =>
    simp only [itemChars, prettyItems, chars_lines _ item, itemChars_lines _ items]
    rfl

theorem memberChars_lines (level : Nat) (members : List (String × Json)) :
    lines.memberChars level members = prettyMembers level members := by
  match members with
  | [] => rfl
  | (name, value) :: members =>
    simp only [memberChars, prettyMembers, chars_lines _ value, memberChars_lines _ members]
    rfl

end

mutual

theorem chars_tight (level : Nat) (j : Json) : tight.chars level j = compactChars j := by
  match j with
  | .array [] | .object [] => rfl
  | .array (item :: items) =>
    simp only [chars, compactChars, chars_tight _ item, itemChars_tight _ items]
    rfl
  | .object ((name, value) :: members) =>
    simp only [chars, compactChars, chars_tight _ value, memberChars_tight _ members]
    rfl
  | .null | .bool _ | .number _ | .text _ => rfl

theorem itemChars_tight (level : Nat) (items : List Json) :
    tight.itemChars level items = compactItems items := by
  match items with
  | [] => rfl
  | item :: items =>
    simp only [itemChars, compactItems, chars_tight _ item, itemChars_tight _ items]
    rfl

theorem memberChars_tight (level : Nat) (members : List (String × Json)) :
    tight.memberChars level members = compactMembers members := by
  match members with
  | [] => rfl
  | (name, value) :: members =>
    simp only [memberChars, compactMembers, chars_tight _ value, memberChars_tight _ members]
    rfl

end

end Spacing

end Dialogue.Json
