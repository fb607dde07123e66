/-
Stripping, and mentions. A text is its stripped form between characters that are stripped
(`stripEnds_split`), and as no blank is a word character it mentions its own trimmed form
(`mentions_trim`).
-/
import Dialogue.Text.Lowercase
import Dialogue.Text.Mention
import Mathlib.Data.List.DropRight

namespace Dialogue.Text

/-! ## Stripping -/

section

variable {α : Type} (p : α → Bool) (l : List α)

theorem stripEnds_split : ∃ before after, l = before ++ (stripEnds p l ++ after) ∧
    (∀ a ∈ before, p a = true) ∧ ∀ a ∈ after, p a = true := by
  have hfront := List.takeWhile_append_dropWhile (p := p) (l := l)
  have hback := List.takeWhile_append_dropWhile (p := p) (l := (l.dropWhile p).reverse)
  refine ⟨l.takeWhile p, ((l.dropWhile p).reverse.takeWhile p).reverse, ?_, fun a ha => ?_,
    fun a ha => ?_⟩
  · unfold stripEnds
    rw [← List.reverse_append, hback, List.reverse_reverse, hfront]
  · exact List.mem_takeWhile_imp ha
  · exact List.mem_takeWhile_imp (List.mem_reverse.1 ha)

/-- Nothing is left at the ends that could be stripped. -/
theorem stripEnds_stripEnds : stripEnds p (stripEnds p l) = stripEnds p l := by
  have hfront : (stripEnds p l).dropWhile p = stripEnds p l := by
    -- what is left starts like the list without its front
    obtain ⟨after, hd⟩ := List.rdropWhile_prefix p (l := l.dropWhile p)
    have hidem := List.dropWhile_idempotent (p := p) l
    change stripEnds p l ++ after = _ at hd
    rw [← hd] at hidem
    cases hs : stripEnds p l with
    | nil => rfl
    | cons a s =>
      rw [hs, List.cons_append] at hidem
      by_cases ha : p a = true
      · rw [List.dropWhile_cons_of_pos ha] at hidem
        have hle := (List.dropWhile_sublist p (l := s ++ after)).length_le
        rw [hidem, List.length_cons] at hle
        omega
      · exact List.dropWhile_cons_of_neg ha
  show (((stripEnds p l).dropWhile p).reverse.dropWhile p).reverse = _
  rw [hfront]
  exact List.rdropWhile_idempotent p (l.dropWhile p)

end

@[simp] theorem normalize_trim (s : String) : normalize (trim s) = normalize s := by
  unfold normalize trim stripWhere
  rw [String.toList_ofList, stripEnds_stripEnds]

theorem allBlank_of_trim {s : String} (h : trim s = "") : allBlank s = true := by
  obtain ⟨before, after, hs, hbefore, hafter⟩ := stripEnds_split isBlank s.toList
  have hnil : stripEnds isBlank s.toList = [] := by
    simpa [trim, stripWhere] using congrArg String.toList h
  rw [hnil, List.nil_append] at hs
  unfold allBlank
  rw [hs, List.all_append, List.all_eq_true.2 hbefore, List.all_eq_true.2 hafter]
  rfl

/-! ## Mentions -/

theorem CodeSet.not_contains_of_apart {s t : CodeSet}
    (h : ∀ r ∈ s, ∀ q ∈ t, r.2 < q.1 ∨ q.2 < r.1) {c : Char} (hc : s.contains c = true) :
    t.contains c = false := by
  obtain ⟨r, hr, hrc⟩ := List.any_eq_true.1 hc
  refine List.any_eq_false.2 fun q hq hqc => ?_
  simp only [Bool.and_eq_true, decide_eq_true_eq] at hrc hqc
  rcases h r hr q hq with h | h <;> omega

theorem isWordChar_of_isBlank {c : Char} (h : isBlank c = true) : isWordChar c = false :=
  CodeSet.not_contains_of_apart (by decide +kernel) h

theorem afterFolded?_self (word rest : List Char) :
    afterFolded? word (word ++ rest) = some rest := by
  induction word with
  | nil => rfl
  | cons c word ih => rw [List.cons_append, afterFolded?, if_pos rfl, ih]

theorem mentionedBehind_append {word rest : List Char} {c : Char} (hc : isWordChar c = false)
    (h : mentionedHere word rest = true) (before : List Char) :
    mentionedBehind word (before ++ c :: rest) = true := by
  induction before with
  | nil => simp [mentionedBehind, hc, h]
  | cons b before ih => simp [mentionedBehind, ih]

/-- A word is mentioned where there are only blanks around it. -/
theorem mentioned_between {word before after : List Char} (hbefore : ∀ c ∈ before, isBlank c = true)
    (hafter : ∀ c ∈ after, isBlank c = true) :
    (mentionedHere word (before ++ (word ++ after)) ||
      mentionedBehind word (before ++ (word ++ after))) = true := by
  have hhere : mentionedHere word (word ++ after) = true := by
    unfold mentionedHere
    rw [afterFolded?_self]
    cases after with
    | nil => rfl
    | cons c after => simp [startsFree, isWordChar_of_isBlank (hafter c (List.mem_cons_self ..))]
  rw [Bool.or_eq_true]
  rcases before.eq_nil_or_concat with rfl | ⟨front, c, rfl⟩
  · exact .inl hhere
  · -- the last blank in front of the word is where the word is found
    have hc := isWordChar_of_isBlank (hbefore c (by simp))
    refine .inr ?_
    rw [List.concat_eq_append, List.append_assoc, List.singleton_append]
    exact mentionedBehind_append hc hhere front

/-- A text mentions what is left of it without the blanks at its ends. -/
theorem mentions_trim (s : String) : mentions s (trim s) = true := by
  obtain ⟨before, after, hs, hbefore, hafter⟩ := stripEnds_split isBlank s.toList
  unfold mentions trim stripWhere
  rw [String.toList_ofList]
  generalize stripEnds isBlank s.toList = word at hs ⊢
  rw [hs]
  exact mentioned_between hbefore hafter

end Dialogue.Text
