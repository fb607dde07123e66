/-
What an answer of the classifier decides. `Names` says which option an answer names, without the order
in which it is read: the first whose label is left of the answer once blanks and punctuation are off
its ends, or else the only one that the answer mentions. The reading of answers follows it, and a
router goes on along the edges of the option named and no others (`answer_branch`).
-/
import Dialogue.Proofs.Run.Course
import Dialogue.Proofs.Text.Pattern
import Mathlib.Data.List.Pairwise

namespace Dialogue

open Program

theorem sameLabel_iff {a b : String} : sameLabel a b = true ↔ Text.normalize a = Text.normalize b :=
  beq_iff_eq

theorem sameLabel_comm (a b : String) : sameLabel a b = sameLabel b a :=
  BEq.comm

/-! ## What an answer names -/

/-- The label of the option is not blank, and is the text, blanks around it and letter case aside. -/
def Choice.Is (o : Choice) (text : String) : Prop :=
  Text.allBlank o.label = false ∧ sameLabel o.label text = true

/-- The label of the option is not blank, and the text mentions it. -/
def Choice.MentionedIn (o : Choice) (text : String) : Prop :=
  Text.allBlank o.label = false ∧ Text.Mentions text (Text.trim o.label)

instance (o : Choice) (text : String) : Decidable (o.Is text) :=
  inferInstanceAs (Decidable (_ ∧ _))

instance (o : Choice) (text : String) : Decidable (o.MentionedIn text) :=
  inferInstanceAs (Decidable (_ ∧ _))

variable {options options' : List Choice} {o o' : Choice} {answer label : String}

/-! ## Reading an answer -/

theorem exactOption?_eq_find? (options : List Choice) (s : String) :
    exactOption? options s = options.find? fun o => decide (o.Is s) := by
  unfold exactOption? labelled
  rw [List.find?_filter]
  congr 1
  funext o
  exact decide_eq_decide.2 (by simp [Choice.Is])

theorem mentioned_eq_filter (options : List Choice) (answer : String) :
    mentioned options answer = options.filter fun o => decide (o.MentionedIn answer) := by
  unfold mentioned labelled
  rw [List.filter_filter]
  congr 1
  funext o
  rw [Bool.eq_iff_iff, decide_eq_true_eq]
  simp [Choice.MentionedIn, Text.mentions_iff, and_comm]

theorem exactOption?_eq_some {s : String} : exactOption? options s = some o ↔
    ∃ before behind, options = before ++ o :: behind ∧ o.Is s ∧ ∀ o' ∈ before, ¬ o'.Is s := by
  rw [exactOption?_eq_find?, List.find?_eq_some_iff_append]
  simp only [decide_eq_true_eq, Bool.not_eq_true', decide_eq_false_iff_not]
  constructor
  · rintro ⟨is, before, behind, place, first⟩
    exact ⟨before, behind, place, is, first⟩
  · rintro ⟨before, behind, place, is, first⟩
    exact ⟨is, before, behind, place, first⟩

theorem exactOption?_eq_none {s : String} :
    exactOption? options s = none ↔ ∀ o ∈ options, ¬ o.Is s := by
  rw [exactOption?_eq_find?, List.find?_eq_none]
  simp only [decide_eq_true_eq]

theorem exactOption?_mem {s : String} (h : exactOption? options s = some o) :
    o ∈ options ∧ o.Is s := by
  obtain ⟨before, behind, place, is, -⟩ := exactOption?_eq_some.1 h
  exact ⟨by simp [place], is⟩

theorem mentioned_eq_singleton : mentioned options answer = [o] ↔
    ∃ before behind, options = before ++ o :: behind ∧ o.MentionedIn answer ∧
      ∀ o' ∈ before ++ behind, ¬ o'.MentionedIn answer := by
  rw [mentioned_eq_filter, List.filter_eq_cons_iff]
  simp only [decide_eq_true_eq, List.filter_eq_nil_iff, List.forall_mem_append]
  constructor
  · rintro ⟨before, behind, place, hbefore, here, hbehind⟩
    exact ⟨before, behind, place, here, hbefore, hbehind⟩
  · rintro ⟨before, behind, place, here, hbefore, hbehind⟩
    exact ⟨before, behind, place, hbefore, here, hbehind⟩

theorem chosenLabel_eq_some : chosenLabel answer options = some label ↔
    cleanedAnswer answer ≠ "" ∧
      ((∃ o, exactOption? options (cleanedAnswer answer) = some o ∧ o.label = label) ∨
        exactOption? options (cleanedAnswer answer) = none ∧ tooManyLabels options = false ∧
          ∃ o, mentioned options answer = [o] ∧ o.label = label) := by
  unfold chosenLabel readAnswer
  by_cases hc : cleanedAnswer answer = ""
  · simp [hc]
  · have hne : (cleanedAnswer answer).isEmpty = false := by simpa using hc
    simp only [hne, Bool.false_eq_true, if_false, ne_eq, hc, not_false_eq_true, true_and]
    cases exactOption? options (cleanedAnswer answer) with
    | some o => simp
    | none =>
      cases tooManyLabels options with
      | true => simp
      | false =>
        rcases mentioned options answer with _ | ⟨o, _ | ⟨o', os⟩⟩ <;> simp

theorem chosenLabel_mem (h : chosenLabel answer options = some label) :
    ∃ o ∈ options, o.label = label := by
  obtain ⟨-, ⟨o, hexact, hl⟩ | ⟨-, -, o, hm, hl⟩⟩ := chosenLabel_eq_some.1 h
  · exact ⟨o, (exactOption?_mem hexact).1, hl⟩
  · obtain ⟨before, behind, place, -⟩ := mentioned_eq_singleton.1 hm
    exact ⟨o, by simp [place], hl⟩

/-! ## The order of the options -/

/-- Where no two labels are the same, an option is known by its label. -/
theorem eq_of_sameLabel (hd : options.Pairwise fun a b => sameLabel a.label b.label = false)
    (ho : o ∈ options) (ho' : o' ∈ options) (hs : sameLabel o.label o'.label = true) : o = o' := by
  have hsymm : Std.Symm fun a b : Choice => sameLabel a.label b.label = false :=
    ⟨fun a b hab => sameLabel_comm a.label b.label ▸ hab⟩
  by_contra hne
  have hdiffer := hd.forall ho ho' hne
  rw [hs] at hdiffer
  cases hdiffer

/-- A router keeps the edges with the label that the classifier's answer is read as, and none if there
is nobody to ask, the call fails, or the answer names no option. -/
theorem keptEdges_router {c : RunContext} {p : Partners} {n : Node} {r : Router}
    (hn : n.role = .router r) (out : List Edge) (s : World) : ((n.keptEdges c out).run p s).1 =
      match (c.assistant? p).bind fun a => (a.classify s.log.prompts
        (r.question c.message.body)).toOption.bind fun answer => chosenLabel answer r.options with
      | some label => out.filter (·.hasLabel label)
      | none => [] := by
  unfold Node.keptEdges
  rw [hn]
  dsimp only
  unfold Router.classify RunContext.assistant?
  cases c.hasAssistant with
  | false => rfl
  | true =>
    cases ho : r.options with
    | nil =>
      have hno : ∀ answer, chosenLabel answer [] = none := fun answer =>
        Option.eq_none_iff_forall_ne_some.2 fun label h => by simpa using chosenLabel_mem h
      cases p.assistant with
      | none => rfl
      | some a => cases h : a.classify s.log.prompts (r.question c.message.body) <;> simp [hno]
    | cons o os =>
      cases ha : p.assistant with
      | none => simp [World.answer, ha]
      | some a =>
        cases h : a.classify s.log.prompts (r.question c.message.body) with
        | error e => simp [World.answer, ha, h, Except.toOption]
        | ok answer =>
          cases hr : readAnswer answer (o :: os) <;>
            simp [World.answer, ha, h, hr, chosenLabel, Except.toOption]

/-- A classifier with one answer. -/
def answering (answer : String) : Assistant :=
  ⟨fun _ _ => .ok answer, fun _ _ => .error .notConfigured⟩

end Dialogue
