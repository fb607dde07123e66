/-
When a router option can be chosen by its own label. An answer is stripped of punctuation before it is
compared with labels, and labels are not; so a label that begins or ends with punctuation may become
that of another option, or no label at all. Where no label is blank and no two are the same, the
options whose own label chooses them are exactly those that are `Distinctive` (`own_label`), and the
edges followed then are theirs.
-/
import Dialogue.Proofs.Run.Classification
import Dialogue.Proofs.Text.Mention

namespace Dialogue

open Program

variable {options : List Choice} {o o' : Choice}

/-- Labels none of which is blank, and no two of which are the same. -/
structure LabelsApart (options : List Choice) : Prop where
  filled : ∀ o ∈ options, Text.allBlank o.label = false
  differ : options.Pairwise fun a b => sameLabel a.label b.label = false

/-- What an answer that is the label of an option says depends on what is left of it without the blanks
and the punctuation around it. -/
structure Distinctive (options : List Choice) (o : Choice) : Prop where
  left : cleanedAnswer o.label ≠ ""
  /-- What is left is the label of no other option, -/
  alone : ∀ o' ∈ options, sameLabel o'.label (cleanedAnswer o.label) = true → o' = o
  /-- and it is the label of this one, or else this one's label mentions that of no other. -/
  named : sameLabel o.label (cleanedAnswer o.label) = true ∨
    ∀ o' ∈ options, Text.mentions o.label (Text.trim o'.label) = true → o' = o

namespace LabelsApart

theorem labelled_eq (h : LabelsApart options) : labelled options = options := by
  refine List.filter_eq_self.2 fun o ho => ?_
  rw [h.filled o ho, Bool.not_false]

theorem eq_of_common (h : LabelsApart options) (ho : o ∈ options) (ho' : o' ∈ options) {s : String}
    (hs : sameLabel o.label s = true) (hs' : sameLabel o'.label s = true) : o = o' := by
  refine eq_of_sameLabel h.differ ho ho' (sameLabel_iff.2 ?_)
  exact (sameLabel_iff.1 hs).trans (sameLabel_iff.1 hs').symm

theorem eq_of_label (h : LabelsApart options) (ho : o ∈ options) (ho' : o' ∈ options)
    (hl : o.label = o'.label) : o = o' :=
  eq_of_sameLabel h.differ ho ho' (sameLabel_iff.2 (congrArg Text.normalize hl))

theorem nodup (h : LabelsApart options) : options.Nodup := by
  refine h.differ.imp fun hab he => ?_
  rw [he, sameLabel, beq_self_eq_true] at hab
  cases hab

theorem exactOption?_eq_none (h : LabelsApart options) {s : String} :
    exactOption? options s = none ↔ ∀ o ∈ options, sameLabel o.label s = false := by
  refine Dialogue.exactOption?_eq_none.trans (forall₂_congr fun o ho => ?_)
  simp [Choice.Is, h.filled o ho]

end LabelsApart

/-! ## Reading an answer -/

theorem filter_eq_singleton {α : Type} {l : List α} (hl : l.Nodup) {q : α → Bool} {a : α}
    (ha : a ∈ l) (hq : q a = true) : l.filter q = [a] ↔ ∀ b ∈ l, q b = true → b = a := by
  constructor
  · intro h b hb hqb
    exact List.mem_singleton.1 (h ▸ List.mem_filter.2 ⟨hb, hqb⟩)
  · intro h
    have hperm : (l.filter q).Perm [a] := by
      refine (List.perm_ext_iff_of_nodup (hl.filter q) (by simp)).2 fun b => ?_
      rw [List.mem_filter, List.mem_singleton]
      exact ⟨fun hb => h b hb.1 hb.2, fun hb => hb ▸ ⟨ha, hq⟩⟩
    exact List.perm_singleton.1 hperm

/-- Where labels are apart, the option whose label is the answer is named exactly if it is
distinctive. -/
theorem chosenLabel_own (h : LabelsApart options) (hfew : tooManyLabels options = false)
    (ho : o ∈ options) : chosenLabel o.label options = some o.label ↔ Distinctive options o := by
  have hself : Text.mentions o.label (Text.trim o.label) = true := Text.mentions_trim o.label
  have hment : mentioned options o.label = [o] ↔
      ∀ o' ∈ options, Text.mentions o.label (Text.trim o'.label) = true → o' = o := by
    unfold mentioned
    rw [h.labelled_eq]
    exact filter_eq_singleton h.nodup ho hself
  rw [chosenLabel_eq_some]
  constructor
  · rintro ⟨hleft, ⟨o', hexact, hl⟩ | ⟨hnone, -, o', hm, hl⟩⟩
    · obtain ⟨ho', -, hs⟩ := exactOption?_mem hexact
      cases h.eq_of_label ho' ho hl
      exact ⟨hleft, fun o' ho' hs' => h.eq_of_common ho' ho hs' hs, .inl hs⟩
    · have ho' : o' ∈ options := by
        have hmem : o' ∈ mentioned options o.label := hm ▸ List.mem_singleton_self o'
        exact (List.mem_filter.1 (List.mem_filter.1 hmem).1).1
      cases h.eq_of_label ho' ho hl
      refine ⟨hleft, fun o' ho' hs => ?_, .inr (hment.1 hm)⟩
      rw [h.exactOption?_eq_none] at hnone
      exact absurd hs (by simp [hnone o' ho'])
  · rintro ⟨hleft, halone, hnamed⟩
    refine ⟨hleft, ?_⟩
    cases hexact : exactOption? options (cleanedAnswer o.label) with
    | some o' =>
      obtain ⟨ho', -, hs⟩ := exactOption?_mem hexact
      exact .inl ⟨o', rfl, congrArg Choice.label (halone o' ho' hs)⟩
    | none =>
      rcases hnamed with hs | hnamed
      · exact absurd hs (by simp [h.exactOption?_eq_none.1 hexact o ho])
      · exact .inr ⟨rfl, hfew, o, hment.2 hnamed, rfl⟩

/-- A label that loses nothing but blanks is distinctive. -/
theorem distinctive_of_cleaned (h : LabelsApart options) (ho : o ∈ options)
    (hc : cleanedAnswer o.label = Text.trim o.label) : Distinctive options o := by
  have hsame : ∀ l : String, sameLabel l (cleanedAnswer o.label) = sameLabel l o.label := by
    intro l
    rw [hc, sameLabel, Text.normalize_trim, sameLabel]
  refine ⟨fun he => ?_, fun o' ho' hs => ?_, .inl ?_⟩
  · have hne := h.filled o ho
    rw [hc] at he
    rw [Text.allBlank_of_trim he] at hne
    cases hne
  · rw [hsame] at hs
    exact eq_of_sameLabel h.differ ho' ho hs
  · rw [hsame]
    exact sameLabel_iff.2 rfl

/-! ## The edges of an option -/

/-- What a router keeps where the answer of the classifier names an option. -/
theorem keptEdges_of_answer {c : RunContext} {p : Partners} {s : World} {a : Assistant} {n : Node}
    {r : Router} {answer label : String} (hc : c.hasAssistant = true) (hp : p.assistant = some a)
    (hn : n.role = .router r) (hr : chosenLabel answer r.options = some label)
    (ha : a.classify s.log.prompts (r.question c.message.body) = .ok answer) (out : List Edge) :
    ((n.keptEdges c out).run p s).1 = out.filter (·.hasLabel label) := by
  rw [keptEdges_router hn]
  simp [RunContext.assistant?, hc, hp, ha, hr, Except.toOption]

/-- Where no label is blank, no two are the same and there are not too many, the options that their own
labels name are the distinctive ones, those among them whose labels lose nothing but blanks. A classifier
that answers with the label of such an option has the router keep the edges of that option, and none of
another. -/
theorem own_label {options : List Choice} (h : LabelsApart options)
    (hfew : tooManyLabels options = false) {o : Choice} (ho : o ∈ options) :
    (chosenLabel o.label options = some o.label ↔ Distinctive options o) ∧
    (cleanedAnswer o.label = Text.trim o.label → Distinctive options o) ∧
    (Distinctive options o → ∀ (c : RunContext) (p : Partners) (s : World) (a : Assistant) (n : Node)
      (r : Router) (out : List Edge), c.hasAssistant = true → p.assistant = some a →
      n.role = .router r → r.options = options →
      a.classify s.log.prompts (r.question c.message.body) = .ok o.label →
      ((n.keptEdges c out).run p s).1 = out.filter (·.hasLabel o.label) ∧
        ∀ e ∈ ((n.keptEdges c out).run p s).1, ∀ o' ∈ options, e.hasLabel o'.label = true → o' = o) := by
  have hown := chosenLabel_own h hfew ho
  refine ⟨hown, distinctive_of_cleaned h ho, fun hd c p s a n r out hc hp hn hr ha => ?_⟩
  subst hr
  have hkept := keptEdges_of_answer hc hp hn (hown.2 hd) ha out
  refine ⟨hkept, fun e he o' ho' hl' => ?_⟩
  rw [hkept] at he
  have hl := (List.mem_filter.1 he).2
  -- an edge has one label
  obtain ⟨l, hel, hs⟩ := (Option.any_eq_true _ _).1 hl
  obtain ⟨l', hel', hs'⟩ := (Option.any_eq_true _ _).1 hl'
  cases hel.symm.trans hel'
  rw [sameLabel_comm] at hs hs'
  exact h.eq_of_common ho' ho hs' hs

/-- A router between two languages. -/
def languages : Router where
  options := [⟨"c++", none⟩, ⟨"rust", none⟩]

/-- Between these languages the classifier's `c++` is the first of them. -/
theorem languages_own_label : LabelsApart languages.options ∧
    Distinctive languages.options ⟨"c++", none⟩ ∧
    chosenLabel "c++" languages.options = some "c++" ∧
    (((⟨"r", .router languages⟩ : Node).keptEdges ⟨⟨"hi", ⟨"u1", []⟩, "t1", none⟩, {}, true, .epoch⟩
      [⟨"e1", "r", "a", some "C++ ", none⟩, ⟨"e2", "r", "b", some "rust", none⟩]).run
        ⟨fun _ _ => .ok (), some (answering "c++")⟩ { store := {} }).1 =
      [⟨"e1", "r", "a", some "C++ ", none⟩] := by
  have h : LabelsApart languages.options := ⟨by decide +kernel, by decide +kernel⟩
  have hd : Distinctive languages.options ⟨"c++", none⟩ :=
    ⟨by decide +kernel, by decide +kernel, by decide +kernel⟩
  obtain ⟨hown, -, hkept⟩ := own_label h (by decide +kernel) (o := ⟨"c++", none⟩) (by decide)
  refine ⟨h, hd, hown.2 hd, ?_⟩
  rw [(hkept hd _ _ _ (answering "c++") _ languages _ rfl rfl rfl rfl rfl).1]
  decide +kernel

/-- Without its punctuation `c++` is another option, and of `?` nothing is left. -/
theorem own_label_lost : LabelsApart [⟨"c", none⟩, ⟨"c++", none⟩, ⟨"?", none⟩] ∧
    tooManyLabels [⟨"c", none⟩, ⟨"c++", none⟩, ⟨"?", none⟩] = false ∧
    chosenLabel "c++" [⟨"c", none⟩, ⟨"c++", none⟩, ⟨"?", none⟩] = some "c" ∧
    chosenLabel "?" [⟨"c", none⟩, ⟨"c++", none⟩, ⟨"?", none⟩] = none := by
  refine ⟨⟨?_, ?_⟩, ?_, ?_, ?_⟩ <;> decide +kernel

end Dialogue
