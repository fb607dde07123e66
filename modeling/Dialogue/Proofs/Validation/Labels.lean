/-
What validation says of labels and what runs make of them. Where no id is used twice, an edge whose
label is reported, or that leaves a router without options, is never followed; and an edge from a logic
node whose label is not reported is followed for one outcome of the condition and not for the other
(`Flow.labels_agree`).
-/
import Dialogue.Proofs.Run.Classification
import Dialogue.Proofs.Validation.Issues
import Mathlib.Data.List.Nodup

namespace Dialogue

/-! ## Truth labels -/

namespace Edge

/-- No edge has both of the labels under which a logic node is left. -/
theorem not_hasLabel_both (e : Edge) :
    ¬ (e.hasLabel "true" = true ∧ e.hasLabel "false" = true) := by
  have hne : Text.normalize "true" ≠ Text.normalize "false" := by decide +kernel
  rintro ⟨ht, hf⟩
  obtain ⟨l, hl, ht⟩ := (Option.any_eq_true _ _).1 ht
  obtain ⟨l', hl', hf⟩ := (Option.any_eq_true _ _).1 hf
  cases hl.symm.trans hl'
  exact hne ((sameLabel_iff.1 ht).symm.trans (sameLabel_iff.1 hf))

theorem isTruthLabelled_iff {e : Edge} : Flow.isTruthLabelled e = true ↔
    e.hasLabel "true" = true ∨ e.hasLabel "false" = true := by
  unfold Flow.isTruthLabelled hasLabel
  cases e.labelOrHandle <;> simp

theorem isOptionLabelled_of_hasLabel {e : Edge} {r : Router} {o : Choice} (ho : o ∈ r.options)
    (h : e.hasLabel o.label = true) : Flow.isOptionLabelled r e = true := by
  obtain ⟨l, hl, hs⟩ := (Option.any_eq_true _ _).1 h
  refine (Option.any_eq_true _ _).2 ⟨l, hl, List.any_eq_true.2 ⟨o, ho, ?_⟩⟩
  rw [sameLabel_comm]
  exact hs

end Edge

namespace Flow

variable {f : Flow} {e : Edge}

/-! ## What is reported of labels -/

theorem duplicateIssues_eq_nil {seen : List String} {ns : List Node} :
    duplicateIssues seen ns = [] ↔ (ns.map (·.id)).Nodup ∧ ∀ n ∈ ns, n.id ∉ seen := by
  induction ns generalizing seen with
  | nil => simp [duplicateIssues]
  | cons n ns ih =>
    unfold duplicateIssues
    rw [List.map_cons, List.nodup_cons, List.forall_mem_cons]
    split
    · rename_i hn
      simp [hn]
    · rename_i hn
      rw [ih]
      constructor
      · rintro ⟨hd, hseen⟩
        refine ⟨⟨fun hm => ?_, hd⟩, hn, fun m hm hms => hseen m hm (List.mem_cons_of_mem _ hms)⟩
        obtain ⟨m, hm, hid⟩ := List.mem_map.1 hm
        exact hseen m hm (by simp [hid])
      · rintro ⟨⟨hfresh, hd⟩, -, hseen⟩
        refine ⟨hd, fun m hm hms => ?_⟩
        rcases List.mem_cons.1 hms with hid | hms
        · exact hfresh (List.mem_map.2 ⟨m, hm, hid⟩)
        · exact hseen m hm hms

theorem reported_ids_eq_nil : f.reported .ids = [] ↔ (f.nodes.map (·.id)).Nodup :=
  duplicateIssues_eq_nil.trans (and_iff_left fun _ _ => List.not_mem_nil)

/-- No id is reported to be used twice exactly if none is. -/
theorem no_duplicateNodeId_iff :
    (∀ id, .duplicateNodeId id ∉ f.validate) ↔ (f.nodes.map (·.id)).Nodup := by
  rw [← reported_ids_eq_nil, List.eq_nil_iff_forall_not_mem]
  constructor
  · intro h i hi
    obtain ⟨id, rfl⟩ := of_mem_duplicateIssues hi
    exact h id (mem_validate.2 hi)
  · intro h id hi
    exact h _ (mem_validate.1 hi)

theorem node?_of_mem (hd : (f.nodes.map (·.id)).Nodup) {n : Node} (hn : n ∈ f.nodes) :
    f.node? n.id = some n := by
  obtain ⟨m, hm⟩ := exists_node? (hasNode_iff.2 ⟨n, hn, rfl⟩)
  have hmem : m ∈ f.nodes := List.mem_of_find?_eq_some hm
  rw [hm, List.inj_on_of_nodup_map hd hmem hn (id_of_node? hm)]

theorem routerWithoutOptions_mem_validate {id : String} : .routerWithoutOptions id ∈ f.validate ↔
    ∃ n ∈ f.nodes, n.id = id ∧ ∃ r, n.role = .router r ∧ r.options = [] := by
  rw [mem_validate]
  show _ ∈ f.nodes.filterMap nodeIssue? ↔ _
  rw [List.mem_filterMap]
  refine exists_congr fun n => and_congr_right fun _ => ?_
  rw [nodeIssue?_eq_some]
  constructor
  · rintro (⟨_, -, -, h⟩ | ⟨r, hr, ho, h⟩)
    · cases h
    · cases h
      exact ⟨rfl, r, hr, List.isEmpty_iff.1 ho⟩
  · rintro ⟨rfl, r, hr, ho⟩
    exact .inr ⟨r, hr, List.isEmpty_iff.2 ho, rfl⟩

/-- The issue of a label is reported exactly if it is that of an edge with both ends. -/
theorem labelIssue_mem_validate {i : Issue} (hi : Check.of i = .edges)
    (hno : ∀ edgeId nodeId, i ≠ .danglingEdge edgeId nodeId) :
    i ∈ f.validate ↔ ∃ e ∈ f.edges, f.joins e = true ∧ f.labelIssue? e = some i := by
  rw [mem_validate, hi]
  show _ ∈ f.edges.flatMap f.edgeIssues ↔ _
  rw [List.mem_flatMap]
  refine exists_congr fun e => and_congr_right fun _ => ?_
  rw [mem_edgeIssues]
  refine or_iff_left ?_
  rintro ⟨-, h⟩
  obtain ⟨_, -, -, h⟩ := mem_danglingIssues.1 h
  exact hno _ _ h.symm

theorem labelIssue?_eq_logic {edgeId nodeId : String} {label : Option String} :
    f.labelIssue? e = some (.invalidLogicLabel edgeId nodeId label) ↔
      (∃ n l, f.node? e.source = some n ∧ n.role = .logic l) ∧ isTruthLabelled e = false ∧
        e.id = edgeId ∧ e.source = nodeId ∧ e.labelOrHandle = label := by
  unfold labelIssue?
  rcases f.node? e.source with _ | ⟨id, role⟩
  · simp
  · cases role <;> simp

theorem labelIssue?_eq_router {edgeId nodeId : String} {label : Option String} :
    f.labelIssue? e = some (.unknownRouterLabel edgeId nodeId label) ↔
      ∃ n r, f.node? e.source = some n ∧ n.role = .router r ∧ isOptionLabelled r e = false ∧
        e.id = edgeId ∧ e.source = nodeId ∧ e.labelOrHandle = label := by
  unfold labelIssue?
  rcases f.node? e.source with _ | ⟨id, role⟩
  · simp
  · cases role <;> simp

/-- The label of an edge from a logic node is reported exactly if it is neither of the two. -/
theorem invalidLogicLabel_iff (he : e ∈ f.edges) (hj : f.joins e = true) :
    .invalidLogicLabel e.id e.source e.labelOrHandle ∈ f.validate ↔
      (∃ n l, f.node? e.source = some n ∧ n.role = .logic l) ∧ isTruthLabelled e = false := by
  rw [labelIssue_mem_validate rfl fun _ _ h => by cases h]
  simp only [labelIssue?_eq_logic]
  constructor
  · rintro ⟨e', -, -, hl, ht, -, hs, hlab⟩
    -- what is reported depends on nothing but the source and the label
    rw [hs] at hl
    unfold isTruthLabelled at ht ⊢
    rw [hlab] at ht
    exact ⟨hl, ht⟩
  · rintro ⟨hl, ht⟩
    exact ⟨e, he, hj, hl, ht, rfl, rfl, rfl⟩

/-- The label of an edge from a router is reported exactly if it is that of none of its options. -/
theorem unknownRouterLabel_iff (he : e ∈ f.edges) (hj : f.joins e = true) :
    .unknownRouterLabel e.id e.source e.labelOrHandle ∈ f.validate ↔
      ∃ n r, f.node? e.source = some n ∧ n.role = .router r ∧ isOptionLabelled r e = false := by
  rw [labelIssue_mem_validate rfl fun _ _ h => by cases h]
  simp only [labelIssue?_eq_router]
  constructor
  · rintro ⟨e', -, -, n, r, hn, hr, ho, -, hs, hlab⟩
    rw [hs] at hn
    unfold isOptionLabelled at ho ⊢
    rw [hlab] at ho
    exact ⟨n, r, hn, hr, ho⟩
  · rintro ⟨n, r, hn, hr, ho⟩
    exact ⟨e, he, hj, n, r, hn, hr, ho, rfl, rfl, rfl⟩

/-- Validation finds fault with the label of an edge, or with the router that it leaves. -/
def Reports (f : Flow) (e : Edge) : Prop :=
  .invalidLogicLabel e.id e.source e.labelOrHandle ∈ f.validate ∨
    .unknownRouterLabel e.id e.source e.labelOrHandle ∈ f.validate ∨
    .routerWithoutOptions e.source ∈ f.validate

end Flow

/-! ## What is kept -/

section

variable {f : Flow} {e : Edge} {n : Node} {c : RunContext} {p : Partners} {s : World}

/-- The edges kept at a node leave it. -/
theorem source_of_kept (h : e ∈ ((n.keptEdges c (f.outgoing n.id)).run p s).1) : e.source = n.id := by
  obtain ⟨q, hq⟩ := n.keptEdges_eq_filter c p (f.outgoing n.id) s
  rw [hq] at h
  exact beq_iff_eq.1 (List.mem_filter.1 (List.mem_filter.1 h).1).2

/-- An edge kept at a logic node leaves it, and has the label of the outcome of the condition. -/
theorem mem_keptEdges_logic {l : Logic} (hl : n.role = .logic l) {out : List Edge} :
    e ∈ ((n.keptEdges c out).run p s).1 ↔ e ∈ out ∧ e.hasLabel (l.wanted c) = true := by
  unfold Node.keptEdges
  rw [hl]
  exact List.mem_filter

/-- An edge kept at a router has the label of one of its options. -/
theorem mem_keptEdges_router {r : Router} (hr : n.role = .router r) {out : List Edge}
    (h : e ∈ ((n.keptEdges c out).run p s).1) :
    ∃ o ∈ r.options, e.hasLabel o.label = true := by
  rw [keptEdges_router hr] at h
  split at h
  · rename_i label hlabel
    obtain ⟨a, -, hanswer⟩ := Option.bind_eq_some_iff.1 hlabel
    obtain ⟨answer, -, hchosen⟩ := Option.bind_eq_some_iff.1 hanswer
    obtain ⟨o, ho, rfl⟩ := chosenLabel_mem hchosen
    exact ⟨o, ho, (List.mem_filter.1 h).2⟩
  · cases h

/-- Where no id is used twice, an edge that is reported is never kept. -/
theorem not_kept_of_reports (hd : (f.nodes.map (·.id)).Nodup) (he : e ∈ f.edges)
    (hj : f.joins e = true) (hrep : f.Reports e) (hn : n ∈ f.nodes) :
    e ∉ ((n.keptEdges c (f.outgoing n.id)).run p s).1 := by
  intro hkept
  have hnode : f.node? e.source = some n := by
    rw [source_of_kept hkept]
    exact Flow.node?_of_mem hd hn
  rcases hrep with hrep | hrep | hrep
  · obtain ⟨⟨m, l, hm, hl⟩, ht⟩ := (Flow.invalidLogicLabel_iff he hj).1 hrep
    cases hnode.symm.trans hm
    have hlab := ((mem_keptEdges_logic hl).1 hkept).2
    have htruth : Flow.isTruthLabelled e = true := by
      unfold Logic.wanted at hlab
      split at hlab
      · exact Edge.isTruthLabelled_iff.2 (.inl hlab)
      · exact Edge.isTruthLabelled_iff.2 (.inr hlab)
    rw [ht] at htruth
    cases htruth
  · obtain ⟨m, r, hm, hr, ho⟩ := (Flow.unknownRouterLabel_iff he hj).1 hrep
    cases hnode.symm.trans hm
    obtain ⟨o, hmem, hlab⟩ := mem_keptEdges_router hr hkept
    have hopt := Edge.isOptionLabelled_of_hasLabel hmem hlab
    rw [ho] at hopt
    cases hopt
  · obtain ⟨m, hm, hid, r, hr, ho⟩ := Flow.routerWithoutOptions_mem_validate.1 hrep
    have hmn : f.node? e.source = some m := by
      rw [← hid]
      exact Flow.node?_of_mem hd hm
    cases hnode.symm.trans hmn
    obtain ⟨o, hmem, -⟩ := mem_keptEdges_router hr hkept
    rw [ho] at hmem
    cases hmem

/-- An edge with one of the two truth labels is kept at the logic node it leaves exactly for the
outcome of that label. -/
theorem kept_iff_of_truthLabelled (he : e ∈ f.edges) (ht : Flow.isTruthLabelled e = true)
    (hid : n.id = e.source) {l : Logic} (hl : n.role = .logic l) :
    e ∈ ((n.keptEdges c (f.outgoing n.id)).run p s).1 ↔
      l.holds c.message c.config = e.hasLabel "true" := by
  have hout : e ∈ f.outgoing n.id := List.mem_filter.2 ⟨he, by simp [hid]⟩
  have hboth := e.not_hasLabel_both
  have htruth := Edge.isTruthLabelled_iff.1 ht
  rw [mem_keptEdges_logic hl, and_iff_right hout]
  unfold Logic.wanted
  cases l.holds c.message c.config with
  | true => simp
  | false =>
    cases htrue : e.hasLabel "true" with
    | true => simpa [htrue] using hboth
    | false => simpa [htrue] using htruth

end

/-- Where no id is used twice, take an edge between two nodes. If its label is reported, or the router it
leaves, no message has it followed. If it leaves a logic node and is not reported, there is one outcome
of the condition for which it is kept, whatever the message and the settings, and it is not kept for the
other. So a logic node never has edges of both labels followed at once. -/
theorem Flow.labels_agree {f : Flow} (hd : ∀ id, .duplicateNodeId id ∉ f.validate) {e : Edge}
    (he : e ∈ f.edges) (hj : f.joins e = true) :
    (f.Reports e → ∀ n ∈ f.nodes, ∀ (c : RunContext) (p : Partners) (s : World),
      e ∉ ((n.keptEdges c (f.outgoing n.id)).run p s).1) ∧
    (∀ n ∈ f.nodes, n.id = e.source → ∀ l, n.role = .logic l →
      .invalidLogicLabel e.id e.source e.labelOrHandle ∉ f.validate →
      ∃! outcome : Bool, ∀ (c : RunContext) (p : Partners) (s : World),
        e ∈ ((n.keptEdges c (f.outgoing n.id)).run p s).1 ↔
          l.holds c.message c.config = outcome) ∧
    ∀ n ∈ f.nodes, ∀ l, n.role = .logic l → ∀ (c : RunContext) (p : Partners) (s : World),
      ∀ e₁ ∈ ((n.keptEdges c (f.outgoing n.id)).run p s).1,
      ∀ e₂ ∈ ((n.keptEdges c (f.outgoing n.id)).run p s).1,
        ¬ (e₁.hasLabel "true" = true ∧ e₂.hasLabel "false" = true) := by
  have hnodup := no_duplicateNodeId_iff.1 hd
  refine ⟨fun hrep n hn c p s => not_kept_of_reports hnodup he hj hrep hn,
    fun n hn hid l hl hnot => ?_, fun n hn l hl c p s e₁ h₁ e₂ h₂ hboth => ?_⟩
  · have ht : isTruthLabelled e = true := by
      by_contra hno
      refine hnot ((invalidLogicLabel_iff he hj).2 ⟨⟨n, l, ?_, hl⟩, by simpa using hno⟩)
      rw [← hid]
      exact node?_of_mem hnodup hn
    refine ⟨e.hasLabel "true", fun c p s => kept_iff_of_truthLabelled he ht hid hl, fun b hb => ?_⟩
    -- any one message tells the two outcomes apart
    have hone := hb ⟨⟨"", ⟨"", []⟩, "", none⟩, {}, false, .epoch⟩ ⟨fun _ _ => .ok (), none⟩ { store := {} }
    rw [kept_iff_of_truthLabelled he ht hid hl] at hone
    generalize l.holds _ _ = holds at hone
    cases b <;> cases holds <;> simp_all
  · have hw₁ := ((mem_keptEdges_logic hl).1 h₁).2
    have hw₂ := ((mem_keptEdges_logic hl).1 h₂).2
    unfold Logic.wanted at hw₁ hw₂
    split at hw₁
    · rename_i hh
      rw [if_pos hh] at hw₂
      exact e₂.not_hasLabel_both ⟨hw₂, hboth.2⟩
    · exact e₁.not_hasLabel_both ⟨hboth.1, hw₁⟩

/-- A flow with a condition, two edges from it whose labels are in order and one whose label is not, and
an edge to no option of a router. -/
def Flow.crossroads : Flow where
  id := "crossroads"
  name := "Crossroads"
  tenantId := "t1"
  nodes := [.trigger "t" "go", .logic "l" "is_premium", .aiRouter "r" [⟨"sales", none⟩], .action "a" "A"]
  edges := [⟨"e1", "t", "l", none, none⟩, ⟨"e2", "l", "r", some " TRUE", none⟩,
    ⟨"e3", "l", "a", none, some "false"⟩, ⟨"e4", "l", "a", some "yes", none⟩,
    ⟨"e5", "r", "a", some "refunds", none⟩]
  createdAt := .epoch
  updatedAt := .epoch

/-- At this crossroads the labels of `e4` and `e5` are reported and these edges never kept, and `e2` is
kept for one outcome. -/
theorem Flow.crossroads_agree : (∀ id, .duplicateNodeId id ∉ crossroads.validate) ∧
    crossroads.Reports ⟨"e4", "l", "a", some "yes", none⟩ ∧
    crossroads.Reports ⟨"e5", "r", "a", some "refunds", none⟩ ∧
    (∀ c p s, (⟨"e4", "l", "a", some "yes", none⟩ : Edge) ∉
      (((Node.logic "l" "is_premium").keptEdges c (crossroads.outgoing "l")).run p s).1) ∧
    (∀ c p s, (⟨"e5", "r", "a", some "refunds", none⟩ : Edge) ∉
      (((Node.aiRouter "r" [⟨"sales", none⟩]).keptEdges c (crossroads.outgoing "r")).run p s).1) ∧
    .invalidLogicLabel "e2" "l" (some " TRUE") ∉ crossroads.validate ∧
    ∃! outcome : Bool, ∀ c p s, (⟨"e2", "l", "r", some " TRUE", none⟩ : Edge) ∈
      (((Node.logic "l" "is_premium").keptEdges c (crossroads.outgoing "l")).run p s).1 ↔
        (⟨.isPremium, none⟩ : Logic).holds c.message c.config = outcome := by
  have hd : ∀ id, .duplicateNodeId id ∉ crossroads.validate :=
    no_duplicateNodeId_iff.2 (by decide +kernel)
  have h4 : crossroads.Reports ⟨"e4", "l", "a", some "yes", none⟩ :=
    .inl ((invalidLogicLabel_iff (by decide +kernel) (by decide +kernel)).2
      ⟨⟨.logic "l" "is_premium", _, by decide +kernel, rfl⟩, by decide +kernel⟩)
  have h5 : crossroads.Reports ⟨"e5", "r", "a", some "refunds", none⟩ :=
    .inr (.inl ((unknownRouterLabel_iff (by decide +kernel) (by decide +kernel)).2
      ⟨.aiRouter "r" [⟨"sales", none⟩], _, by decide +kernel, rfl, by decide +kernel⟩))
  have h2 : .invalidLogicLabel "e2" "l" (some " TRUE") ∉ crossroads.validate := by
    intro h
    have hno := ((invalidLogicLabel_iff (e := ⟨"e2", "l", "r", some " TRUE", none⟩)
      (by decide +kernel) (by decide +kernel)).1 h).2
    exact absurd hno (by decide +kernel)
  refine ⟨hd, h4, h5, (labels_agree hd (by decide +kernel) (by decide +kernel)).1 h4 _ (by decide +kernel),
    (labels_agree hd (by decide +kernel) (by decide +kernel)).1 h5 _ (by decide +kernel), h2, ?_⟩
  exact (labels_agree hd (e := ⟨"e2", "l", "r", some " TRUE", none⟩) (by decide +kernel)
    (by decide +kernel)).2.1 (.logic "l" "is_premium") (by decide +kernel) rfl ⟨.isPremium, none⟩
      (by decide +kernel) h2

end Dialogue
