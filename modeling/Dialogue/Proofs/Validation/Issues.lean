/-
What the issues of a flow say of it: an edge is reported as dangling, the lack of a trigger, a blank
keyword and a node out of reach exactly where the flow has one (`danglingEdge_mem_validate`,
`noTrigger_mem_validate`, `count_emptyTriggerKeyword`, `unreachable_mem_validate`).
-/
import Dialogue.Proofs.Validation.Digraph
import Dialogue.Validation.Basic
import Mathlib.Tactic.Common

namespace Dialogue.Flow

variable {f : Flow} {i : Issue} {id : String}

/-! ## Nodes and edges of the graph -/

theorem hasNode_iff : f.hasNode id = true ↔ ∃ n ∈ f.nodes, n.id = id := by
  unfold hasNode
  simp only [List.any_eq_true, beq_iff_eq]

theorem hasNode_of_node? {n : Node} (h : f.node? id = some n) : f.hasNode id = true := by
  unfold node? at h
  exact hasNode_iff.2 ⟨n, List.mem_of_find?_eq_some h, by simpa using List.find?_some h⟩

theorem exists_node? (h : f.hasNode id = true) : ∃ n, f.node? id = some n := by
  obtain ⟨n, hn, hid⟩ := hasNode_iff.1 h
  refine Option.isSome_iff_exists.1 (List.find?_isSome.2 ⟨n, hn, ?_⟩)
  rw [hid, beq_self_eq_true]

theorem mem_nodeIds : id ∈ f.nodeIds ↔ f.hasNode id = true := by
  have h : ∀ (ns : List Node) (ids : List String),
      id ∈ ns.foldl (fun ids n => if n.id ∈ ids then ids else ids ++ [n.id]) ids ↔
        id ∈ ids ∨ id ∈ ns.map (·.id) := by
    intro ns
    induction ns with
    | nil => simp
    | cons n ns ih =>
      intro ids
      rw [List.foldl_cons, ih, List.map_cons, List.mem_cons, ← or_assoc]
      refine or_congr_left ?_
      split
      · rename_i hn
        constructor
        · exact .inl
        · rintro (h | rfl)
          · exact h
          · exact hn
      · rw [List.mem_append, List.mem_singleton]
  rw [nodeIds, h, hasNode_iff, List.mem_map]
  exact or_iff_right List.not_mem_nil

theorem joins_iff {e : Edge} :
    f.joins e = true ↔ f.hasNode e.source = true ∧ f.hasNode e.target = true :=
  Bool.and_eq_true_iff

/-- A path of edges between nodes leads to an id from a trigger's. -/
def Reached (f : Flow) (id : String) : Prop :=
  f.graph.Leads (f.triggers.map (·.id)) id

theorem reached_trigger {n : Node} (h : n ∈ f.triggers) : f.Reached n.id := by
  refine .start (List.mem_map_of_mem h) (mem_nodeIds.2 (hasNode_iff.2 ⟨n, ?_, rfl⟩))
  exact (List.mem_filter.1 h).1

theorem Reached.edge {e : Edge} (h : f.Reached e.source) (he : e ∈ f.edges)
    (hj : f.joins e = true) : f.Reached e.target := by
  refine .arc h ?_ (mem_nodeIds.2 (joins_iff.1 hj).2)
  exact List.mem_map.2 ⟨e, List.mem_filter.2 ⟨he, hj⟩, rfl⟩

theorem Reached.hasNode (h : f.Reached id) : f.hasNode id = true := by
  cases h with
  | start _ hn => exact mem_nodeIds.1 hn
  | arc _ _ hn => exact mem_nodeIds.1 hn

/-! ## Which check reports what -/

/-- The checks of a flow. -/
inductive Check where
  /-- Of ids that occur twice. -/
  | ids
  /-- Of each node by itself. -/
  | nodes
  /-- Of whether there is a trigger. -/
  | triggers
  /-- Of each edge. -/
  | edges
  | cycles
  /-- Of what triggers lead to. -/
  | reach
deriving DecidableEq

/-- The check that may report an issue. -/
def Check.of : Issue → Check
  | .duplicateNodeId _ => .ids
  | .emptyTriggerKeyword _ | .routerWithoutOptions _ => .nodes
  | .noTrigger => .triggers
  | .danglingEdge _ _ | .invalidLogicLabel _ _ _ | .unknownRouterLabel _ _ _ => .edges
  | .cycle _ => .cycles
  | .unreachable _ => .reach

/-- What a check reports. -/
def reported (f : Flow) : Check → List Issue
  | .ids => duplicateIssues [] f.nodes
  | .nodes => f.nodes.filterMap nodeIssue?
  | .triggers => if f.triggers.isEmpty then [.noTrigger] else []
  | .edges => f.edges.flatMap f.edgeIssues
  | .cycles => f.cycleIssues
  | .reach => if f.triggers.isEmpty then [] else f.unreachableIssues

theorem validate_eq (f : Flow) : f.validate = f.reported .ids ++ f.reported .nodes ++ f.reported .triggers ++
    f.reported .edges ++ f.reported .cycles ++ f.reported .reach := rfl

theorem of_mem_duplicateIssues {seen : List String} {ns : List Node}
    (h : i ∈ duplicateIssues seen ns) : ∃ id, .duplicateNodeId id = i := by
  induction ns generalizing seen with
  | nil => cases h
  | cons n ns ih =>
    unfold duplicateIssues at h
    split at h
    · rcases List.mem_cons.1 h with rfl | h
      · exact ⟨_, rfl⟩
      · exact ih h
    · exact ih h

theorem nodeIssue?_eq_some {n : Node} : nodeIssue? n = some i ↔
    (∃ keyword, n.role = .trigger keyword ∧ Text.allBlank keyword = true ∧
      .emptyTriggerKeyword n.id = i) ∨
    ∃ r, n.role = .router r ∧ r.options.isEmpty = true ∧ .routerWithoutOptions n.id = i := by
  obtain ⟨id, role⟩ := n
  unfold nodeIssue?
  cases role <;> simp

theorem of_labelIssue? {e : Edge} (h : f.labelIssue? e = some i) :
    .invalidLogicLabel e.id e.source e.labelOrHandle = i ∨
      .unknownRouterLabel e.id e.source e.labelOrHandle = i := by
  unfold labelIssue? at h
  split at h
  · split at h
    · cases h
    · exact .inl (Option.some.inj h)
  · split at h
    · cases h
    · exact .inr (Option.some.inj h)
  · cases h

theorem mem_danglingIssues {e : Edge} : i ∈ f.danglingIssues e ↔
    ∃ id, (id = e.source ∨ id = e.target) ∧ f.hasNode id = false ∧ .danglingEdge e.id id = i := by
  unfold danglingIssues
  simp only [List.mem_map, List.mem_filter, List.mem_cons, List.not_mem_nil, or_false,
    Bool.not_eq_true', and_assoc]

theorem mem_edgeIssues {e : Edge} : i ∈ f.edgeIssues e ↔
    f.joins e = true ∧ f.labelIssue? e = some i ∨ f.joins e = false ∧ i ∈ f.danglingIssues e := by
  unfold edgeIssues
  cases f.joins e <;> simp

theorem mem_unreachableIssues : i ∈ f.unreachableIssues ↔
    ∃ id, f.hasNode id = true ∧ ¬ f.Reached id ∧ .unreachable id = i := by
  unfold unreachableIssues Reached
  simp only [List.mem_map, List.mem_filter, mem_nodeIds, Bool.not_eq_true', and_assoc,
    ← Digraph.mem_reachable, List.contains_eq_mem, decide_eq_false_iff_not]

/-- A check reports no issue but its own. -/
theorem of_mem_reported {c : Check} (h : i ∈ f.reported c) : Check.of i = c := by
  cases c with
  | ids =>
    obtain ⟨_, rfl⟩ := of_mem_duplicateIssues h
    rfl
  | nodes =>
    obtain ⟨n, -, h⟩ := List.mem_filterMap.1 h
    obtain ⟨_, -, -, rfl⟩ | ⟨_, -, -, rfl⟩ := nodeIssue?_eq_some.1 h <;> rfl
  | triggers =>
    change i ∈ if f.triggers.isEmpty then [.noTrigger] else [] at h
    split at h
    · cases List.mem_singleton.1 h
      rfl
    · cases h
  | edges =>
    obtain ⟨e, -, h⟩ := List.mem_flatMap.1 h
    rcases mem_edgeIssues.1 h with ⟨-, h⟩ | ⟨-, h⟩
    · rcases of_labelIssue? h with rfl | rfl <;> rfl
    · obtain ⟨_, -, -, rfl⟩ := mem_danglingIssues.1 h
      rfl
  | cycles =>
    obtain ⟨_, -, rfl⟩ := List.mem_map.1 h
    rfl
  | reach =>
    change i ∈ if f.triggers.isEmpty then [] else f.unreachableIssues at h
    split at h
    · cases h
    · obtain ⟨_, -, -, rfl⟩ := mem_unreachableIssues.1 h
      rfl

theorem filter_reported (c c' : Check) :
    (f.reported c').filter (Check.of · == c) = if c' = c then f.reported c' else [] := by
  split
  · rename_i h
    exact List.filter_eq_self.2 fun i hi => by simp [of_mem_reported hi, h]
  · rename_i h
    exact List.filter_eq_nil_iff.2 fun i hi => by simp [of_mem_reported hi, h]

/-- The issues that a check may report are those that it does report, in its order. -/
theorem filter_validate (c : Check) : f.validate.filter (Check.of · == c) = f.reported c := by
  rw [validate_eq]
  simp only [List.filter_append, filter_reported]
  cases c <;> simp

theorem mem_validate : i ∈ f.validate ↔ i ∈ f.reported (Check.of i) := by
  rw [← filter_validate, List.mem_filter, beq_self_eq_true, and_iff_left rfl]

theorem count_validate (i : Issue) : f.validate.count i = (f.reported (Check.of i)).count i := by
  rw [← filter_validate]
  exact (List.count_filter (p := (Check.of · == Check.of i)) (beq_self_eq_true _)).symm

/-! ## What is reported -/

theorem noTrigger_mem_validate : .noTrigger ∈ f.validate ↔ f.triggers = [] := by
  rw [mem_validate]
  show Issue.noTrigger ∈ (if f.triggers.isEmpty then [.noTrigger] else []) ↔ _
  cases f.triggers <;> simp

/-- An end of an edge is reported exactly if it is no node. -/
theorem danglingEdge_mem_validate {edgeId nodeId : String} : .danglingEdge edgeId nodeId ∈ f.validate ↔
    ∃ e ∈ f.edges, e.id = edgeId ∧ (nodeId = e.source ∨ nodeId = e.target) ∧
      f.hasNode nodeId = false := by
  rw [mem_validate]
  show _ ∈ f.edges.flatMap f.edgeIssues ↔ _
  rw [List.mem_flatMap]
  refine exists_congr fun e => and_congr_right fun _ => ?_
  rw [mem_edgeIssues, mem_danglingIssues]
  constructor
  · rintro (⟨-, h⟩ | ⟨-, id, hid, hno, h⟩)
    · rcases of_labelIssue? h with h | h <;> cases h
    · cases h
      exact ⟨rfl, hid, hno⟩
  · rintro ⟨rfl, hid, hno⟩
    refine .inr ⟨?_, nodeId, hid, hno, rfl⟩
    rcases hid with rfl | rfl <;> simp [joins, hno]

/-- An id is reported to be out of reach exactly if it is that of a node to which no path leads from a
trigger, and there is a trigger. -/
theorem unreachable_mem_validate : .unreachable id ∈ f.validate ↔
    f.triggers ≠ [] ∧ f.hasNode id = true ∧ ¬ f.Reached id := by
  rw [mem_validate]
  show _ ∈ (if f.triggers.isEmpty then [] else f.unreachableIssues) ↔ _
  cases hts : f.triggers with
  | nil => simp
  | cons n ns => simp [mem_unreachableIssues]

/-- A blank keyword is reported once for every trigger that has one. -/
theorem count_emptyTriggerKeyword (id : String) : f.validate.count (.emptyTriggerKeyword id) =
    f.nodes.countP fun n => nodeIssue? n == some (.emptyTriggerKeyword id) := by
  rw [count_validate]
  show (f.nodes.filterMap nodeIssue?).count _ = _
  rw [List.count_filterMap]

/-- A node whose keyword is reported to be blank is a trigger of that id. -/
theorem of_emptyTriggerKeyword {n : Node} (h : nodeIssue? n = some (.emptyTriggerKeyword id)) :
    n.id = id ∧ ∃ keyword, n.role = .trigger keyword ∧ Text.allBlank keyword = true := by
  rcases nodeIssue?_eq_some.1 h with ⟨keyword, hr, hb, hid⟩ | ⟨_, -, -, hid⟩
  · exact ⟨Issue.emptyTriggerKeyword.inj hid, keyword, hr, hb⟩
  · cases hid

/-- Where blank keywords are reported as often as there are triggers, under every id, all keywords are
blank. -/
theorem allBlank_of_reported
    (h : ∀ id, f.triggers.countP (·.id == id) ≤ f.validate.count (.emptyTriggerKeyword id)) {n : Node}
    (hn : n ∈ f.nodes) {keyword : String} (hr : n.role = .trigger keyword) :
    Text.allBlank keyword = true := by
  -- every report under the id is of a trigger with the id
  have hsub : ∀ m ∈ f.nodes, ((m.id == n.id && m.type == .trigger) &&
      nodeIssue? m == some (.emptyTriggerKeyword n.id)) =
        (nodeIssue? m == some (.emptyTriggerKeyword n.id)) := by
    intro m _
    cases hm : nodeIssue? m == some (.emptyTriggerKeyword n.id) with
    | false => exact Bool.and_false _
    | true =>
      obtain ⟨hid, _, hrole, -⟩ := of_emptyTriggerKeyword (beq_iff_eq.1 hm)
      simp [Node.type, NodeRole.type, hrole, hid]
  -- so no trigger of that id is left over that is not reported
  have hrest : (f.nodes.filter fun m => !(nodeIssue? m == some (.emptyTriggerKeyword n.id))).countP
      (fun m => m.id == n.id && m.type == .trigger) = 0 := by
    have hle := h n.id
    rw [triggers, List.countP_filter, count_emptyTriggerKeyword,
      List.countP_eq_countP_filter_add _ _ fun m => nodeIssue? m == some (.emptyTriggerKeyword n.id),
      List.countP_filter, List.countP_congr fun m hm => by rw [hsub m hm]] at hle
    omega
  have hrep : nodeIssue? n = some (.emptyTriggerKeyword n.id) := by
    by_contra hno
    refine List.countP_eq_zero.1 hrest n (List.mem_filter.2 ⟨hn, by simpa using hno⟩) ?_
    simp [Node.type, NodeRole.type, hr]
  obtain ⟨-, keyword', hr', hb⟩ := of_emptyTriggerKeyword hrep
  cases hr.symm.trans hr'
  exact hb

end Dialogue.Flow
