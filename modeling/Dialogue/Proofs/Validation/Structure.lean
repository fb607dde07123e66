/-
What validation finds in the structure of a flow (`structural_findings`). Its errors are told in full:
the ids that earlier nodes have, the lack of a trigger, and the missing ends of edges, each in the order
of the nodes or the edges. So are the ids out of reach: those to which no path of edges between nodes
leads from a trigger, in the order in which they first occur.
-/
import Dialogue.Proofs.Validation.Cycles
import Dialogue.Proofs.Validation.Labels

namespace Dialogue.Flow

open Relation

variable {f : Flow} {i : Issue} {id : String}

/-! ## Ids -/

/-- The ids of the nodes whose id an earlier node has, in the order of the nodes. -/
def repeatedIds (f : Flow) : List String :=
  (f.nodes.zipIdx.filter fun p => p.1.id ∈ (f.nodes.take p.2).map (·.id)).map (·.1.id)

theorem hasNode_eq_decide (f : Flow) (id : String) :
    f.hasNode id = decide (id ∈ f.nodes.map (·.id)) := by
  rw [Bool.eq_iff_iff, hasNode_iff, decide_eq_true_iff, List.mem_map]

/-- The check of ids goes on behind the nodes it has seen. -/
theorem duplicateIssues_eq (before ns : List Node) {seen : List String}
    (hseen : ∀ id, id ∈ seen ↔ id ∈ before.map (·.id)) :
    duplicateIssues seen ns = (((ns.zipIdx before.length).filter fun p =>
      p.1.id ∈ ((before ++ ns).take p.2).map (·.id)).map (·.1.id)).map .duplicateNodeId := by
  induction ns generalizing before seen with
  | nil => rfl
  | cons n ns ih =>
    have htake : (before ++ n :: ns).take before.length = before := List.take_left
    have happ : before ++ n :: ns = (before ++ [n]) ++ ns := by simp
    have hlen : before.length + 1 = (before ++ [n]).length := by simp
    rw [List.zipIdx_cons, duplicateIssues]
    split
    · rename_i hn
      have hseen' : ∀ id, id ∈ seen ↔ id ∈ (before ++ [n]).map (·.id) := by
        intro id
        rw [List.map_append, List.mem_append, ← hseen]
        refine (or_iff_left_of_imp fun h => ?_).symm
        rw [List.mem_singleton.1 h]
        exact hn
      rw [List.filter_cons_of_pos (by simpa only [htake, decide_eq_true_iff] using (hseen n.id).1 hn),
        happ, hlen, ih (before ++ [n]) hseen']
      rfl
    · rename_i hn
      have hseen' : ∀ id, id ∈ n.id :: seen ↔ id ∈ (before ++ [n]).map (·.id) := by
        intro id
        simp only [List.map_append, List.mem_append, List.mem_cons, hseen]
        exact or_comm.trans (or_congr_right List.mem_singleton.symm)
      rw [List.filter_cons_of_neg (by simpa only [htake, decide_eq_true_iff] using mt (hseen n.id).2 hn),
        happ, hlen, ih (before ++ [n]) hseen']

theorem reported_ids (f : Flow) : f.reported .ids = f.repeatedIds.map .duplicateNodeId :=
  duplicateIssues_eq [] f.nodes (by simp)

/-- The nodes of the graph are the ids, each at its first place. -/
theorem nodeIds_eq (f : Flow) : f.nodeIds = (f.nodes.map (·.id)).eraseDups := by
  unfold nodeIds
  induction f.nodes using List.reverseRecOn with
  | nil => rfl
  | append_singleton ns n ih =>
    rw [List.foldl_append, ih, List.map_append, List.eraseDups_append]
    simp only [List.foldl_cons, List.foldl_nil, List.mem_eraseDups]
    split
    · rename_i hn
      have hnone : [n.id].removeAll (ns.map (·.id)) = [] := by
        simp only [List.removeAll, List.filter_cons, List.filter_nil, List.elem_eq_mem, hn, decide_true,
          Bool.not_true, Bool.false_eq_true, if_false]
      show _ = _ ++ ([n.id].removeAll (ns.map (·.id))).eraseDups
      rw [hnone, List.eraseDups_nil, List.append_nil]
    · rename_i hn
      have hself : [n.id].removeAll (ns.map (·.id)) = [n.id] := by
        simp only [List.removeAll, List.filter_cons, List.filter_nil, List.elem_eq_mem, hn, decide_false,
          Bool.not_false, if_true]
      show _ = _ ++ ([n.id].removeAll (ns.map (·.id))).eraseDups
      rw [hself]
      rfl

/-! ## Errors -/

/-- Errors are found by the checks of ids and of triggers, and by the check of edges besides others. -/
theorem Check.severity_eq_error {c : Check} (h : Check.of i = c) (hc : c ≠ .edges) :
    i.severity = .error ↔ c = .ids ∨ c = .triggers := by
  subst h
  cases i <;> simp_all [Check.of, Issue.severity]

theorem errorsOf_edgeIssues (f : Flow) (e : Edge) : errorsOf (f.edgeIssues e) = f.danglingIssues e := by
  unfold errorsOf edgeIssues
  split
  · rename_i hj
    obtain ⟨hs, ht⟩ := joins_iff.1 hj
    have hnone : f.danglingIssues e = [] := by simp [danglingIssues, hs, ht]
    rw [hnone, List.filter_eq_nil_iff]
    intro i hi
    rcases of_labelIssue? (Option.mem_toList.1 hi) with rfl | rfl <;> simp [Issue.severity]
  · refine List.filter_eq_self.2 fun i hi => ?_
    obtain ⟨id, -, -, rfl⟩ := mem_danglingIssues.1 hi
    rfl

theorem errorsOf_reported (f : Flow) (c : Check) : errorsOf (f.reported c) =
    match c with
    | .ids | .triggers => f.reported c
    | .edges => f.edges.flatMap f.danglingIssues
    | _ => [] := by
  have hall : (c = .ids ∨ c = .triggers) → errorsOf (f.reported c) = f.reported c := by
    intro hc
    refine List.filter_eq_self.2 fun i hi => decide_eq_true ?_
    exact (Check.severity_eq_error (of_mem_reported hi) (by rcases hc with rfl | rfl <;> decide)).2 hc
  have hnone : c ≠ .edges → ¬ (c = .ids ∨ c = .triggers) → errorsOf (f.reported c) = [] := by
    intro he hc
    refine List.filter_eq_nil_iff.2 fun i hi => ?_
    rw [decide_eq_true_iff, Check.severity_eq_error (of_mem_reported hi) he]
    exact hc
  cases c with
  | ids => exact hall (.inl rfl)
  | triggers => exact hall (.inr rfl)
  | edges =>
    show (f.edges.flatMap f.edgeIssues).filter _ = _
    rw [List.filter_flatMap]
    exact congrArg (List.flatMap · f.edges) (funext f.errorsOf_edgeIssues)
  | nodes => exact hnone (by decide) (by decide)
  | cycles => exact hnone (by decide) (by decide)
  | reach => exact hnone (by decide) (by decide)

theorem errorsOf_validate (f : Flow) : errorsOf f.validate =
    f.reported .ids ++ f.reported .triggers ++ f.edges.flatMap f.danglingIssues := by
  have happ : ∀ xs ys, errorsOf (xs ++ ys) = errorsOf xs ++ errorsOf ys := fun xs ys => List.filter_append ..
  rw [validate_eq]
  simp only [happ, errorsOf_reported, List.append_nil]

theorem danglingIssues_eq (f : Flow) (e : Edge) : f.danglingIssues e =
    ([e.source, e.target].filter fun id => id ∉ f.nodes.map (·.id)).map (.danglingEdge e.id) := by
  unfold danglingIssues
  refine congrArg _ (List.filter_congr fun id _ => ?_)
  rw [hasNode_eq_decide, decide_not]

/-! ## Reach -/

theorem reached_iff : f.Reached id ↔ ∃ t ∈ f.triggers, ReflTransGen f.Joined t.id id := by
  unfold Reached
  rw [Digraph.leads_iff, arc_eq_joined]
  constructor
  · rintro ⟨a, ha, -, hpath⟩
    obtain ⟨t, ht, rfl⟩ := List.mem_map.1 ha
    exact ⟨t, ht, hpath⟩
  · rintro ⟨t, ht, hpath⟩
    exact ⟨t.id, List.mem_map_of_mem ht, (reached_trigger ht).mem_nodes, hpath⟩

open Classical in
theorem unreachableIssues_eq (f : Flow) : f.unreachableIssues =
    ((f.nodes.map (·.id)).eraseDups.filter fun id =>
      ¬ ∃ t ∈ f.triggers, ReflTransGen f.Joined t.id id).map .unreachable := by
  unfold unreachableIssues
  rw [nodeIds_eq]
  refine congrArg _ (List.filter_congr fun id _ => ?_)
  rw [Bool.eq_iff_iff, decide_eq_true_iff, ← reached_iff, Bool.not_eq_true', List.contains_eq_mem,
    decide_eq_false_iff_not, Digraph.mem_reachable]
  rfl

/-! ## Findings -/

open Classical in
/-- The errors of a flow are the ids that earlier nodes have, the lack of a trigger, and the missing ends
of edges, one error for each. So there are errors exactly if two nodes share an id, no node is a trigger,
or an end of some edge is missing. The ids that are out of reach of all triggers are reported once each,
in the order in which they first occur. -/
theorem structural_findings (f : Flow) :
    errorsOf f.validate = f.repeatedIds.map .duplicateNodeId ++
      (if f.triggers = [] then [.noTrigger] else []) ++
      f.edges.flatMap (fun e =>
        ([e.source, e.target].filter fun id => id ∉ f.nodes.map (·.id)).map (.danglingEdge e.id)) ∧
    (errorsOf f.validate ≠ [] ↔ ¬ (f.nodes.map (·.id)).Nodup ∨ f.triggers = [] ∨
      ∃ e ∈ f.edges, e.source ∉ f.nodes.map (·.id) ∨ e.target ∉ f.nodes.map (·.id)) ∧
    f.validate.filter (Check.of · == .reach) = if f.triggers = [] then [] else
      ((f.nodes.map (·.id)).eraseDups.filter fun id =>
        ¬ ∃ t ∈ f.triggers, ReflTransGen f.Joined t.id id).map .unreachable := by
  have htriggers : f.reported .triggers = if f.triggers = [] then [.noTrigger] else [] := by
    unfold reported
    simp only [List.isEmpty_iff]
  have hdangling : f.edges.flatMap f.danglingIssues = [] ↔ ¬ ∃ e ∈ f.edges,
      e.source ∉ f.nodes.map (·.id) ∨ e.target ∉ f.nodes.map (·.id) := by
    rw [List.flatMap_eq_nil_iff]
    push Not
    refine forall₂_congr fun e _ => ?_
    rw [danglingIssues_eq]
    simp
  refine ⟨?_, ?_, ?_⟩
  · rw [errorsOf_validate, reported_ids, htriggers]
    exact congrArg (_ ++ List.flatMap · f.edges) (funext f.danglingIssues_eq)
  · rw [errorsOf_validate, ne_eq, List.append_eq_nil_iff, List.append_eq_nil_iff,
      reported_ids_eq_nil, hdangling, htriggers]
    simp only [ite_eq_right_iff, List.cons_ne_nil, imp_false]
    rw [not_and_or, not_and_or, not_not, not_not, or_assoc]
  · rw [filter_validate]
    unfold reported
    simp only [List.isEmpty_iff, unreachableIssues_eq]

/-- A flow in which an id is used twice, one edge lacks an end and another both, and a node is out of
reach. -/
def ruin : Flow :=
  { pingPong with
    id := "ruin"
    nodes := [.trigger "t" "go", .action "a" "A", .action "b" "B", .action "a" "C"]
    edges := [⟨"e1", "t", "a", none, none⟩, ⟨"e2", "a", "x", none, none⟩, ⟨"e3", "y", "y", none, none⟩] }

example : ruin.validate = [.duplicateNodeId "a", .danglingEdge "e2" "x", .danglingEdge "e3" "y",
    .danglingEdge "e3" "y", .unreachable "b"] := by cbv

end Dialogue.Flow
