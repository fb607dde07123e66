/-
The books of a message. An edge that is kept is followed, and comes to one of three ends: a record of
the node it leads to, a warning that it leads to none, or a warning that its node was met before. So the
edges kept in a turn number the records and the warnings taken together (`receive_balance`).

The passages of a walk carry the balance: each has a record or a warning and never both
(`length_passages`), and of a node that an edge leads to there is a warning just if it was met on
account of an edge followed earlier (`Turn.warning_eq`).
-/
import Dialogue.Proofs.Run.Entry
import Dialogue.Proofs.Run.Reach

namespace Dialogue

/-- Whether it is the warning of an edge that leads to no node. -/
def Warning.isReference : Warning → Bool
  | .tolerated (.nodeReference _ _) => true
  | _ => false

/-- Whether it is the warning of a node that was met before. -/
def Warning.isCycle : Warning → Bool
  | .tolerated (.cycleDetected _) => true
  | _ => false

/-- The books of a turn: the edges kept in it against the records of its passages, and the warnings. -/
structure Balanced (f : Flow) (entry : Node) (kept : List Edge) (js : List Passage)
    (own : List RunRecord) (warnings : List Warning) : Prop where
  /-- Edges are kept at the entry and at the nodes with a record that they were left again. -/
  sources : (selections entry kept js).keys =
    entry.id :: (own.filter (·.status == .continued)).map (·.nodeId)
  /-- Every edge kept is followed, as often as it is kept. -/
  followed : (js.map (·.edge)).Perm ((selections entry kept js).flatMap (·.2))
  total : ((selections entry kept js).flatMap (·.2)).length =
    own.length + warnings.countP (·.isReference) + warnings.countP (·.isCycle)
  logged : warnings = js.filterMap (·.warning?)
  /-- An edge is warned of as often as it is kept if it leads to no node, and never if it does. -/
  dangling : ∀ id target, warnings.count (.tolerated (.nodeReference id target)) =
    ((selections entry kept js).flatMap (·.2)).countP fun e =>
      e.id == id && e.target == target && (f.node? target).isNone
  /-- Of a node that an edge leads to there is a warning just if it does not wait and is the entry or
  was run on account of an edge followed earlier. -/
  met : ∀ pre j post n, js = pre ++ j :: post → f.node? j.edge.target = some n →
    j.warning? = if n.waits = false ∧ (n.id = entry.id ∨ n.id ∈ (expansions pre).keys)
      then some (.tolerated (.cycleDetected n.id)) else none

section

variable {f : Flow} {c : RunContext} {p : Partners} {s s' : World}

theorem length_passages (c : RunContext) (js : List Passage) :
    js.length = (js.filterMap (·.record? c)).length +
      (js.filterMap (·.warning?)).countP (·.isReference) +
      (js.filterMap (·.warning?)).countP (·.isCycle) := by
  induction js with
  | nil => rfl
  | cons j js ih =>
    rw [List.length_cons, ih]
    cases j <;> simp [Passage.record?, Passage.warning?, Warning.isReference, Warning.isCycle] <;> omega

theorem Passage.Fits.warning_reference {j : Passage} (h : j.Fits f) (id target : String) :
    j.warning? = some (.tolerated (.nodeReference id target)) ↔
      j.edge.id = id ∧ j.edge.target = target ∧ f.node? target = none := by
  cases j with
  | dangling e =>
    constructor
    · intro hw
      cases hw
      exact ⟨rfl, rfl, h⟩
    · rintro ⟨rfl, rfl, -⟩
      rfl
  | met e n | parked e n | ran e n k | broke e n =>
    constructor
    · intro hw
      cases hw
    · rintro ⟨-, rfl, hnone⟩
      cases hnone.symm.trans h.1

namespace Turn

variable {resumed : Bool} {entry : Node} {kept : List Edge} {js : List Passage}
  {r : Option DeliveryError × Walk}

/-- What is warned of a node that an edge leads to depends on the edges followed before. -/
theorem warning_eq (h : Turn f c p s resumed entry kept js r s') {pre post : List Passage}
    {j : Passage} {n : Node} (hj : js = pre ++ j :: post) (hn : f.node? j.edge.target = some n) :
    j.warning? = if n.waits = false ∧ (n.id = entry.id ∨ n.id ∈ (expansions pre).keys)
      then some (.tolerated (.cycleDetected n.id)) else none := by
  obtain ⟨w, s₂, hc, hv, -⟩ := h.course
  have hfit := hc.fits j (by rw [hj]; simp)
  -- a node that is run was not met before, as no node is run twice
  have hfresh : j.runner? = some n → ¬ (n.id = entry.id ∨ n.id ∈ (expansions pre).keys) := by
    intro hrun
    obtain ⟨hd, hvisited⟩ := hc.nodup_runners
    have hrunners : runners js = runners pre ++ n :: runners post := by
      rw [hj]
      simp [runners, List.filterMap_append, hrun]
    rw [hrunners, List.map_append, List.map_cons] at hd hvisited
    rintro (hid | hid)
    · exact hvisited n.id (by simp) (by rw [hv, hid]; simp)
    · have hpre := (keys_expansions_sublist pre).subset hid
      exact (List.nodup_append.1 hd).2.2 _ hpre _ (List.mem_cons_self ..) rfl
  cases j with
  | dangling e => cases hn.symm.trans hfit
  | parked e m =>
    cases hn.symm.trans hfit.1
    rw [if_neg (by simp [hfit.2])]
    rfl
  | met e m =>
    cases hn.symm.trans hfit.1
    have hmet := hc.met_mem hj
    rw [hv, List.mem_singleton] at hmet
    rw [if_pos ⟨hfit.2, hmet⟩]
    rfl
  | ran e m k =>
    cases hn.symm.trans hfit.1
    rw [if_neg fun hm => hfresh rfl hm.2]
    rfl
  | broke e m =>
    cases hn.symm.trans hfit.1
    rw [if_neg fun hm => hfresh rfl hm.2]
    rfl

/-- The books of a turn that no failed reply ends balance. -/
theorem balanced (h : Turn f c p s resumed entry kept js r s') (hr : r.1 = none) :
    Balanced f entry kept js (js.filterMap (·.record? c)) (js.filterMap (·.warning?)) where
  sources := congrArg (entry.id :: ·) (keys_expansions c js)
  followed := h.edges_perm_kept hr
  total := by
    rw [← length_passages, ← (h.edges_perm_kept hr).length_eq, List.length_map]
  logged := rfl
  dangling id target := by
    obtain ⟨w, s₂, hc, -⟩ := h.course
    rw [← (h.edges_perm_kept hr).countP_eq, List.countP_map, List.count, List.countP_filterMap]
    refine List.countP_congr fun j hj => ?_
    have hiff := (hc.fits j hj).warning_reference id target
    cases hw : j.warning? with
    | none => simpa [hw, and_assoc] using hiff
    | some x => simpa [hw, and_assoc] using hiff
  met pre j post n hj hn := h.warning_eq hj hn

end Turn

end

/-- No edge is lost and none counted twice. Where no failed reply ends the run, the edges kept at the
entry and at every node with a record that it was left again number the records, that of the trigger
aside, together with the warnings of edges that lead to no node and of nodes met before. A flow that
does not engage has kept no edge, and has no records and no warnings of edges. -/
theorem receive_balance {f : Flow} {c : RunContext} {p : Partners} {s s' : World} {rep : Report}
    (h : (f.receive c).run p s = (rep, s')) (hf : ∀ reason, rep.outcome ≠ .failed reason) :
    rep.outcome = .notEngaged ∧ rep.records = [] ∧ s'.log.edgeWarnings = s.log.edgeWarnings ∨
    ∃ entry kept js r s₁, Turn f c p s rep.resumed entry kept js r s₁ ∧
      r.2.report f rep.resumed r.1 = rep ∧
      ∃ warnings, s'.log.edgeWarnings = s.log.edgeWarnings ++ warnings ∧
        Balanced f entry kept js (if rep.resumed then rep.records else rep.records.tail) warnings := by
  rcases receive_cases f c p s with ⟨s₁, hr, -, hrun⟩ | ⟨resumed, entry, kept, js, r, s₁, ht, hrun⟩
  · cases hrun.symm.trans h
    left
    refine ⟨rfl, rfl, ?_⟩
    have hlog := resumption_edgeWarnings (f := f) (c := c) (p := p) s
    rwa [hr] at hlog
  · cases hrun.symm.trans h
    right
    refine ⟨entry, kept, js, r, s₁, ht, rfl, js.filterMap (·.warning?), ?_, ?_⟩
    · rw [World.closed_edgeWarnings]
      exact ht.edgeWarnings_eq
    · show Balanced f entry kept js (if resumed then r.2.records else r.2.records.tail) _
      rw [ht.own_records]
      exact ht.balanced (Walk.failure_eq_none hf)

/-- `survey` with an edge from `a` that leads to no node, before the others. -/
def frayed : Flow :=
  { survey with edges := ⟨"e0", "a", "gone", none, none⟩ :: survey.edges }

/-- In `frayed` five edges are kept, three at `a` and two at the trigger: they make for the three
records of `a` and `w`, and for a warning each of the edge to no node and of the loop at `a`. -/
theorem frayed_balance : ∃ entry kept js r s₁,
    Turn frayed sayGo attentive { store := {} } false entry kept js r s₁ ∧
      js.filterMap (·.warning?) =
        [.tolerated (.nodeReference "e0" "gone"), .tolerated (.cycleDetected "a")] ∧
      ((selections entry kept js).flatMap (·.2)).length = 3 + 1 + 1 := by
  obtain ⟨rep, s', hrun⟩ : ∃ rep s',
      (frayed.receive sayGo).run attentive { store := {} } = (rep, s') := ⟨_, _, rfl⟩
  have ho : rep.outcome = .suspended "w" := (congrArg (·.1.outcome) hrun).symm.trans (by cbv)
  have hrs : rep.resumed = false := (congrArg (·.1.resumed) hrun).symm.trans (by cbv)
  have hown : rep.records.tail.length = 3 :=
    (congrArg (·.1.records.tail.length) hrun).symm.trans (by cbv)
  have hlog : s'.log.edgeWarnings =
      [.tolerated (.nodeReference "e0" "gone"), .tolerated (.cycleDetected "a")] :=
    (congrArg (·.2.log.edgeWarnings) hrun).symm.trans (by cbv)
  obtain ⟨hne, -⟩ | ⟨entry, kept, js, r, s₁, ht, -, warnings, hw, hb⟩ :=
    receive_balance hrun (by rw [ho]; simp)
  · rw [ho] at hne
    cases hne
  have hwarnings := hw.symm.trans hlog
  rw [hrs] at ht hb
  refine ⟨entry, kept, js, r, s₁, ht, hb.logged.symm.trans hwarnings, ?_⟩
  rw [hb.total, show warnings = _ from hwarnings]
  exact congrArg (· + 1 + 1) hown

end Dialogue
