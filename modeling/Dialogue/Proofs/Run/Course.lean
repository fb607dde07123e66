/-
The course of a walk: for every edge that was followed, in order, what became of it. `Course`
states the rules of a walk one by one, without the agenda's recursion and its measure, and
`follow_course` says that every walk takes a course by these rules. The later results on walks are
inductions on the course.

What a course tells of a walk: `Course.edges_left` (the edges followed are among those given and those
kept on the way, none twice) and `Course.edges_perm` (none is lost either, unless a reply fails),
`Course.records_eq` (its records are those of its passages) and `Course.nodup_runners` (no node runs
twice).
-/
import Dialogue.Proofs.Run.Step
import Dialogue.Run.Walk
import Mathlib.Data.List.Perm.Basic

namespace Dialogue

open Program

/-- The edges that leave an id, in the order of the flow. -/
def Flow.outgoing (f : Flow) (id : String) : List Edge :=
  f.edges.filter (·.source == id)

/-- What became of an edge that was followed. -/
inductive Passage where
  /-- It leads to no node. -/
  | dangling (e : Edge)
  /-- It leads to a node that was met before, and does not wait. -/
  | met (e : Edge) (n : Node)
  /-- The run was parked at the node it leads to. -/
  | parked (e : Edge) (n : Node)
  /-- The node it leads to ran, and these edges were kept there. -/
  | ran (e : Edge) (n : Node) (kept : List Edge)
  /-- A reply of the node it leads to failed. -/
  | broke (e : Edge) (n : Node)
deriving DecidableEq, Repr

namespace Passage

/-- The edge that was followed. -/
def edge : Passage → Edge
  | .dangling e | .met e _ | .parked e _ | .ran e _ _ | .broke e _ => e

/-- The edges that were kept at its end. -/
def kept : Passage → List Edge
  | .ran _ _ kept => kept
  | _ => []

/-- The id of the node that was run and left again, with the edges kept there. -/
def expansion? : Passage → Option (String × List Edge)
  | .ran _ n kept => some (n.id, kept)
  | _ => none

/-- The node that was run, and does not wait, if one was. -/
def runner? : Passage → Option Node
  | .ran _ n _ | .broke _ n => some n
  | _ => none

/-- The record of the handler that ran, if one did. -/
def record? (c : RunContext) : Passage → Option RunRecord
  | .parked _ n => some ⟨n.id, n.type, c.now, c.now, .suspended⟩
  | .ran _ n _ => some ⟨n.id, n.type, c.now, c.now, .continued⟩
  | .broke _ n => some ⟨n.id, n.type, c.now, c.now, .failed⟩
  | _ => none

/-- The warning that was logged of the edge, if one was. -/
def warning? : Passage → Option Warning
  | .dangling e => some (.tolerated (.nodeReference e.id e.target))
  | .met _ n => some (.tolerated (.cycleDetected n.id))
  | _ => none

/-- The id of the node at which the run was parked, if it was. -/
def parkedAt? : Passage → Option String
  | .parked _ n => some n.id
  | _ => none

/-- What the flow holds at the end of the edge, by what became of the edge. -/
def Fits (f : Flow) : Passage → Prop
  | .dangling e => f.node? e.target = none
  | .parked e n => f.node? e.target = some n ∧ n.waits = true
  | .met e n | .ran e n _ | .broke e n => f.node? e.target = some n ∧ n.waits = false

/-- Where an edge leads to a node that waits, the run was parked there. -/
theorem Fits.eq_parked {f : Flow} {j : Passage} (h : j.Fits f) {n : Node}
    (hn : f.node? j.edge.target = some n) (hw : n.waits = true) : ∃ e, j = .parked e n := by
  cases j with
  | dangling e => cases hn.symm.trans h
  | parked e m => cases hn.symm.trans h.1; exact ⟨e, rfl⟩
  | met e m => cases hn.symm.trans h.1; cases hw.symm.trans h.2
  | ran e m k => cases hn.symm.trans h.1; cases hw.symm.trans h.2
  | broke e m => cases hn.symm.trans h.1; cases hw.symm.trans h.2

/-- The node that was run is the one that the edge leads to, and does not wait. -/
theorem Fits.of_runner {f : Flow} {j : Passage} (h : j.Fits f) {n : Node} (hn : j.runner? = some n) :
    f.node? j.edge.target = some n ∧ n.waits = false := by
  cases j with
  | ran e m k => cases hn; exact h
  | broke e m => cases hn; exact h
  | dangling e => cases hn
  | parked e m => cases hn
  | met e m => cases hn

/-- A record is that of the node that the edge leads to. -/
theorem Fits.of_record {f : Flow} {c : RunContext} {j : Passage} (h : j.Fits f) {x : RunRecord}
    (hx : j.record? c = some x) : ∃ n, f.node? j.edge.target = some n ∧ n.id = x.nodeId := by
  cases j with
  | parked e n => cases hx; exact ⟨n, h.1, rfl⟩
  | ran e n k => cases hx; exact ⟨n, h.1, rfl⟩
  | broke e n => cases hx; exact ⟨n, h.1, rfl⟩
  | dangling e => cases hx
  | met e n => cases hx

end Passage

/-- The nodes that were run and left again, by their ids, with the edges kept there. -/
def expansions (js : List Passage) : Table (List Edge) :=
  js.filterMap Passage.expansion?

/-- The nodes that were run, and do not wait. -/
def runners (js : List Passage) : List Node :=
  js.filterMap Passage.runner?

/-- A node that was left again was run. -/
theorem keys_expansions_sublist : ∀ js : List Passage,
    (expansions js).keys.Sublist ((runners js).map (·.id))
  | [] => .slnil
  | .dangling _ :: js | .parked _ _ :: js | .met _ _ :: js => keys_expansions_sublist js
  | .ran _ _ _ :: js => (keys_expansions_sublist js).cons_cons _
  | .broke _ _ :: js => (keys_expansions_sublist js).cons _

/-- A walk that starts with an agenda in a world takes a course and leaves a result and a world. -/
inductive Course (f : Flow) (c : RunContext) (p : Partners) :
    List Edge → Walk → World → List Passage → Option DeliveryError × Walk → World → Prop
  | done (w : Walk) (s : World) : Course f c p [] w s [] (none, w) s
  | dangling {e agenda w s js r s'} : f.node? e.target = none →
      Course f c p agenda w (s.warned (.tolerated (.nodeReference e.id e.target))) js r s' →
      Course f c p (e :: agenda) w s (.dangling e :: js) r s'
  | parked {e agenda w s n js r s'} : f.node? e.target = some n → n.waits = true →
      Course f c p agenda (((w.visit n.id).record c n .suspended).parkedAt n.id)
        ((park ⟨f, .ofFlow f, c⟩ n).run p s).2 js r s' →
      Course f c p (e :: agenda) w s (.parked e n :: js) r s'
  | met {e agenda w s n js r s'} : f.node? e.target = some n → n.waits = false → n.id ∈ w.visited →
      Course f c p agenda w (s.warned (.tolerated (.cycleDetected n.id))) js r s' →
      Course f c p (e :: agenda) w s (.met e n :: js) r s'
  | ran {e agenda w s n k s₁ kept s₂ js r s'} : f.node? e.target = some n → n.waits = false →
      n.id ∉ w.visited → (n.perform c).run p s = (.ok k, s₁) →
      (n.keptEdges c (f.outgoing n.id)).run p s₁ = (kept, s₂) →
      Course f c p (kept ++ agenda) (((w.visit n.id).record c n .continued).count k) s₂ js r s' →
      Course f c p (e :: agenda) w s (.ran e n kept :: js) r s'
  | broke {e agenda w s n err s₁} : f.node? e.target = some n → n.waits = false →
      n.id ∉ w.visited → (n.perform c).run p s = (.error err, s₁) →
      Course f c p (e :: agenda) w s [.broke e n] (some err, (w.visit n.id).record c n .failed) s₁

theorem Flow.id_of_node? {f : Flow} {id : String} {n : Node} (h : f.node? id = some n) : n.id = id := by
  unfold Flow.node? at h
  simpa using List.find?_some h

theorem Flow.mem_of_node? {f : Flow} {id : String} {n : Node} (h : f.node? id = some n) :
    n ∈ f.nodes :=
  List.mem_of_find?_eq_some h

section

variable {f : Flow} {c : RunContext} {p : Partners}

/-! ## Every walk takes a course -/

theorem follow_dangling {e : Edge} (agenda : List Edge) (w : Walk) (hn : f.node? e.target = none) :
    follow ⟨f, .ofFlow f, c⟩ (e :: agenda) w = (do
      tolerate (.nodeReference e.id e.target)
      follow ⟨f, .ofFlow f, c⟩ agenda w) := by
  rw [← NodeIndex.node?_ofFlow] at hn
  rw [follow]
  split
  · rfl
  · rename_i h; rw [hn] at h; cases h

theorem follow_parked {e : Edge} {n : Node} (agenda : List Edge) (w : Walk)
    (hn : f.node? e.target = some n) (hw : n.waits = true) :
    follow ⟨f, .ofFlow f, c⟩ (e :: agenda) w = (do
      park ⟨f, .ofFlow f, c⟩ n
      follow ⟨f, .ofFlow f, c⟩ agenda (((w.visit n.id).record c n .suspended).parkedAt n.id)) := by
  have hid := Flow.id_of_node? hn
  rw [← NodeIndex.node?_ofFlow] at hn
  rw [follow]
  split
  · rename_i h; rw [hn] at h; cases h
  · rename_i h
    cases hn.symm.trans h
    rw [if_pos hw, ← hid]

theorem follow_met {e : Edge} {n : Node} (agenda : List Edge) (w : Walk)
    (hn : f.node? e.target = some n) (hw : n.waits = false) (hv : n.id ∈ w.visited) :
    follow ⟨f, .ofFlow f, c⟩ (e :: agenda) w = (do
      tolerate (.cycleDetected n.id)
      follow ⟨f, .ofFlow f, c⟩ agenda w) := by
  rw [Flow.id_of_node? hn] at hv
  rw [← NodeIndex.node?_ofFlow] at hn
  rw [follow]
  split
  · rename_i h; rw [hn] at h; cases h
  · rename_i h
    cases hn.symm.trans h
    rw [if_neg (by simp [hw]), dif_pos hv]

theorem follow_fresh {e : Edge} {n : Node} (agenda : List Edge) (w : Walk)
    (hn : f.node? e.target = some n) (hw : n.waits = false) (hv : n.id ∉ w.visited) :
    follow ⟨f, .ofFlow f, c⟩ (e :: agenda) w = (do
      match ← n.perform c with
      | .error err => return (some err, (w.visit n.id).record c n .failed)
      | .ok k =>
        let kept ← n.keptEdges c (f.outgoing n.id)
        follow ⟨f, .ofFlow f, c⟩ (kept ++ agenda) (((w.visit n.id).record c n .continued).count k)) := by
  rw [Flow.outgoing, ← NodeIndex.outgoing_ofFlow]
  have hid := Flow.id_of_node? hn
  rw [hid] at hv
  rw [← NodeIndex.node?_ofFlow] at hn
  rw [follow]
  split
  · rename_i h; rw [hn] at h; cases h
  · rename_i h
    cases hn.symm.trans h
    rw [hid]
    exact (if_neg (by simp [hw])).trans (dif_neg hv)

/-- What holds of the end of a walk, and of a walk if it holds of what remains after its first edge,
holds of every walk. -/
theorem follow_induction {P : Program (Option DeliveryError × Walk) → Prop}
    (done : ∀ w, P (pure (none, w)))
    (warned : ∀ err x, P x → P (do tolerate err; x))
    (parked : ∀ n x, P x → P (do park ⟨f, .ofFlow f, c⟩ n; x))
    (ran : ∀ (n : Node) (w : Walk) (next : Nat → List Edge → Program (Option DeliveryError × Walk)),
      (∀ k kept, P (next k kept)) → P (do
        match ← n.perform c with
        | .error err => return (some err, w)
        | .ok k =>
          let kept ← n.keptEdges c (f.outgoing n.id)
          next k kept))
    (agenda : List Edge) (w : Walk) : P (follow ⟨f, .ofFlow f, c⟩ agenda w) := by
  induction agenda, w using follow.induct (c := ⟨f, .ofFlow f, c⟩) with
  | case1 w => rw [follow]; exact done w
  | case2 e agenda w hn ih =>
    rw [NodeIndex.node?_ofFlow] at hn
    rw [follow_dangling agenda w hn]
    exact warned _ _ ih
  | case3 e agenda w n hn hw ih =>
    rw [NodeIndex.node?_ofFlow] at hn
    rw [← Flow.id_of_node? hn] at ih
    rw [follow_parked agenda w hn hw]
    exact parked _ _ ih
  | case4 e agenda w n hn hw hv ih =>
    rw [NodeIndex.node?_ofFlow] at hn
    rw [Bool.not_eq_true] at hw
    rw [← Flow.id_of_node? hn] at hv
    rw [follow_met agenda w hn hw hv]
    exact warned _ _ ih
  | case5 e agenda w n hn hw hv ih =>
    rw [NodeIndex.node?_ofFlow] at hn
    rw [Bool.not_eq_true] at hw
    rw [← Flow.id_of_node? hn] at hv ih
    rw [follow_fresh agenda w hn hw hv]
    exact ran n _ _ ih

/-- Every walk takes a course. -/
theorem follow_course (agenda : List Edge) (w : Walk) (s : World) :
    ∃ js, Course f c p agenda w s js ((follow ⟨f, .ofFlow f, c⟩ agenda w).run p s).1
      ((follow ⟨f, .ofFlow f, c⟩ agenda w).run p s).2 := by
  -- along the recursion of the walk: the edge followed leads nowhere, to a node that waits, to one
  -- met before, or to a fresh one
  induction agenda, w using follow.induct (c := ⟨f, .ofFlow f, c⟩) generalizing s with
  | case1 w =>
    rw [follow]
    exact ⟨[], .done w s⟩
  | case2 e agenda w hn ih =>
    rw [NodeIndex.node?_ofFlow] at hn
    rw [follow_dangling agenda w hn]
    obtain ⟨js, h⟩ := ih (s.warned (.tolerated (.nodeReference e.id e.target)))
    exact ⟨_, .dangling hn h⟩
  | case3 e agenda w n hn hw ih =>
    rw [NodeIndex.node?_ofFlow] at hn
    rw [follow_parked agenda w hn hw, run_bind]
    rw [← Flow.id_of_node? hn] at ih
    obtain ⟨js, h⟩ := ih ((park ⟨f, .ofFlow f, c⟩ n).run p s).2
    exact ⟨_, .parked hn hw h⟩
  | case4 e agenda w n hn hw hv ih =>
    rw [NodeIndex.node?_ofFlow] at hn
    rw [Bool.not_eq_true] at hw
    rw [← Flow.id_of_node? hn] at hv
    rw [follow_met agenda w hn hw hv]
    obtain ⟨js, h⟩ := ih (s.warned (.tolerated (.cycleDetected n.id)))
    exact ⟨_, .met hn hw hv h⟩
  | case5 e agenda w n hn hw hv ih =>
    rw [NodeIndex.node?_ofFlow] at hn
    rw [Bool.not_eq_true] at hw
    rw [← Flow.id_of_node? hn] at hv ih
    rw [follow_fresh agenda w hn hw hv, run_bind]
    rcases hp : (n.perform c).run p s with ⟨err | k, s₁⟩
    · exact ⟨_, .broke hn hw hv hp⟩
    · rcases hk : (n.keptEdges c (f.outgoing n.id)).run p s₁ with ⟨kept, s₂⟩
      simp only [run_bind, hk]
      obtain ⟨js, h⟩ := ih k kept s₂
      exact ⟨_, .ran hn hw hv hp hk h⟩

/-- Parking asks for one write, and warns if that fails. -/
theorem park_asks {P : Request → Prop} {n : Node}
    (write : P (.writeState c.message.tenantId c.message.userId
      ⟨f.id, n.id, c.message.tenantId, c.message.userId, c.now⟩ c.config.suspensionTtl))
    (warned : ∀ e, P (.warn (.tolerated (.cacheWrite e)))) : (park ⟨f, .ofFlow f, c⟩ n).Asks P := by
  unfold park
  refine asks_bind (asks_request write) fun a => ?_
  cases a with
  | ok _ => exact asks_pure _
  | error e => exact asks_warn (warned e)

theorem park_edgeWarnings (n : Node) (s : World) :
    ((park ⟨f, .ofFlow f, c⟩ n).run p s).2.log.edgeWarnings = s.log.edgeWarnings :=
  run_edgeWarnings p (park_asks trivial fun _ => rfl) s

namespace Course

variable {agenda : List Edge} {w : Walk} {s s' : World} {js : List Passage}
  {r : Option DeliveryError × Walk}

/-- A course ends where the walk ends. -/
theorem run_eq (h : Course f c p agenda w s js r s') :
    (follow ⟨f, .ofFlow f, c⟩ agenda w).run p s = (r, s') := by
  induction h with
  | done w s => rw [follow]; rfl
  | dangling hn _ ih => rw [follow_dangling _ _ hn, run_bind]; exact ih
  | parked hn hw _ ih => rw [follow_parked _ _ hn hw, run_bind]; exact ih
  | met hn hw hv _ ih => rw [follow_met _ _ hn hw hv, run_bind]; exact ih
  | ran hn hw hv hp hk _ ih =>
    rw [follow_fresh _ _ hn hw hv, run_bind, hp]
    dsimp only
    rw [run_bind, hk]
    exact ih
  | broke hn hw hv hp =>
    rw [follow_fresh _ _ hn hw hv, run_bind, hp]
    rfl

/-! ## What the passages tell -/

theorem fits (h : Course f c p agenda w s js r s') : ∀ j ∈ js, j.Fits f := by
  induction h with
  | done w s => simp
  | dangling hn _ ih => exact List.forall_mem_cons.2 ⟨hn, ih⟩
  | parked hn hw _ ih => exact List.forall_mem_cons.2 ⟨⟨hn, hw⟩, ih⟩
  | met hn hw _ _ ih => exact List.forall_mem_cons.2 ⟨⟨hn, hw⟩, ih⟩
  | ran hn hw _ _ _ _ ih => exact List.forall_mem_cons.2 ⟨⟨hn, hw⟩, ih⟩
  | broke hn hw _ _ => exact List.forall_mem_singleton.2 ⟨hn, hw⟩

/-- The records of a walk are those of its passages. -/
theorem records_eq (h : Course f c p agenda w s js r s') :
    r.2.records = w.records ++ js.filterMap (·.record? c) := by
  induction h with
  | done w s => simp
  | dangling _ _ ih | met _ _ _ _ ih => exact ih
  | parked _ _ _ ih => rw [ih]; simp [Walk.record, Walk.visit, Walk.parkedAt, Passage.record?]
  | ran _ _ _ _ _ _ ih => rw [ih]; simp [Walk.record, Walk.visit, Walk.count, Passage.record?]
  | broke _ _ _ _ => rfl

/-- The warnings of edges that a walk adds are those of its passages. -/
theorem edgeWarnings_eq (h : Course f c p agenda w s js r s') :
    s'.log.edgeWarnings = s.log.edgeWarnings ++ js.filterMap (·.warning?) := by
  induction h with
  | done w s => exact (List.append_nil _).symm
  | dangling _ _ ih | met _ _ _ _ ih =>
    rw [ih, World.edgeWarnings_warned, List.append_assoc]
    rfl
  | parked _ _ _ ih =>
    rw [ih, park_edgeWarnings]
    rfl
  | @ran e _ _ s n k s₁ _ s₂ _ _ _ _ _ _ hp hk _ ih =>
    have h1 : s₁.log.edgeWarnings = s.log.edgeWarnings := Node.edgeWarnings_of_perform hp
    have h2 : s₂.log.edgeWarnings = s₁.log.edgeWarnings := Node.edgeWarnings_of_keptEdges hk
    rw [ih, h2, h1]
    rfl
  | @broke e _ _ s n err s₁ _ _ _ hp =>
    have h1 : s₁.log.edgeWarnings = s.log.edgeWarnings := Node.edgeWarnings_of_perform hp
    rw [h1]
    exact (List.append_nil _).symm

/-- The edges that a walk follows, with some left over if a reply failed, are those of its agenda and
those it kept on the way, each as often as it was given or kept. -/
theorem edges_left (h : Course f c p agenda w s js r s') : ∃ left : List Edge,
    (js.map (·.edge) ++ left).Perm (agenda ++ js.flatMap (·.kept)) ∧ (r.1 = none → left = []) := by
  induction h with
  | done w s => exact ⟨[], .nil, fun _ => rfl⟩
  | dangling _ _ ih | parked _ _ _ ih | met _ _ _ _ ih =>
    obtain ⟨left, hp, hl⟩ := ih
    exact ⟨left, hp.cons _, hl⟩
  | @ran e agenda _ _ _ _ _ kept _ js _ _ _ _ _ _ _ _ ih =>
    obtain ⟨left, hp, hl⟩ := ih
    -- the walk goes on with the kept edges in front, here they stand behind
    refine ⟨left, (hp.trans ?_).cons e, hl⟩
    calc (kept ++ agenda ++ js.flatMap (·.kept)).Perm (agenda ++ kept ++ js.flatMap (·.kept)) :=
          List.perm_append_comm.append_right _
      _ = agenda ++ (kept ++ js.flatMap (·.kept)) := List.append_assoc ..
  | @broke e agenda _ _ _ _ _ _ _ _ _ =>
    refine ⟨agenda, ?_, fun hr => by cases hr⟩
    exact (List.append_nil (e :: agenda)).symm ▸ .refl _

/-- A walk that no failed reply ends follows the edges of its agenda and those it kept on the way,
each as often as it was given or kept. -/
theorem edges_perm (h : Course f c p agenda w s js r s') (hr : r.1 = none) :
    (js.map (·.edge)).Perm (agenda ++ js.flatMap (·.kept)) := by
  obtain ⟨left, hp, hl⟩ := h.edges_left
  rwa [hl hr, List.append_nil] at hp

/-- What holds of the edges of the agenda, and passes from an edge to those kept at its end, holds
of every edge that is followed. -/
theorem edge_induction (h : Course f c p agenda w s js r s') {P : Edge → Prop}
    (h0 : ∀ e ∈ agenda, P e)
    (hstep : ∀ e n kept, .ran e n kept ∈ js → P e → ∀ e' ∈ kept, P e') : ∀ j ∈ js, P j.edge := by
  induction h with
  | done w s => simp
  | dangling _ _ ih | parked _ _ _ ih | met _ _ _ _ ih =>
    obtain ⟨he, ha⟩ := List.forall_mem_cons.1 h0
    exact List.forall_mem_cons.2 ⟨he, ih ha fun e n k hj => hstep e n k (List.mem_cons_of_mem _ hj)⟩
  | ran _ _ _ _ _ _ ih =>
    obtain ⟨he, ha⟩ := List.forall_mem_cons.1 h0
    have hk := hstep _ _ _ (List.mem_cons_self ..) he
    refine List.forall_mem_cons.2 ⟨he, ih ?_ fun e n k hj => hstep e n k (List.mem_cons_of_mem _ hj)⟩
    exact List.forall_mem_append.2 ⟨hk, ha⟩
  | broke _ _ _ _ => exact List.forall_mem_singleton.2 (h0 _ (List.mem_cons_self ..))

/-- No node is run twice, and none that was met before the walk. -/
theorem nodup_runners (h : Course f c p agenda w s js r s') :
    ((runners js).map (·.id)).Nodup ∧ ∀ id ∈ (runners js).map (·.id), id ∉ w.visited := by
  induction h with
  | done w s => exact ⟨.nil, by simp [runners]⟩
  | dangling _ _ ih | met _ _ _ _ ih => exact ih
  | parked _ _ _ ih => exact ⟨ih.1, fun id hid hv => ih.2 id hid (List.mem_cons_of_mem _ hv)⟩
  | ran _ _ hv _ _ _ ih =>
    refine ⟨List.nodup_cons.2 ⟨fun hm => ih.2 _ hm (List.mem_cons_self ..), ih.1⟩, ?_⟩
    refine List.forall_mem_cons.2 ⟨hv, fun id hid hm => ih.2 id hid (List.mem_cons_of_mem _ hm)⟩
  | broke _ _ hv _ => exact ⟨List.pairwise_singleton _ _, List.forall_mem_singleton.2 hv⟩

/-- No node is run and left twice, and none that was met before the walk. -/
theorem nodup_expanded (h : Course f c p agenda w s js r s') :
    (expansions js).keys.Nodup ∧ ∀ id ∈ (expansions js).keys, id ∉ w.visited := by
  obtain ⟨hd, hv⟩ := h.nodup_runners
  have hsub := keys_expansions_sublist js
  exact ⟨hd.sublist hsub, fun id hid => hv id (hsub.subset hid)⟩

/-- A node that is passed over was met before the walk, or has run earlier in it. -/
theorem met_mem (h : Course f c p agenda w s js r s') {e : Edge} {n : Node} {pre post : List Passage}
    (hj : js = pre ++ .met e n :: post) : n.id ∈ w.visited ∨ n.id ∈ (expansions pre).keys := by
  -- the passage over `n` is the first one, or one of the rest
  induction h generalizing pre with
  | done w s => cases pre <;> cases hj
  | dangling _ _ ih =>
    rcases pre with _ | ⟨j, pre⟩
    · cases hj
    · obtain ⟨rfl, htail⟩ := List.cons.inj hj
      have hpre := ih htail
      exact hpre
  | met _ _ hv _ ih =>
    rcases pre with _ | ⟨j, pre⟩
    · cases hj
      exact .inl hv
    · obtain ⟨rfl, htail⟩ := List.cons.inj hj
      have hpre := ih htail
      exact hpre
  | parked hm hw hrest ih =>
    rcases pre with _ | ⟨j, pre⟩
    · cases hj
    · obtain ⟨rfl, htail⟩ := List.cons.inj hj
      rcases ih htail with hv | hx
      · rcases List.mem_cons.1 hv with hid | hv
        -- the node parked at waits, the node passed over does not, so their ids differ
        · obtain ⟨hn, hnw⟩ := hrest.fits (.met e n) (by rw [htail]; simp)
          rw [← Flow.id_of_node? hn, hid, Flow.id_of_node? hm, hm] at hn
          cases hn
          rw [hw] at hnw
          cases hnw
        · exact .inl hv
      · exact .inr hx
  | ran _ _ _ _ _ _ ih =>
    rcases pre with _ | ⟨j, pre⟩
    · cases hj
    · obtain ⟨rfl, htail⟩ := List.cons.inj hj
      rcases ih htail with hv | hx
      · rcases List.mem_cons.1 hv with hid | hv
        · exact .inr (List.mem_cons.2 (.inl hid))
        · exact .inl hv
      · exact .inr (List.mem_cons_of_mem _ hx)
  | broke _ _ _ _ => rcases pre with _ | ⟨j, _ | ⟨j', pre⟩⟩ <;> cases hj

/-- The edges kept at a node leave it. -/
theorem kept_filter (h : Course f c p agenda w s js r s') :
    ∀ x ∈ expansions js, ∃ q : Edge → Bool, x.2 = (f.outgoing x.1).filter q := by
  induction h with
  | done w s => simp [expansions]
  | dangling _ _ ih | parked _ _ _ ih | met _ _ _ _ ih => exact ih
  | ran _ _ _ _ hk _ ih =>
    refine List.forall_mem_cons.2 ⟨?_, ih⟩
    obtain ⟨q, hq⟩ := Node.keptEdges_eq_filter _ p _ _ _
    exact ⟨q, by rw [← hq, hk]⟩
  | broke _ _ _ _ => simp [expansions, Passage.expansion?]

end Course

end

end Dialogue
