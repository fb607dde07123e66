/-
Which nodes a message reaches. With the edges kept at each node in a turn, a node that does not
wait has a record exactly if a path of kept edges leads to it from the entry over nodes that do not
wait, and a node that waits has as many records as kept edges lead into it from the entry or from
such a node (`receive_reach`).

Soundness follows the edges of the walk's agenda (`Course.edge_induction`). For completeness, the
edges followed are all those kept, each as often (`Course.edges_perm`), and a node passed over has
run before (`Course.met_mem`).
-/
import Dialogue.Proofs.Run.Turn
import Mathlib

namespace Dialogue

/-! ## Paths of kept edges -/

/-- The edges kept at an id. -/
def keptAt (t : Table (List Edge)) (id : String) : List Edge :=
  (t.get? id).getD []

/-- A path of kept edges leads from the entry to an id, and every node inside it is in the flow and
does not wait. -/
inductive Behind (f : Flow) (t : Table (List Edge)) (entry : String) : String → Prop
  | first {e} : e ∈ keptAt t entry → Behind f t entry e.target
  | next {n e} : Behind f t entry n.id → f.node? n.id = some n → n.waits = false →
      e ∈ keptAt t n.id → Behind f t entry e.target

/-- A kept edge that leaves the entry, or a node behind it that does not wait. -/
def Leaves (f : Flow) (t : Table (List Edge)) (entry : String) (e : Edge) : Prop :=
  e ∈ keptAt t e.source ∧ (e.source = entry ∨
    ∃ n, f.node? e.source = some n ∧ n.waits = false ∧ Behind f t entry e.source)

theorem keptAt_cons (k : String) (l : List Edge) (t : Table (List Edge)) (id : String) :
    keptAt ((k, l) :: t) id = if id = k then l else keptAt t id := by
  unfold keptAt
  rw [Table.get?_cons]
  split <;> rfl

theorem keptAt_eq_nil {t : Table (List Edge)} {id : String} (h : id ∉ t.keys) : keptAt t id = [] := by
  unfold keptAt
  cases ht : t.get? id with
  | none => rfl
  | some l => exact absurd (Table.mem_keys_of_get? ht) h

theorem keptAt_of_mem {t : Table (List Edge)} (hd : t.keys.Nodup) {id : String} {l : List Edge}
    (h : (id, l) ∈ t) : keptAt t id = l := by
  unfold keptAt; rw [Table.get?_of_mem hd h]; rfl

theorem mem_of_keptAt {t : Table (List Edge)} {id : String} {e : Edge} (h : e ∈ keptAt t id) :
    (id, keptAt t id) ∈ t := by
  unfold keptAt at h ⊢
  cases ht : t.get? id with
  | none => rw [ht] at h; cases h
  | some l => exact Table.mem_of_get? ht

/-- The edges kept at distinct nodes, taken together, are the edges of the flow that are kept at
their source, each as often as the flow has it. -/
theorem flatMap_kept_perm (es : List Edge) : ∀ t : Table (List Edge), t.keys.Nodup →
    (∀ x ∈ t, ∃ q : Edge → Bool, x.2 = (es.filter (·.source == x.1)).filter q) →
    (t.flatMap (·.2)).Perm (es.filter fun e => decide (e ∈ keptAt t e.source))
  | [], _, _ => by
    have : es.filter (fun e => decide (e ∈ keptAt [] e.source)) = [] :=
      List.filter_eq_nil_iff.2 fun e _ => by simp [keptAt]
    rw [this]
    exact .nil
  | (id, l) :: t, hd, hq => by
    obtain ⟨hid, hd'⟩ := List.nodup_cons.1 hd
    obtain ⟨⟨q, hl⟩, hq'⟩ := List.forall_mem_cons.1 hq
    have ih := flatMap_kept_perm es t hd' hq'
    -- the edges that leave `id` are those of the head, the others those of the rest
    have h1 : (es.filter fun e => decide (e ∈ keptAt ((id, l) :: t) e.source)).filter
        (·.source == id) = l := by
      dsimp only at hl
      conv_rhs => rw [hl, List.filter_filter]
      rw [List.filter_filter]
      refine List.filter_congr fun e he => ?_
      rw [keptAt_cons]
      by_cases hs : e.source = id
      · simp [hs, hl, he]
      · have hb : (e.source == id) = false := beq_eq_false_iff_ne.2 hs
        simp [hb]
    have h2 : (es.filter fun e => decide (e ∈ keptAt ((id, l) :: t) e.source)).filter
        (fun e => !(e.source == id)) = es.filter fun e => decide (e ∈ keptAt t e.source) := by
      rw [List.filter_filter]
      refine List.filter_congr fun e _ => ?_
      rw [keptAt_cons]
      by_cases hs : e.source = id
      · simp [hs, keptAt_eq_nil hid]
      · simp [hs]
    calc (((id, l) :: t).flatMap (·.2))
        = l ++ t.flatMap (·.2) := List.flatMap_cons ..
      _ |>.Perm (l ++ es.filter fun e => decide (e ∈ keptAt t e.source)) := ih.append_left l
      _ |>.Perm (es.filter fun e => decide (e ∈ keptAt ((id, l) :: t) e.source)) := by
          have := List.filter_append_perm (·.source == id)
            (es.filter fun e => decide (e ∈ keptAt ((id, l) :: t) e.source))
          rwa [h1, h2] at this

/-! ## The edges kept in a turn -/

/-- The edges kept in a turn, at the entry and at every node that was run and left again. -/
def selections (entry : Node) (kept : List Edge) (js : List Passage) : Table (List Edge) :=
  (entry.id, kept) :: expansions js

theorem mem_expansions {js : List Passage} {id : String} {l : List Edge}
    (h : (id, l) ∈ expansions js) : ∃ e n, .ran e n l ∈ js ∧ n.id = id := by
  obtain ⟨j, hj, hx⟩ := List.mem_filterMap.1 h
  cases j with
  | ran e n k => cases hx; exact ⟨e, n, hj, rfl⟩
  | dangling e => cases hx
  | parked e n => cases hx
  | met e n => cases hx
  | broke e n => cases hx

/-- The nodes at which edges were chosen in a walk are those with a record that they were left again. -/
theorem keys_expansions (c : RunContext) (js : List Passage) : (expansions js).keys =
    ((js.filterMap (·.record? c)).filter (·.status == .continued)).map (·.nodeId) := by
  induction js with
  | nil => rfl
  | cons j js ih =>
    cases j with
    | ran e n kept => exact congrArg (n.id :: ·) ih
    | dangling e => exact ih
    | met e n => exact ih
    | parked e n => exact ih
    | broke e n => exact ih

theorem flatMap_expansions (js : List Passage) :
    (expansions js).flatMap (·.2) = js.flatMap (·.kept) := by
  induction js with
  | nil => rfl
  | cons j js ih =>
    rw [List.flatMap_cons, ← ih]
    cases j <;> rfl

theorem selections_flatMap (entry : Node) (kept : List Edge) (js : List Passage) :
    (selections entry kept js).flatMap (·.2) = kept ++ js.flatMap (·.kept) := by
  rw [selections, List.flatMap_cons, flatMap_expansions]

namespace Turn

variable {f : Flow} {c : RunContext} {p : Partners} {s s' : World} {resumed : Bool} {entry : Node}
  {kept : List Edge} {js : List Passage} {r : Option DeliveryError × Walk}

theorem nodup_selections (h : Turn f c p s resumed entry kept js r s') :
    (selections entry kept js).keys.Nodup := by
  obtain ⟨w, s₂, hc, hv, -⟩ := h.course
  obtain ⟨hd, hf⟩ := hc.nodup_expanded
  refine List.nodup_cons.2 ⟨fun hm => ?_, hd⟩
  exact hf _ hm (by rw [hv]; exact List.mem_singleton_self _)

theorem selections_filter (h : Turn f c p s resumed entry kept js r s') :
    ∀ x ∈ selections entry kept js, ∃ q : Edge → Bool, x.2 = (f.outgoing x.1).filter q := by
  obtain ⟨w, s₂, hc, -⟩ := h.course
  exact List.forall_mem_cons.2 ⟨h.kept_filter, hc.kept_filter⟩

/-- Every edge that is followed leads behind the entry. -/
theorem behind_of_mem (h : Turn f c p s resumed entry kept js r s') :
    ∀ j ∈ js, Behind f (selections entry kept js) entry.id j.edge.target := by
  obtain ⟨w, s₂, hc, -⟩ := h.course
  refine hc.edge_induction (P := fun e => Behind f (selections entry kept js) entry.id e.target)
    (fun e he => .first ?_) fun e n k hj hb e' he' => ?_
  · rw [selections, keptAt_cons, if_pos rfl]
    exact he
  · obtain ⟨hn, hw⟩ := hc.fits _ hj
    have hid := Flow.id_of_node? hn
    rw [← hid] at hn hb
    refine .next hb hn hw ?_
    rw [keptAt_of_mem h.nodup_selections (l := k)]
    · exact he'
    · exact List.mem_cons_of_mem _ (List.mem_filterMap.2 ⟨_, hj, rfl⟩)

/-- In a turn every kept edge leaves the entry or a node behind it that does not wait. -/
theorem leaves_iff (h : Turn f c p s resumed entry kept js r s') (e : Edge) :
    Leaves f (selections entry kept js) entry.id e ↔
      e ∈ keptAt (selections entry kept js) e.source := by
  refine ⟨fun hl => hl.1, fun he => ⟨he, ?_⟩⟩
  obtain ⟨w, s₂, hc, -⟩ := h.course
  rcases List.mem_cons.1 (mem_of_keptAt he) with hx | hx
  · exact .inl (congrArg Prod.fst hx)
  · obtain ⟨e', n, hj, hid⟩ := mem_expansions hx
    obtain ⟨hn, hw⟩ := hc.fits _ hj
    have hb : Behind f (selections entry kept js) entry.id e'.target := h.behind_of_mem _ hj
    rw [← hid, Flow.id_of_node? hn]
    exact .inr ⟨n, hn, hw, hb⟩

/-- A turn that no failed reply ends follows all the edges it keeps, each as often as it was kept. -/
theorem edges_perm_kept (h : Turn f c p s resumed entry kept js r s') (hr : r.1 = none) :
    (js.map (·.edge)).Perm ((selections entry kept js).flatMap (·.2)) := by
  obtain ⟨w, s₂, hc, -⟩ := h.course
  rw [selections_flatMap]
  exact hc.edges_perm hr

/-- The edges kept in a turn are edges of the flow, each as often as the flow has it. -/
theorem kept_perm (h : Turn f c p s resumed entry kept js r s') :
    ((selections entry kept js).flatMap (·.2)).Perm
      (f.edges.filter fun e => decide (e ∈ keptAt (selections entry kept js) e.source)) :=
  flatMap_kept_perm f.edges _ h.nodup_selections h.selections_filter

/-- A turn that no failed reply ends follows all the edges it keeps, each as often as the flow has
it. -/
theorem edges_perm (h : Turn f c p s resumed entry kept js r s') (hr : r.1 = none) :
    (js.map (·.edge)).Perm
      (f.edges.filter fun e => decide (e ∈ keptAt (selections entry kept js) e.source)) :=
  (h.edges_perm_kept hr).trans h.kept_perm

/-! ## Records and paths -/

/-- The records of a turn: that of the trigger if it ran, and those of the passages. -/
theorem records_eq (h : Turn f c p s resumed entry kept js r s') :
    r.2.records = (if resumed then [] else [⟨entry.id, entry.type, c.now, c.now, .continued⟩]) ++
      js.filterMap (·.record? c) := by
  obtain ⟨w, s₂, hc, -, -, hr⟩ := h.course
  rw [hc.records_eq, hr]

/-- The records of a turn but that of the trigger are those of the passages. -/
theorem own_records (h : Turn f c p s resumed entry kept js r s') :
    (if resumed then r.2.records else r.2.records.tail) = js.filterMap (·.record? c) := by
  rw [h.records_eq]
  cases resumed <;> rfl

/-- A record is that of the node at the end of the edge that was followed. -/
theorem target_of_record (h : Turn f c p s resumed entry kept js r s') {j : Passage} (hj : j ∈ js)
    {x : RunRecord} (hx : j.record? c = some x) : j.edge.target = x.nodeId := by
  obtain ⟨w, s₂, hc, -⟩ := h.course
  obtain ⟨n, hn, hid⟩ := (hc.fits j hj).of_record hx
  rw [← hid, Flow.id_of_node? hn]

/-- Only nodes behind the entry have a record from a passage. -/
theorem behind_of_record (h : Turn f c p s resumed entry kept js r s') :
    ∀ x ∈ js.filterMap (·.record? c), Behind f (selections entry kept js) entry.id x.nodeId := by
  intro x hx
  obtain ⟨j, hj, hx⟩ := List.mem_filterMap.1 hx
  rw [← h.target_of_record hj hx]
  exact h.behind_of_mem j hj

/-- A node that ran and was left again had its edges chosen. -/
theorem mem_keys_of_continued (h : Turn f c p s resumed entry kept js r s') {x : RunRecord}
    (hx : x ∈ r.2.records) (hs : x.status = .continued) :
    x.nodeId ∈ (selections entry kept js).keys := by
  rw [h.records_eq] at hx
  rcases List.mem_append.1 hx with hx | hx
  · split at hx
    · cases hx
    · cases List.mem_singleton.1 hx
      exact List.mem_cons_self ..
  · have hkey : x.nodeId ∈ (expansions js).keys := by
      rw [keys_expansions c]
      exact List.mem_map_of_mem (List.mem_filter.2 ⟨hx, by simp [hs]⟩)
    exact List.mem_cons_of_mem _ hkey

/-- A kept edge is followed. -/
theorem exists_passage (h : Turn f c p s resumed entry kept js r s') (hr : r.1 = none) {e : Edge}
    {id : String} (he : e ∈ keptAt (selections entry kept js) id) : ∃ j ∈ js, j.edge = e := by
  have hmem : e ∈ (selections entry kept js).flatMap (·.2) :=
    List.mem_flatMap.2 ⟨_, mem_of_keptAt he, he⟩
  exact List.mem_map.1 ((h.edges_perm_kept hr).mem_iff.2 hmem)

/-- A node behind the entry, other than the entry, that does not wait has run. -/
theorem record_of_behind (h : Turn f c p s resumed entry kept js r s') (hr : r.1 = none)
    {id : String} {n : Node} (hn : f.node? id = some n) (hw : n.waits = false) (hid : id ≠ entry.id)
    (hb : Behind f (selections entry kept js) entry.id id) :
    ∃ x ∈ js.filterMap (·.record? c), x.nodeId = id := by
  -- some kept edge leads to it, and was followed
  have hj : ∃ j ∈ js, j.edge.target = id := by
    cases hb with
    | first he => obtain ⟨j, hj, rfl⟩ := h.exists_passage hr he; exact ⟨j, hj, rfl⟩
    | next _ _ _ he => obtain ⟨j, hj, rfl⟩ := h.exists_passage hr he; exact ⟨j, hj, rfl⟩
  obtain ⟨j, hj, rfl⟩ := hj
  obtain ⟨w, s₂, hc, hv, -⟩ := h.course
  have hfit := hc.fits j hj
  cases j with
  | dangling e => cases hn.symm.trans hfit
  | parked e m =>
    obtain ⟨hm, hmw⟩ := hfit
    cases hm.symm.trans hn
    rw [hmw] at hw
    cases hw
  | ran e m k => exact ⟨_, List.mem_filterMap.2 ⟨_, hj, rfl⟩, Flow.id_of_node? hfit.1⟩
  | broke e m => exact ⟨_, List.mem_filterMap.2 ⟨_, hj, rfl⟩, Flow.id_of_node? hfit.1⟩
  | met e m =>
    -- passed over, so met before: it is the entry, or it ran earlier in the walk
    have hmid := Flow.id_of_node? hfit.1
    obtain ⟨pre, post, rfl⟩ := List.append_of_mem hj
    rcases hc.met_mem rfl with hm | hm
    · rw [hv, List.mem_singleton, hmid] at hm
      exact absurd hm hid
    · rw [keys_expansions c] at hm
      obtain ⟨x, hx, hxid⟩ := List.mem_map.1 hm
      refine ⟨x, ?_, hxid.trans hmid⟩
      rw [List.filterMap_append]
      exact List.mem_append_left _ (List.mem_filter.1 hx).1

/-- A node that waits is parked at once for every kept edge that leads to it. -/
theorem count_parked (h : Turn f c p s resumed entry kept js r s') {id : String} {n : Node}
    (hn : f.node? id = some n) (hw : n.waits = true) :
    r.2.records.countP (fun x => x.nodeId == id && x.status == .suspended) =
      (js.map (·.edge)).countP (·.target == id) := by
  obtain ⟨w, s₂, hc, -⟩ := h.course
  have h0 : (if resumed then [] else [(⟨entry.id, entry.type, c.now, c.now, .continued⟩ :
      RunRecord)]).countP (fun x => x.nodeId == id && x.status == .suspended) = 0 := by
    cases resumed
    · simp
    · rfl
  rw [h.records_eq, List.countP_append, h0, Nat.zero_add, List.countP_filterMap, List.countP_map]
  refine List.countP_congr fun j hj => ?_
  by_cases ht : j.edge.target = id
  · obtain ⟨e, rfl⟩ := (hc.fits j hj).eq_parked (ht ▸ hn) hw
    have hid : n.id = id := (Flow.id_of_node? (hc.fits _ hj).1).trans ht
    simp [Passage.record?, ht, hid]
  · cases hx : j.record? c with
    | none => simp [ht]
    | some x => simp [ht, ← h.target_of_record hj hx]

end Turn

open Classical in
/-- A message that a flow engages on, and that no failed reply ends, reaches exactly what paths of
kept edges lead to. Edges were chosen at every node that ran. A node of the flow that does not wait,
other than the entry, has a record exactly if it is behind the entry; a node that waits has as many
records as kept edges lead into it from the entry or from a node behind it that does not wait; and
nothing else has a record, but the trigger that started the run. -/
theorem receive_reach {f : Flow} {c : RunContext} {p : Partners} {s s' : World} {rep : Report}
    (h : (f.receive c).run p s = (rep, s')) (he : rep.outcome ≠ .notEngaged)
    (hf : ∀ reason, rep.outcome ≠ .failed reason) :
    ∃ entry kept js r s₁, Turn f c p s rep.resumed entry kept js r s₁ ∧
      r.2.report f rep.resumed r.1 = rep ∧
      (∀ x ∈ rep.records, x.status = .continued → x.nodeId ∈ (selections entry kept js).keys) ∧
      (∀ id n, f.node? id = some n → n.waits = false → id ≠ entry.id →
        ((∃ x ∈ rep.records, x.nodeId = id) ↔ Behind f (selections entry kept js) entry.id id)) ∧
      (∀ id n, f.node? id = some n → n.waits = true →
        rep.records.countP (fun x => x.nodeId == id && x.status == .suspended) =
          f.edges.countP fun e =>
            e.target == id && decide (Leaves f (selections entry kept js) entry.id e)) ∧
      ∀ x ∈ (if rep.resumed then rep.records else rep.records.tail),
        Behind f (selections entry kept js) entry.id x.nodeId := by
  rcases receive_cases f c p s with ⟨s₁, -, -, hrun⟩ | ⟨resumed, entry, kept, js, r, s₁, ht, hrun⟩
  · cases hrun.symm.trans h
    exact absurd rfl he
  · cases hrun.symm.trans h
    have hr : r.1 = none := Walk.failure_eq_none hf
    have hrec : (r.2.report f resumed r.1).records = r.2.records := rfl
    refine ⟨entry, kept, js, r, s₁, ht, rfl, fun x hx => ht.mem_keys_of_continued hx,
      fun id n hn hw hid => ?_, fun id n hn hw => ?_, ?_⟩
    · rw [hrec, ht.records_eq]
      constructor
      · rintro ⟨x, hx, rfl⟩
        rcases List.mem_append.1 hx with hx | hx
        · split at hx
          · cases hx
          · cases List.mem_singleton.1 hx
            exact absurd rfl hid
        · exact ht.behind_of_record x hx
      · intro hb
        obtain ⟨x, hx, rfl⟩ := ht.record_of_behind hr hn hw hid hb
        exact ⟨x, List.mem_append_right _ hx, rfl⟩
    · rw [hrec, ht.count_parked hn hw, (ht.edges_perm hr).countP_eq, List.countP_filter]
      refine List.countP_congr fun e _ => ?_
      simp [ht.leaves_iff]
    · show ∀ x ∈ (if resumed then r.2.records else r.2.records.tail), _
      rw [ht.own_records]
      exact ht.behind_of_record

/-- A flow with a loop, in which two branches come to the node that waits. -/
def survey : Flow where
  id := "survey"
  name := "Survey"
  tenantId := "t1"
  nodes := [.trigger "t" "go", .action "a" "A", .waitForInput "w", .action "b" "B"]
  edges := [⟨"e1", "t", "a", none, none⟩, ⟨"e2", "a", "w", none, none⟩, ⟨"e3", "t", "w", none, none⟩,
    ⟨"e4", "w", "b", none, none⟩, ⟨"e5", "a", "a", none, none⟩]
  createdAt := .epoch
  updatedAt := .epoch

/-- A sender says the keyword of `survey`. -/
def sayGo : RunContext :=
  ⟨⟨"go", ⟨"u1", []⟩, "t1", none⟩, {}, false, .epoch⟩

/-- Every reply is delivered, and there are no services. -/
def attentive : Partners := ⟨fun _ _ => .ok (), none⟩

open Classical in
/-- In `survey` the greeting comes to `a`, and to `w` over both of its edges. -/
theorem survey_reach : ∃ entry kept js r s₁,
    Turn survey sayGo attentive { store := {} } false entry kept js r s₁ ∧
      Behind survey (selections entry kept js) entry.id "a" ∧
      (survey.edges.countP fun e =>
        e.target == "w" && decide (Leaves survey (selections entry kept js) entry.id e)) = 2 := by
  obtain ⟨rep, s', hrun⟩ : ∃ rep s',
      (survey.receive sayGo).run attentive { store := {} } = (rep, s') := ⟨_, _, rfl⟩
  have ho : rep.outcome = .suspended "w" := (congrArg (·.1.outcome) hrun).symm.trans (by cbv)
  have hrs : rep.resumed = false := (congrArg (·.1.resumed) hrun).symm.trans (by cbv)
  have hv : rep.visited = ["t", "a", "w", "w"] := (congrArg (·.1.visited) hrun).symm.trans (by cbv)
  have hw : rep.records.countP (fun x => x.nodeId == "w" && x.status == .suspended) = 2 :=
    (congrArg (·.1.records.countP fun x => x.nodeId == "w" && x.status == .suspended) hrun).symm.trans
      (by cbv)
  obtain ⟨entry, kept, js, r, s₁, ht, -, -, hreach, hcount, -⟩ :=
    receive_reach hrun (by rw [ho]; simp) (by rw [ho]; simp)
  rw [hrs] at ht
  have hentry : entry = .trigger "t" "go" := by
    cases ht with
    | started _ htr _ _ => exact (Option.some.inj (htr.symm.trans (by cbv)))
  refine ⟨entry, kept, js, r, s₁, ht, ?_, ?_⟩
  · refine (hreach "a" (.action "a" "A") (by cbv) (by cbv) (by rw [hentry]; decide)).1 ?_
    have ha : "a" ∈ rep.visited := by rw [hv]; decide
    exact List.mem_map.1 ha
  · exact (hcount "w" (.waitForInput "w") (by cbv) (by cbv)).symm.trans hw

end Dialogue
