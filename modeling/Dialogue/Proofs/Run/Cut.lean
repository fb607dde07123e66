/-
A reply that fails. Where the first texts are delivered and all later ones fail, a run goes the way
of the run in which nothing fails until a text is too many; there it ends at once, with the record of
the node that had this text to send (`Course.cut`). So its records are the beginning of those of the
other run up to that node, it was seen to do what these records tell, and of the suspensions it
leaves the one that they tell of (`receive_cut`).
-/
import Dialogue.Proofs.Run.Reach
import Dialogue.Proofs.Run.Told

namespace Dialogue

open Program

/-! ## Partners -/

/-- Every text is delivered. -/
def steady (a : Option Assistant) : Partners where
  deliver _ _ := .ok ()
  assistant := a

/-- The first `n` texts are delivered, and no later one. -/
def limited (n : Nat) (refusal : List String → String → DeliveryError) (a : Option Assistant) :
    Partners where
  deliver earlier text := if earlier.length < n then .ok () else .error (refusal earlier text)
  assistant := a

theorem World.answer_sent (p : Partners) (s : World) (r : Request) :
    s.log.sent <+: (s.answer p r).2.log.sent := by
  cases r with
  | readState t u => exact List.prefix_refl _
  | writeState t u st ttl => exact List.prefix_refl _
  | dropState t u => exact List.prefix_refl _
  | send text =>
    simp only [answer]
    cases p.deliver s.log.sent text
    · exact List.prefix_refl _
    · exact List.prefix_append _ _
  | classify prompt => simp only [answer]; cases p.assistant <;> exact List.prefix_refl _
  | respond call => simp only [answer]; cases p.assistant <;> exact List.prefix_refl _
  | warn w => exact List.prefix_refl _

/-- What is sent is not taken back. -/
theorem Program.run_sent {α : Type} (p : Partners) (x : Program α) (s : World) :
    s.log.sent <+: (x.run p s).2.log.sent :=
  run_relates (R := fun s t => s.log.sent <+: t.log.sent) (fun _ => List.prefix_refl _)
    (fun _ _ _ => .trans) (fun s r _ => World.answer_sent p s r) x.asks_any s

section

variable {n : Nat} {refusal : List String → String → DeliveryError} {a : Option Assistant}

theorem World.answer_limited {s : World} {r : Request}
    (h : (s.answer (steady a) r).2.log.sent.length ≤ n) :
    s.answer (limited n refusal a) r = s.answer (steady a) r := by
  cases r with
  | send text =>
    have hlt : s.log.sent.length < n := by
      have hsent : (s.answer (steady a) (.send text)).2.log.sent = s.log.sent ++ [text] := rfl
      rw [hsent, List.length_append] at h
      exact h
    simp only [answer, limited, if_pos hlt, steady]
  | readState t u => rfl
  | writeState t u st ttl => rfl
  | dropState t u => rfl
  | classify prompt => rfl
  | respond call => rfl
  | warn w => rfl

/-- A program that does not come to a text too many does not tell the two apart. -/
theorem Program.run_limited {α : Type} (x : Program α) {s : World}
    (h : (x.run (steady a) s).2.log.sent.length ≤ n) :
    x.run (limited n refusal a) s = x.run (steady a) s := by
  induction x generalizing s with
  | done b => rfl
  | ask r next ih =>
    rw [run_ask] at h
    have hle := (run_sent (steady a) (next (s.answer (steady a) r).1) (s.answer (steady a) r).2).length_le
    rw [run_ask, run_ask, World.answer_limited (Nat.le_trans hle h)]
    exact ih _ h

/-! ## The walk up to the text -/

variable {f : Flow} {c : RunContext} {s s' : World}

theorem Course.sent_prefix {p : Partners} {agenda : List Edge} {w : Walk} {js : List Passage}
    {r : Option DeliveryError × Walk} (h : Course f c p agenda w s js r s') :
    s.log.sent <+: s'.log.sent := by
  have hrun := run_sent p (follow ⟨f, .ofFlow f, c⟩ agenda w) s
  rw [h.run_eq] at hrun
  exact hrun

/-- A node that brings the texts to more than `n` has text `n + 1` to send, which is refused. -/
theorem perform_refused (refusal : List String → String → DeliveryError) {nd : Node} {k : Nat} {s₁ : World}
    (h : (nd.perform c).run (steady a) s = (.ok k, s₁)) (hs : s.log.sent.length ≤ n)
    (hlt : n < s₁.log.sent.length) : ∃ m s₂, s.log.sent.length = n ∧
      s₁.log.sent = s.log.sent ++ [m] ∧ s₂.log.sent = s.log.sent ∧
      (nd.perform c).run (limited n refusal a) s = (.error (refusal s.log.sent m), s₂) := by
  obtain ⟨-, -, h1⟩ := perform_ok h
  have hsent := Log.sent_of_add h1
  cases htext : nd.text? c (c.assistant? (steady a)) s.log.calls with
  | none =>
    rw [htext, Option.toList_none, List.append_nil] at hsent
    rw [hsent] at hlt
    omega
  | some m =>
    rw [htext] at hsent
    have hlen : s₁.log.sent.length = s.log.sent.length + 1 := by rw [hsent]; simp
    have hn : s.log.sent.length = n := by omega
    have hdeliver : (limited n refusal a).deliver s.log.sent m = .error (refusal s.log.sent m) :=
      if_neg (by omega)
    rcases hr : (nd.perform c).run (limited n refusal a) s with ⟨err | k', s₂⟩
    · obtain ⟨m', htext', herr, h2⟩ := perform_error hr
      cases htext.symm.trans htext'
      cases hdeliver.symm.trans herr
      exact ⟨m, s₂, hn, hsent, Log.sent_of_add_none h2, rfl⟩
    · obtain ⟨-, hok, -⟩ := perform_ok hr
      cases hdeliver.symm.trans (hok m htext)

/-- A walk in which nothing fails and more than `n` texts are sent, and the walk in which text
`n + 1` is refused: up to the node with this text they take the same course. -/
theorem Course.cut {agenda : List Edge} {w : Walk} {js : List Passage}
    {r : Option DeliveryError × Walk} (h : Course f c (steady a) agenda w s js r s')
    (refusal : List String → String → DeliveryError) (hs : s.log.sent.length ≤ n)
    (hlt : n < s'.log.sent.length) :
    ∃ js₁ e nd kept js₂ m w₁ s₁, js = js₁ ++ .ran e nd kept :: js₂ ∧
      Course f c (limited n refusal a) agenda w s (js₁ ++ [.broke e nd])
        (some (refusal s₁.log.sent m), w₁) s₁ ∧
      s₁.log.sent.length = n ∧ s₁.log.sent ++ [m] <+: s'.log.sent ∧
      (s.log.muted.tellAll f c (c.assistant? (steady a))
        ((js₁ ++ [.ran e nd kept]).filterMap (·.record? c))).sent = s₁.log.sent ++ [m] := by
  induction h with
  | done w s => omega
  | @dangling e agenda w s js r s' hn _ ih =>
    obtain ⟨js₁, e', nd, kept, js₂, m, w₁, s₁, rfl, hc, hlen, hpre, htold⟩ := ih hs hlt
    exact ⟨.dangling e :: js₁, e', nd, kept, js₂, m, w₁, s₁, rfl, .dangling hn hc, hlen, hpre, htold⟩
  | @met e agenda w s n js r s' hn hw hv _ ih =>
    obtain ⟨js₁, e', nd, kept, js₂, m, w₁, s₁, rfl, hc, hlen, hpre, htold⟩ := ih hs hlt
    exact ⟨.met e n :: js₁, e', nd, kept, js₂, m, w₁, s₁, rfl, .met hn hw hv hc, hlen, hpre, htold⟩
  | @parked e agenda w s nw js r s' hn hw _ ih =>
    have hpark := park_muted (f := f) (c := c) (p := steady a) nw s
    have hsent := Log.sent_of_muted hpark
    have hsame : (park ⟨f, .ofFlow f, c⟩ nw).run (limited n refusal a) s =
        (park ⟨f, .ofFlow f, c⟩ nw).run (steady a) s := run_limited _ (by rw [hsent]; exact hs)
    obtain ⟨js₁, e', nd, kept, js₂, m, w₁, s₁, rfl, hc, hlen, hpre, htold⟩ :=
      ih (by rw [hsent]; exact hs) hlt
    refine ⟨.parked e nw :: js₁, e', nd, kept, js₂, m, w₁, s₁, rfl, .parked hn hw ?_, hlen, hpre, ?_⟩
    · rw [hsame]; exact hc
    · rw [hpark] at htold
      rw [← htold]
      exact congrArg (fun l => (Log.tellAll f c _ l _).sent) (Log.tell_waits (Flow.node?_id hn) hw)
  | @ran e agenda w s nd k s₁ kept s₂ js r s' hn hw hv hp hk hrest ih =>
    have htold := ran_told (Flow.node?_id hn) hp hk
    have hkept := keptEdges_told (c := c) (p := steady a) nd (f.outgoing nd.id) s₁
    rw [hk] at hkept
    have hsent₂ : s₂.log.sent = s₁.log.sent := Log.sent_of_add_none hkept
    by_cases hle : s₁.log.sent.length ≤ n
    · -- the node has no text, or one of the first `n`: it does the same in both walks
      have hp' : (nd.perform c).run (limited n refusal a) s = (.ok k, s₁) := by
        rw [run_limited _ (by rw [hp]; exact hle), hp]
      have hk' : (nd.keptEdges c (f.outgoing nd.id)).run (limited n refusal a) s₁ = (kept, s₂) := by
        rw [run_limited _ (by rw [hk, hsent₂]; exact hle), hk]
      obtain ⟨js₁, e', nd', kept', js₂, m, w₁, s₃, rfl, hc, hlen, hpre, htold'⟩ :=
        ih (by rw [hsent₂]; exact hle) hlt
      refine ⟨.ran e nd kept :: js₁, e', nd', kept', js₂, m, w₁, s₃, rfl,
        .ran hn hw hv hp' hk' hc, hlen, hpre, ?_⟩
      rw [htold] at htold'
      exact htold'
    · obtain ⟨m, s₃, hlen, hsent, hsent₃, hp'⟩ :=
        perform_refused refusal hp hs (Nat.lt_of_not_le hle)
      refine ⟨[], e, nd, kept, js, m, (w.visit nd.id).record c nd .failed, s₃, rfl, ?_,
        by rw [hsent₃]; exact hlen, ?_, ?_⟩
      · rw [hsent₃]
        exact .broke hn hw hv hp'
      · rw [hsent₃, ← hsent, ← hsent₂]
        exact hrest.sent_prefix
      · show (Log.tell f c _ _ _).sent = _
        rw [← htold, hsent₃, ← hsent]
        exact hsent₂
  | broke hn hw hv hp =>
    obtain ⟨m, -, herr, -⟩ := perform_error hp
    cases herr

/-! ## The turn up to the text -/

/-- A record of a handler whose reply failed instead. -/
def RunRecord.failed (x : RunRecord) : RunRecord :=
  { x with status := .failed }

theorem Log.sent_tell_failed (e : Option Assistant) (l : Log) (x : RunRecord) :
    (l.tell f c e x.failed).sent = l.sent := by
  unfold tell
  split
  · rfl
  · exact List.append_nil _

/-- How a run that ends because text `n + 1` fails relates to the run in which nothing fails. -/
structure Cut (f : Flow) (c : RunContext) (e : Option Assistant)
    (refusal : List String → String → DeliveryError) (s : World) (n : Nat)
    (full cut : Report × World) (start : Log) (before : List RunRecord) (x : RunRecord)
    (after : List RunRecord) (text : String) : Prop where
  /-- Before the first record nothing is sent, and the responder is not asked. -/
  silent : start.sent = [] ∧ start.calls = []
  records : full.1.records = before ++ x :: after
  status : x.status = .continued
  /-- The records of the full run tell what was seen of it: -/
  told : full.2.log.muted = start.tellAll f c e full.1.records
  /-- those before `x` tell of the first `n` texts, -/
  told_before : (start.tellAll f c e before).sent = full.2.log.sent.take n
  /-- and `x` tells of the next one. -/
  told_text : (start.tellAll f c e (before ++ [x])).sent = full.2.log.sent.take (n + 1)
  taken : full.2.log.sent.take (n + 1) = full.2.log.sent.take n ++ [text]
  /-- The other run failed, with `x` as its last record, but failed, and with `n` replies; apart from
  that its report is the same. -/
  report : cut.1 = { full.1 with
    outcome := .failed (RunError.reply (refusal (full.2.log.sent.take n) text)).message
    records := before ++ [x.failed]
    replies := n }
  /-- What was seen of the other run is what these records tell, so nothing was done after them. -/
  told_cut : cut.2.log.muted = start.tellAll f c e cut.1.records
  sent : cut.2.log.sent = full.2.log.sent.take n
  /-- Of the suspensions the one at the node parked at last is left, and if there is none, what taking
  up the sender's suspension has left. -/
  store : cut.2.store = (s.claimed c f.id).store.keep c ((lastParked before).map fun id =>
    ⟨f.id, id, c.message.tenantId, c.message.userId, c.now⟩)
  entry : 0 < c.config.suspensionTtl → cut.2.entry c =
    ((lastParked before).map fun id =>
      ⟨f.id, id, c.message.tenantId, c.message.userId, c.now⟩).or
      ((s.entry c).filter (·.flowId != f.id))

theorem lastParked_failed (before : List RunRecord) (x : RunRecord) :
    lastParked (before ++ [x.failed]) = lastParked before := by
  unfold lastParked
  rw [List.filter_append]
  have hx : [x.failed].filter (·.status == .suspended) = [] := rfl
  rw [hx, List.append_nil]

/-- Where nothing fails no walk is broken off. -/
theorem Course.steady_none {agenda : List Edge} {w : Walk} {js : List Passage}
    {r : Option DeliveryError × Walk} (h : Course f c (steady a) agenda w s js r s') : r.1 = none := by
  induction h with
  | done w s => rfl
  | dangling _ _ ih | parked _ _ _ ih | met _ _ _ _ ih | ran _ _ _ _ _ _ ih => exact ih
  | broke _ _ _ hp =>
    obtain ⟨m, -, herr, -⟩ := perform_error hp
    cases herr

theorem Turn.cut {resumed : Bool} {entry : Node} {kept : List Edge} {js : List Passage}
    {r : Option DeliveryError × Walk} (h : Turn f c (steady a) s resumed entry kept js r s')
    (hs : s.log.muted = {}) (hw : s.store.Works) (hlt : n < s'.log.sent.length) :
    ∃ start before x after text, Cut f c (c.assistant? (steady a)) refusal s n
      ((f.receive c).run (steady a) s) ((f.receive c).run (limited n refusal a) s)
      start before x after text := by
  obtain ⟨w, s₂, hc, -, hsent, htold, hopen⟩ := h.opened hs
  obtain ⟨js₁, e, nd, kept', js₂, m, w₁, s₁, rfl, hcut, hlen, hpre, hm⟩ :=
    hc.cut refusal (by rw [hsent]; exact Nat.zero_le n) hlt
  have hturn : Turn f c (limited n refusal a) s resumed entry kept (js₁ ++ [.broke e nd])
      (some (refusal s₁.log.sent m), w₁) s₁ := by
    refine hopen _ (fun x t hx => run_limited x ?_) _ _ _ hcut
    rw [hx]
    exact Nat.zero_le n
  have hsent₁ : s'.log.sent.take n = s₁.log.sent := by
    rw [← hlen]
    exact (List.prefix_iff_eq_take.1 ((List.prefix_append _ _).trans hpre)).symm
  have htext : s'.log.sent.take (n + 1) = s₁.log.sent ++ [m] := by
    rw [List.prefix_iff_eq_take.1 hpre, List.length_append, hlen]
    rfl
  let x : RunRecord := ⟨nd.id, nd.type, c.now, c.now, .continued⟩
  have hw₁ : w₁.records = w.records ++ js₁.filterMap (·.record? c) ++ [x.failed] := by
    rw [hcut.records_eq, List.filterMap_append, ← List.append_assoc]
    rfl
  have hrun : (f.receive c).run (steady a) s = (r.2.report f resumed none, s') := by
    rw [h.run_eq, hc.steady_none]
    rfl
  have hrun' := hturn.run_eq
  refine ⟨opening c (c.assistant? (steady a)) resumed entry,
    w.records ++ js₁.filterMap (·.record? c), x, js₂.filterMap (·.record? c), m, ?_⟩
  rw [hrun, hrun']
  obtain ⟨hreplies, hcutTold⟩ := hturn.told hs
  have hstore : (s₁.closed (some (refusal s₁.log.sent m))).store =
      (s.claimed c f.id).store.keep c ((lastParked (w.records ++ js₁.filterMap (·.record? c))).map
        fun id => ⟨f.id, id, c.message.tenantId, c.message.userId, c.now⟩) := by
    rw [World.closed_store, hturn.store_eq hw]
    show SuspensionStore.keep _ _ ((lastParked w₁.records).map _) = _
    rw [hw₁, lastParked_failed]
    rfl
  exact {
    silent := ⟨rfl, rfl⟩
    records := by
      show r.2.records = _
      rw [hc.records_eq]
      simp [x, Passage.record?]
    status := rfl
    told := (h.told hs).2
    told_before := by
      have hbefore := congrArg Log.sent hcut.told
      rw [List.filterMap_append, Log.tellAll_append] at hbefore
      rw [Log.tellAll_append, ← htold, hsent₁]
      exact (hbefore.trans (Log.sent_tell_failed _ _ x)).symm
    told_text := by
      rw [htext, ← hm, List.filterMap_append, List.append_assoc, Log.tellAll_append, ← htold]
      rfl
    taken := by rw [htext, hsent₁]
    report := by
      have hn : w₁.replies = n := hreplies.trans hlen
      show w₁.report f resumed _ = _
      unfold Walk.report Walk.outcome
      rw [hsent₁, hn, hw₁]
    told_cut := hcutTold
    sent := hsent₁.symm
    store := hstore
    entry := by
      intro ht
      unfold World.entry
      rw [hstore, SuspensionStore.peek_keep _ ht]
      exact congrArg _ (World.entry_claimed s c f.id) }

/-- What becomes of a run when replies fail after the first `n`, compared with the run in which none
does. If that run has no more texts to send, nothing is different. Otherwise the run ends with the
record of the node that has text `n + 1` to send: its records are those of the full run up to that
one, which failed; the first `n` texts were delivered; it was seen to do what its records tell and
nothing else; and of the suspensions it leaves the one its records tell of, or what taking up the
sender's suspension has left. -/
theorem receive_cut (f : Flow) (c : RunContext) (a : Option Assistant)
    (refusal : List String → String → DeliveryError) (n : Nat) {s : SuspensionStore} (hw : s.Works) :
    let full := (f.receive c).run (steady a) { store := s }
    let cut := (f.receive c).run (limited n refusal a) { store := s }
    full.1.replies = full.2.log.sent.length ∧
    (full.2.log.sent.length ≤ n → cut = full) ∧
    (n < full.2.log.sent.length → ∃ start before x after text,
      Cut f c (c.assistant? (steady a)) refusal { store := s } n full cut start before x after
        text) := by
  intro full cut
  have hlimited : full.2.log.sent.length ≤ n → cut = full := run_limited _
  rcases receive_cases f c (steady a) { store := s } with
    ⟨s₁, hr, -, hrun⟩ | ⟨resumed, entry, kept, js, r, s₁, ht, hrun⟩
  · -- nothing is sent where the flow does not engage
    have hlooked := run_looks (steady a) (resumption_asks f c) { store := s }
    rw [hr] at hlooked
    have hfull : full = (.notEngaged f.id 0, s₁) := hrun
    have hsent : full.2.log.sent = [] := by rw [hfull]; exact hlooked.sent
    rw [hsent] at hlimited ⊢
    refine ⟨by rw [hfull]; rfl, hlimited, fun hlt => absurd hlt (Nat.not_lt_zero n)⟩
  · have hfull : full = (r.2.report f resumed r.1, s₁.closed r.1) := hrun
    have hsent : full.2.log.sent = s₁.log.sent := by
      rw [hfull]
      cases r.1 <;> rfl
    refine ⟨?_, hlimited, fun hlt => ht.cut rfl hw (by rw [← hsent]; exact hlt)⟩
    rw [hsent, hfull]
    exact (ht.told rfl).1

end

/-- A flow that parks and then sends three texts, the second behind the first. -/
def tour : Flow :=
  { survey with
    id := "tour"
    nodes := [.trigger "t" "go", .waitForInput "w", .action "a" "A", .action "b" "B", .action "d" "D"]
    edges := [⟨"e1", "t", "w", none, none⟩, ⟨"e2", "t", "a", none, none⟩,
      ⟨"e3", "a", "b", none, none⟩, ⟨"e4", "t", "d", none, none⟩] }

/-- Where only one text is delivered, `tour` fails at `b`: with "B", which is the second text. -/
theorem tour_cut : ({} : SuspensionStore).Works ∧
    ((tour.receive sayGo).run (steady none) { store := {} }).2.log.sent = ["A", "B", "D"] ∧
    ∃ start before x after, Cut tour sayGo none (fun _ text => ⟨text⟩) { store := {} } 1
      ((tour.receive sayGo).run (steady none) { store := {} })
      ((tour.receive sayGo).run (limited 1 (fun _ text => ⟨text⟩) none) { store := {} })
      start before x after "B" := by
  have hw : ({} : SuspensionStore).Works := ⟨rfl, rfl⟩
  have hsent : ((tour.receive sayGo).run (steady none) { store := {} }).2.log.sent =
      ["A", "B", "D"] := by cbv
  have hlt : 1 < ((tour.receive sayGo).run (steady none) { store := {} }).2.log.sent.length := by
    rw [hsent]
    decide
  obtain ⟨start, before, x, after, text, h⟩ :=
    (receive_cut tour sayGo none (fun _ text => ⟨text⟩) 1 hw).2.2 hlt
  have htext : ["A"] ++ ["B"] = ["A"] ++ [text] := by
    have htaken := h.taken
    rw [hsent] at htaken
    exact htaken
  have hb : ["B"] = [text] := List.append_cancel_left htext
  cases hb
  exact ⟨hw, hsent, start, before, x, after, h⟩

end Dialogue
