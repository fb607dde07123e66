/-
What the responder can change. It writes the texts of `ai` nodes and nothing else: two runs that
differ only in the responder run the same nodes, ask the classifier the same questions, come to the
same outcome and leave the same store, and what the other nodes say is the same. And services that
always fail are as good as none (`responder_unsteering`).

Both are instances of one argument. Two runs keep in lockstep if every node ends alike in both, and
the same edges are kept behind it; then they take the same course, passage by passage
(`Course.lockstep`), however different the answers are that they get on the way.
-/
import Dialogue.Proofs.Run.Cut

namespace Dialogue

open Program

/-! ## Two worlds beside one another -/

/-- Requests that are answered alike in related worlds, and leave related worlds, make programs that
do so. -/
theorem Program.run_beside {α : Type} {p p' : Partners} {P : Request → Prop}
    {R : World → World → Prop}
    (hanswer : ∀ s t r, P r → R s t →
      (s.answer p r).1 = (t.answer p' r).1 ∧ R (s.answer p r).2 (t.answer p' r).2)
    {x : Program α} (hx : x.Asks P) {s t : World} (h : R s t) :
    (x.run p s).1 = (x.run p' t).1 ∧ R (x.run p s).2 (x.run p' t).2 := by
  induction x generalizing s t with
  | done a => exact ⟨rfl, h⟩
  | ask r next ih =>
    obtain ⟨ha, hw⟩ := hanswer s t r hx.1 h
    rw [run_ask, run_ask, ha]
    exact ih _ (hx.2 _) hw

/-- A request that the responder has no part in, nor the replies. -/
def Request.Unspoken : Request → Prop
  | .send _ | .respond _ => False
  | _ => True

theorem Request.Internal.unspoken {r : Request} (h : r.Internal) : r.Unspoken := by
  cases r with
  | readState t u => trivial
  | writeState t u state ttl => trivial
  | dropState t u => trivial
  | classify prompt => trivial
  | warn w => trivial
  | send text => exact h.elim
  | respond call => exact h.elim

/-- The message as it is handled with services, or without. -/
def RunContext.staffed (c : RunContext) (b : Bool) : RunContext :=
  { c with hasAssistant := b }

theorem park_staffed (f : Flow) (c : RunContext) (b : Bool) (n : Node) :
    park ⟨f, .ofFlow f, c.staffed b⟩ n = park ⟨f, .ofFlow f, c⟩ n := by
  refine congrArg (_ >>= ·) (funext fun a => ?_)
  cases a <;> rfl

theorem park_internal (f : Flow) (c : RunContext) (n : Node) :
    (park ⟨f, .ofFlow f, c⟩ n).Asks Request.Internal :=
  park_asks trivial fun _ => trivial

/-- The walk, the number of its replies aside. -/
def Walk.uncounted (w : Walk) : Walk :=
  { w with replies := 0 }

/-- Two ways to handle a message keep in lockstep from related worlds on: the store and the log
answer alike, every node ends alike, and the same edges are kept behind it. -/
structure Lockstep (c : RunContext) (b : Bool) (p : Partners) (b' : Bool) (p' : Partners)
    (R : World → World → Prop) : Prop where
  internal : ∀ s t r, Request.Internal r → R s t →
    (s.answer p r).1 = (t.answer p' r).1 ∧ R (s.answer p r).2 (t.answer p' r).2
  performed : ∀ (n : Node) s t, R s t →
    ((n.perform (c.staffed b)).run p s).1.map (fun _ => ()) =
      ((n.perform (c.staffed b')).run p' t).1.map (fun _ => ()) ∧
    R ((n.perform (c.staffed b)).run p s).2 ((n.perform (c.staffed b')).run p' t).2
  kept : ∀ (n : Node) (out : List Edge) s t, R s t →
    ((n.keptEdges (c.staffed b) out).run p s).1 = ((n.keptEdges (c.staffed b') out).run p' t).1 ∧
    R ((n.keptEdges (c.staffed b) out).run p s).2 ((n.keptEdges (c.staffed b') out).run p' t).2

section

variable {f : Flow} {c : RunContext} {b b' : Bool} {p p' : Partners} {R : World → World → Prop}
  {s s' t : World}

theorem Lockstep.warned (h : Lockstep c b p b' p' R) (hs : R s t) (w : Warning) :
    R (s.warned w) (t.warned w) :=
  (h.internal s t (.warn w) trivial hs).2

theorem Lockstep.closed (h : Lockstep c b p b' p' R) (hs : R s t) (e : Option DeliveryError) :
    R (s.closed e) (t.closed e) := by
  cases e with
  | none => exact hs
  | some e => exact h.warned hs _

theorem Lockstep.parks (h : Lockstep c b p b' p' R) (hs : R s t) (n : Node) :
    R ((park ⟨f, .ofFlow f, c.staffed b⟩ n).run p s).2
      ((park ⟨f, .ofFlow f, c.staffed b'⟩ n).run p' t).2 := by
  rw [park_staffed, park_staffed]
  exact (run_beside h.internal (park_internal f c n) hs).2

/-- If certain edges are kept at a node in one run, they are in the other. -/
theorem Lockstep.keeps (h : Lockstep c b p b' p' R) {n : Node} {out kept : List Edge} {s₁ : World}
    (hs : R s t) (hk : (n.keptEdges (c.staffed b) out).run p s = (kept, s₁)) :
    ∃ t₁, (n.keptEdges (c.staffed b') out).run p' t = (kept, t₁) ∧ R s₁ t₁ := by
  have hkept := h.kept n out s t hs
  rw [hk] at hkept
  exact ⟨((n.keptEdges (c.staffed b') out).run p' t).2, Prod.ext hkept.1.symm rfl, hkept.2⟩

/-- Both runs find the same node to go on behind, or none. -/
theorem Lockstep.resumes (h : Lockstep c b p b' p' R) {o : Option Node} {s₁ : World}
    (hs : R s t) (hr : (f.resumption (c.staffed b)).run p s = (o, s₁)) :
    ∃ t₁, (f.resumption (c.staffed b')).run p' t = (o, t₁) ∧ R s₁ t₁ := by
  have hfound := run_beside h.internal
    ((resumption_asks f (c.staffed b)).mono fun _ => Request.Looks.internal) hs
  rw [hr] at hfound
  exact ⟨((f.resumption (c.staffed b')).run p' t).2, Prod.ext hfound.1.symm rfl, hfound.2⟩

/-- Runs in lockstep take the same course: the same becomes of every edge in both. -/
theorem Course.lockstep (h : Lockstep c b p b' p' R) {agenda : List Edge} {w : Walk}
    {js : List Passage} {r : Option DeliveryError × Walk}
    (hc : Course f (c.staffed b) p agenda w s js r s') {v : Walk} (hw : w.uncounted = v.uncounted)
    (hs : R s t) : ∃ r' t', Course f (c.staffed b') p' agenda v t js r' t' ∧
      r.1 = r'.1 ∧ r.2.uncounted = r'.2.uncounted ∧ R s' t' := by
  have hvisited {w w' : Walk} (hw : w.uncounted = w'.uncounted) : w.visited = w'.visited := by
    have h : w.uncounted.visited = w'.uncounted.visited := by rw [hw]
    exact h
  induction hc generalizing v t with
  | done w s => exact ⟨_, _, .done _ _, rfl, hw, hs⟩
  | dangling hn _ ih =>
    obtain ⟨r', t', hc', hr⟩ := ih hw (h.warned hs _)
    exact ⟨r', t', .dangling hn hc', hr⟩
  | @parked e agenda w s n js r s' hn hwait _ ih =>
    have hs₁ := h.parks (f := f) hs n
    obtain ⟨r', t', hc', hr⟩ := ih
      (v := ((v.visit n.id).record (c.staffed b') n .suspended).parkedAt n.id)
      (congrArg (fun w => ((w.visit n.id).record c n .suspended).parkedAt n.id) hw) hs₁
    exact ⟨r', t', .parked hn hwait hc', hr⟩
  | met hn hwait hv _ ih =>
    obtain ⟨r', t', hc', hr⟩ := ih hw (h.warned hs _)
    exact ⟨r', t', .met hn hwait (by rw [← hvisited hw]; exact hv) hc', hr⟩
  | @ran e agenda w s n k s₁ kept s₂ js r s' hn hwait hv hp hk _ ih =>
    obtain ⟨hend, hs₁⟩ := h.performed n s t hs
    rw [hp] at hend hs₁
    -- the number of replies may differ, so only the kind of ending carries over
    rcases hp' : (n.perform (c.staffed b')).run p' t with ⟨err | k', t₁⟩
    · rw [hp'] at hend
      cases hend
    · rw [hp'] at hs₁
      obtain ⟨t₂, hk', hs₂⟩ := h.keeps hs₁ hk
      obtain ⟨r', t', hc', hr⟩ := ih
        (v := ((v.visit n.id).record (c.staffed b') n .continued).count k')
        (congrArg (fun w => (w.visit n.id).record c n .continued) hw) hs₂
      exact ⟨r', t', .ran hn hwait (by rw [← hvisited hw]; exact hv) hp' hk' hc', hr⟩
  | @broke e agenda w s n err s₁ hn hwait hv hp =>
    obtain ⟨hend, hs₁⟩ := h.performed n s t hs
    rw [hp] at hend hs₁
    rcases hp' : (n.perform (c.staffed b')).run p' t with ⟨err' | k', t₁⟩
    · rw [hp'] at hend hs₁
      cases hend
      refine ⟨_, t₁, .broke hn hwait (by rw [← hvisited hw]; exact hv) hp', rfl, ?_, hs₁⟩
      exact congrArg (fun w => (w.visit n.id).record c n .failed) hw
    · rw [hp'] at hend
      cases hend

/-- Runs in lockstep take the same turn. -/
theorem Turn.lockstep (h : Lockstep c b p b' p' R) {resumed : Bool} {entry : Node}
    {kept : List Edge} {js : List Passage} {r : Option DeliveryError × Walk}
    (ht : Turn f (c.staffed b) p s resumed entry kept js r s') (hs : R s t) :
    ∃ r' t', Turn f (c.staffed b') p' t resumed entry kept js r' t' ∧
      r.1 = r'.1 ∧ r.2.uncounted = r'.2.uncounted ∧ R s' t' := by
  cases ht with
  | resumed hr hk hc =>
    obtain ⟨t₁, hr', hs₁⟩ := h.resumes hs hr
    obtain ⟨t₂, hk', hs₂⟩ := h.keeps hs₁ hk
    obtain ⟨r', t', hc', hrest⟩ := hc.lockstep h rfl hs₂
    exact ⟨r', t', .resumed hr' hk' hc', hrest⟩
  | started hr htr hk hc =>
    obtain ⟨t₁, hr', hs₁⟩ := h.resumes hs hr
    obtain ⟨t₂, hk', hs₂⟩ := h.keeps hs₁ hk
    obtain ⟨r', t', hc', hrest⟩ := hc.lockstep h rfl hs₂
    exact ⟨r', t', .started hr' htr hk' hc', hrest⟩

theorem Walk.report_of_uncounted {w w' : Walk} (h : w.uncounted = w'.uncounted) (resumed : Bool)
    (e : Option DeliveryError) :
    w'.report f resumed e = { w.report f resumed e with replies := w'.replies } := by
  obtain ⟨visited, records, k, suspendedAt⟩ := w
  obtain ⟨visited', records', k', suspendedAt'⟩ := w'
  cases h
  rfl

/-- Runs in lockstep come to the same report, the number of replies aside: the flow engages in
neither, or it engages in both, and its turns end alike. -/
theorem receive_lockstep (h : Lockstep c b p b' p' R) (hs : R s t) :
    (∃ s₁ t₁, R s₁ t₁ ∧ (f.receive (c.staffed b)).run p s = (.notEngaged f.id 0, s₁) ∧
      (f.receive (c.staffed b')).run p' t = (.notEngaged f.id 0, t₁) ∧
      s.Looked c s₁ ∧ t.Looked c t₁) ∨
    ∃ resumed entry kept js r r' s₁ t₁, R s₁ t₁ ∧ r.1 = r'.1 ∧ r.2.uncounted = r'.2.uncounted ∧
      Turn f (c.staffed b) p s resumed entry kept js r s₁ ∧
      Turn f (c.staffed b') p' t resumed entry kept js r' t₁ := by
  rcases receive_cases f (c.staffed b) p s with
    ⟨s₁, hr, htr, hrun⟩ | ⟨resumed, entry, kept, js, r, s₁, ht, -⟩
  · obtain ⟨t₁, hr', hs₁⟩ := h.resumes hs hr
    have hrun' : (f.receive (c.staffed b')).run p' t = (.notEngaged f.id 0, t₁) := by
      have htr' : f.triggerFor (c.staffed b').message.body = none := htr
      unfold Flow.receive
      rw [run_bind, hr', htr']
      rfl
    have hlooked := run_looks p (resumption_asks f (c.staffed b)) s
    have hlooked' := run_looks p' (resumption_asks f (c.staffed b')) t
    rw [hr] at hlooked
    rw [hr'] at hlooked'
    exact .inl ⟨s₁, t₁, hs₁, hrun, hrun', ⟨hlooked.1, hlooked.2, hlooked.3, hlooked.4⟩,
      ⟨hlooked'.1, hlooked'.2, hlooked'.3, hlooked'.4⟩⟩
  · obtain ⟨r', t₁, ht', hfail, hw, hs₁⟩ := ht.lockstep h hs
    exact .inr ⟨resumed, entry, kept, js, r, r', s₁, t₁, hs₁, hfail, hw, ht, ht'⟩

end

/-! ## Who says what -/

/-- The text that a record tells its node has sent, after earlier questions to the responder. -/
def RunRecord.text? (f : Flow) (c : RunContext) (e : Option Assistant) (calls : List ResponderCall)
    (x : RunRecord) : Option String :=
  if x.status = .failed then none else (x.node? f).bind (·.text? c e calls)

/-- The question that a record tells its node has put to the responder. -/
def RunRecord.call? (f : Flow) (c : RunContext) (e : Option Assistant) (x : RunRecord) :
    Option ResponderCall :=
  (x.node? f).bind (·.call? c e)

/-- The texts that records tell were sent, each with its record. -/
def spoken (f : Flow) (c : RunContext) (e : Option Assistant) :
    (earlier : List ResponderCall) → List RunRecord → List (RunRecord × String)
  | _, [] => []
  | earlier, x :: xs =>
    ((x.text? f c e earlier).map (x, ·)).toList ++
      spoken f c e (earlier ++ (x.call? f c e).toList) xs

section

variable {f : Flow} {c : RunContext} {e e' : Option Assistant}

theorem Log.tell_said (l : Log) (x : RunRecord) :
    (l.tell f c e x).sent = l.sent ++ (x.text? f c e l.calls).toList ∧
      (l.tell f c e x).calls = l.calls ++ (x.call? f c e).toList := by
  unfold tell RunRecord.text? RunRecord.call?
  cases x.node? f with
  | none => simp
  | some n => exact ⟨rfl, rfl⟩

/-- The texts of the records are those that are sent. -/
theorem Log.sent_tellAll (l : Log) (xs : List RunRecord) :
    (l.tellAll f c e xs).sent = l.sent ++ (spoken f c e l.calls xs).map (·.2) := by
  induction xs generalizing l with
  | nil => exact (List.append_nil _).symm
  | cons x xs ih =>
    obtain ⟨hsent, hcalls⟩ := l.tell_said (f := f) (c := c) (e := e) x
    rw [tellAll_cons, ih, hsent, hcalls, spoken, List.map_append, List.append_assoc]
    cases x.text? f c e l.calls <;> rfl

/-- What a node says that is no `ai` node depends neither on the services nor on what they were
asked before. -/
theorem RunRecord.text?_of_ne_ai {x : RunRecord} (hx : x.nodeType ≠ .ai)
    (calls calls' : List ResponderCall) : x.text? f c e calls = x.text? f c e' calls' := by
  unfold text?
  cases hn : x.node? f with
  | none => rfl
  | some n =>
    have htype : n.type = x.nodeType := by simpa using (Option.filter_eq_some_iff.1 hn).2
    obtain ⟨id, role⟩ := n
    cases role with
    | ai prompt => exact absurd htype.symm hx
    | action message => rfl
    | trigger keyword => rfl
    | logic l => rfl
    | router r => rfl
    | waitForInput => rfl

theorem spoken_filter (calls calls' : List ResponderCall) (xs : List RunRecord) :
    (spoken f c e calls xs).filter (·.1.nodeType != .ai) =
      (spoken f c e' calls' xs).filter (·.1.nodeType != .ai) := by
  induction xs generalizing calls calls' with
  | nil => rfl
  | cons x xs ih =>
    rw [spoken, spoken, List.filter_append, List.filter_append, ih]
    refine congrArg (· ++ _) ?_
    by_cases hx : x.nodeType = .ai
    · -- whatever an `ai` node says is left out
      cases x.text? f c e calls <;> cases x.text? f c e' calls' <;> simp [hx]
    · rw [RunRecord.text?_of_ne_ai hx calls calls']

end

/-! ## Another responder -/

/-- The same store, and the same questions to the classifier so far. -/
def SamePrompts (s t : World) : Prop :=
  s.store = t.store ∧ s.log.prompts = t.log.prompts

theorem classify_unspoken (c : RunContext) (id : String) (r : Router) :
    (r.classify c id).Asks Request.Unspoken := by
  unfold Router.classify
  refine asks_ite (asks_bind (asks_warn trivial) fun _ => asks_pure _) ?_
  refine asks_ite (asks_bind (asks_warn trivial) fun _ => asks_pure _) ?_
  refine asks_bind (asks_request trivial) fun a => ?_
  cases a with
  | error e => exact asks_bind (asks_warn trivial) fun _ => asks_pure _
  | ok answer =>
    dsimp only
    split
    · exact asks_pure _
    · exact asks_bind (asks_warn trivial) fun _ => asks_pure _
    · exact asks_bind (asks_warn trivial) fun _ => asks_bind (asks_warn trivial) fun _ => asks_pure _

theorem keptEdges_unspoken (c : RunContext) (n : Node) (out : List Edge) :
    (n.keptEdges c out).Asks Request.Unspoken := by
  unfold Node.keptEdges
  split
  · exact asks_pure _
  · refine asks_bind (classify_unspoken c _ _) fun l => ?_
    cases l <;> exact asks_pure _
  · exact asks_pure _

section

variable {c : RunContext} {b : Bool}
  {classify : List String → String → Except ServiceError String}
  {respond respond' : List ResponderCall → ResponderCall → Except ServiceError ServiceReply}

theorem answer_samePrompts (s t : World) (r : Request) (hr : r.Unspoken) (h : SamePrompts s t) :
    (s.answer (steady (some ⟨classify, respond⟩)) r).1 =
        (t.answer (steady (some ⟨classify, respond'⟩)) r).1 ∧
      SamePrompts (s.answer (steady (some ⟨classify, respond⟩)) r).2
        (t.answer (steady (some ⟨classify, respond'⟩)) r).2 := by
  obtain ⟨store, ⟨sent, prompts, calls, ws⟩⟩ := s
  obtain ⟨store', ⟨sent', prompts', calls', ws'⟩⟩ := t
  obtain ⟨hstore, hprompts⟩ := h
  cases hstore
  cases hprompts
  cases r with
  | readState t u => exact ⟨rfl, rfl, rfl⟩
  | writeState t u st ttl => exact ⟨rfl, rfl, rfl⟩
  | dropState t u => exact ⟨rfl, rfl, rfl⟩
  | classify prompt => exact ⟨rfl, rfl, rfl⟩
  | warn w => exact ⟨rfl, rfl, rfl⟩
  | send text => exact hr.elim
  | respond call => exact hr.elim

/-- Where every text is delivered no node fails, and none asks the classifier as it runs. -/
theorem perform_steady (n : Node) (a : Option Assistant) (s : World) :
    ((n.perform c).run (steady a) s).1.map (fun _ => ()) = .ok () ∧
      SamePrompts ((n.perform c).run (steady a) s).2 s := by
  have hstore := n.perform_store c (steady a) s
  rcases hp : (n.perform c).run (steady a) s with ⟨err | k, s₁⟩
  · obtain ⟨m, -, herr, -⟩ := perform_error hp
    cases herr
  · rw [hp] at hstore
    obtain ⟨-, -, hlog⟩ := perform_ok hp
    have hprompts : s₁.log.prompts = s.log.prompts ++ [] := congrArg Log.prompts hlog
    exact ⟨rfl, hstore, hprompts.trans (List.append_nil _)⟩

theorem lockstep_of_responder : Lockstep c b (steady (some ⟨classify, respond⟩)) b
    (steady (some ⟨classify, respond'⟩)) SamePrompts where
  internal s t r hr hs := answer_samePrompts s t r hr.unspoken hs
  performed n s t hs := by
    obtain ⟨hend, hs₁⟩ := perform_steady (c := c.staffed b) n (some ⟨classify, respond⟩) s
    obtain ⟨hend', ht₁⟩ := perform_steady (c := c.staffed b) n (some ⟨classify, respond'⟩) t
    exact ⟨hend.trans hend'.symm, hs₁.1.trans (hs.1.trans ht₁.1.symm),
      hs₁.2.trans (hs.2.trans ht₁.2.symm)⟩
  kept n out s t hs := run_beside answer_samePrompts (keptEdges_unspoken _ n out) hs

end

/-! ## Services that are down -/

/-- Both services fail whatever they are asked. -/
def Assistant.Down (a : Assistant) : Prop :=
  (∀ earlier prompt, ∃ err, a.classify earlier prompt = .error err) ∧
    ∀ earlier call, ∃ err, a.respond earlier call = .error err

/-- The same store, and the same replies so far. -/
def SameReplies (s t : World) : Prop :=
  s.store = t.store ∧ s.log.sent = t.log.sent

section

variable {c : RunContext} {deliver : List String → String → Except DeliveryError Unit}
  {a : Assistant}

/-- Services that are down give no node a text. -/
theorem Assistant.Down.text? (ha : a.Down) (n : Node) (calls calls' : List ResponderCall) :
    n.text? (c.staffed true) (some a) calls = n.text? (c.staffed false) none calls' := by
  unfold Node.text?
  cases n.role with
  | ai prompt =>
    obtain ⟨err, he⟩ := ha.2 calls ((c.staffed true).call prompt)
    simp only [Option.bind_some, he]
    rfl
  | action message => rfl
  | trigger keyword => rfl
  | logic l => rfl
  | router r => rfl
  | waitForInput => rfl

/-- How a node ends, and what it adds to the replies, hangs on its text and on whether that is
delivered. -/
theorem perform_told (n : Node) (p : Partners) (s : World) :
    ((n.perform c).run p s).1.map (fun _ => ()) =
      (match n.text? c (c.assistant? p) s.log.calls with
        | none => .ok ()
        | some m => p.deliver s.log.sent m) ∧
    ((n.perform c).run p s).2.log.sent = s.log.sent ++
      (match n.text? c (c.assistant? p) s.log.calls with
        | none => []
        | some m => if (p.deliver s.log.sent m).toBool then [m] else []) := by
  rcases hp : (n.perform c).run p s with ⟨err | k, s₁⟩
  · obtain ⟨m, htext, herr, hlog⟩ := perform_error hp
    rw [htext]
    dsimp only
    rw [herr]
    exact ⟨rfl, (Log.sent_of_add_none hlog).trans (List.append_nil _).symm⟩
  · obtain ⟨-, hok, hlog⟩ := perform_ok hp
    have hsent := Log.sent_of_add hlog
    cases htext : n.text? c (c.assistant? p) s.log.calls with
    | none =>
      rw [htext] at hsent
      exact ⟨rfl, hsent⟩
    | some m =>
      rw [htext] at hsent
      dsimp only
      rw [hok m htext]
      exact ⟨rfl, hsent⟩

theorem answer_sameReplies {p p' : Partners} (s t : World) (r : Request) (hr : r.Internal)
    (h : SameReplies s t) :
    (s.answer p r).1 = (t.answer p' r).1 ∧ SameReplies (s.answer p r).2 (t.answer p' r).2 := by
  obtain ⟨store, ⟨sent, prompts, calls, ws⟩⟩ := s
  obtain ⟨store', ⟨sent', prompts', calls', ws'⟩⟩ := t
  obtain ⟨hstore, hsent⟩ := h
  cases hstore
  cases hsent
  cases r with
  | readState t u => exact ⟨rfl, rfl, rfl⟩
  | writeState t u st ttl => exact ⟨rfl, rfl, rfl⟩
  | dropState t u => exact ⟨rfl, rfl, rfl⟩
  | warn w => exact ⟨rfl, rfl, rfl⟩
  | classify prompt => exact hr.elim
  | send text => exact hr.elim
  | respond call => exact hr.elim

/-- Nobody names an option where the classifier is down, or is not there. -/
theorem classify_down {p : Partners} (hp : ∀ a, c.assistant? p = some a → a.Down) (r : Router)
    (id : String) (s : World) : ((r.classify c id).run p s).1 = none := by
  unfold RunContext.assistant? at hp
  unfold Router.classify
  cases hc : c.hasAssistant with
  | false => rfl
  | true =>
    rw [hc] at hp
    cases r.options.isEmpty with
    | true => rfl
    | false =>
      simp only [Bool.not_true, Bool.false_eq_true, if_false, run_bind, run_request, World.answer]
      cases ha : p.assistant with
      | none => rfl
      | some a =>
        obtain ⟨err, he⟩ := (hp a ha).1 s.log.prompts (r.question c.message.body)
        simp only [he]
        rfl

theorem keptEdges_sent (n : Node) (out : List Edge) (p : Partners) (s : World) :
    ((n.keptEdges c out).run p s).2.log.sent = s.log.sent :=
  Log.sent_of_add_none (keptEdges_told n out s)

/-- Services that are down keep in lockstep with none. -/
theorem Assistant.Down.lockstep (ha : a.Down) :
    Lockstep c true ⟨deliver, some a⟩ false ⟨deliver, none⟩ SameReplies where
  internal := answer_sameReplies
  performed n s t hs := by
    obtain ⟨hend, hsent⟩ := perform_told (c := c.staffed true) n ⟨deliver, some a⟩ s
    obtain ⟨hend', hsent'⟩ := perform_told (c := c.staffed false) n ⟨deliver, none⟩ t
    have htext : n.text? (c.staffed true) ((c.staffed true).assistant? ⟨deliver, some a⟩) s.log.calls =
        n.text? (c.staffed false) ((c.staffed false).assistant? ⟨deliver, none⟩) t.log.calls :=
      ha.text? n _ _
    rw [htext, hs.2] at hend hsent
    refine ⟨hend.trans hend'.symm, ?_, hsent.trans hsent'.symm⟩
    rw [n.perform_store, n.perform_store]
    exact hs.1
  kept n out s t hs := by
    refine ⟨?_, ?_, ?_⟩
    · unfold Node.keptEdges
      cases n.role with
      | router r =>
        have hx := classify_down (c := c.staffed true) (p := ⟨deliver, some a⟩)
          (fun _ h => by cases h; exact ha) r n.id s
        have hy := classify_down (c := c.staffed false) (p := ⟨deliver, none⟩) nofun r n.id t
        dsimp only
        rw [run_bind, run_bind, hx, hy]
        rfl
      | logic l => rfl
      | trigger keyword => rfl
      | action message => rfl
      | ai prompt => rfl
      | waitForInput => rfl
    · rw [n.keptEdges_store, n.keptEdges_store]
      exact hs.1
    · rw [keptEdges_sent, keptEdges_sent]
      exact hs.2

end

/-! ## Every message -/

/-- Two runs of a flow that differ in what `ai` nodes say, and in nothing else. -/
structure Unsteered (f : Flow) (c : RunContext) (e e' : Option Assistant) (x y : Report × World) :
    Prop where
  records : x.1.records = y.1.records
  outcome : x.1.outcome = y.1.outcome
  resumed : x.1.resumed = y.1.resumed
  store : x.2.store = y.2.store
  prompts : x.2.log.prompts = y.2.log.prompts
  /-- What was sent is what the records tell, -/
  sent : x.2.log.sent = (spoken f c e [] x.1.records).map (·.2)
  sent' : y.2.log.sent = (spoken f c e' [] y.1.records).map (·.2)
  /-- and the texts of all nodes but the `ai` nodes are the same. -/
  unassisted : (spoken f c e [] x.1.records).filter (·.1.nodeType != .ai) =
    (spoken f c e' [] y.1.records).filter (·.1.nodeType != .ai)

@[simp] theorem World.closed_sent (s : World) (e : Option DeliveryError) :
    (s.closed e).log.sent = s.log.sent := by
  cases e <;> rfl

theorem Turn.sent_spoken {f : Flow} {c : RunContext} {p : Partners} {s s' : World} {resumed : Bool}
    {entry : Node} {kept : List Edge} {js : List Passage} {r : Option DeliveryError × Walk}
    (h : Turn f c p s resumed entry kept js r s') (hs : s.log.muted = {}) :
    s'.log.sent = (spoken f c (c.assistant? p) [] r.2.records).map (·.2) := by
  have hsent : s'.log.muted.sent = _ := congrArg Log.sent (h.told hs).2
  rw [Log.sent_tellAll] at hsent
  exact hsent

/-- The responder never steers a flow: whatever it answers, and whether or not it does, a message for
which every reply is delivered comes to the same, what `ai` nodes say aside. And services that always
fail are as good as none: the report, the replies and the store are the same, delivered or not. -/
theorem responder_unsteering (f : Flow) (c : RunContext) (s : SuspensionStore) :
    (∀ classify respond respond',
      let a : Option Assistant := some ⟨classify, respond⟩
      let a' : Option Assistant := some ⟨classify, respond'⟩
      Unsteered f c (c.assistant? (steady a)) (c.assistant? (steady a'))
        ((f.receive c).run (steady a) { store := s })
        ((f.receive c).run (steady a') { store := s })) ∧
    ∀ deliver (a : Assistant), a.Down →
      let failing := (f.receive { c with hasAssistant := true }).run ⟨deliver, some a⟩ { store := s }
      let absent := (f.receive { c with hasAssistant := false }).run ⟨deliver, none⟩ { store := s }
      failing.1 = absent.1 ∧ failing.2.log.sent = absent.2.log.sent ∧
        failing.2.store = absent.2.store := by
  refine ⟨fun classify respond respond' => ?_, fun deliver a ha => ?_⟩
  · intro a a'
    have h : Lockstep c c.hasAssistant (steady a) c.hasAssistant (steady a') SamePrompts :=
      lockstep_of_responder
    rcases receive_lockstep (f := f) h (s := { store := s }) ⟨rfl, rfl⟩ with
      ⟨s₁, t₁, hst, hrun, hrun', hlooked, hlooked'⟩ |
      ⟨resumed, entry, kept, js, r, r', s₁, t₁, hst, hfail, hw, ht, ht'⟩
    · have hx : (f.receive c).run (steady a) { store := s } = (.notEngaged f.id 0, s₁) := hrun
      have hy : (f.receive c).run (steady a') { store := s } = (.notEngaged f.id 0, t₁) := hrun'
      rw [hx, hy]
      exact ⟨rfl, rfl, rfl, hst.1, hst.2, hlooked.sent, hlooked'.sent, rfl⟩
    · have hsent := ht.sent_spoken rfl
      have hsent' := ht'.sent_spoken rfl
      have hreport := Walk.report_of_uncounted (f := f) hw resumed r'.1
      have hx : (f.receive c).run (steady a) { store := s } = (r.2.report f resumed r'.1, s₁.closed r'.1) :=
        hfail ▸ ht.run_eq
      have hy : (f.receive c).run (steady a') { store := s } =
          ({ r.2.report f resumed r'.1 with replies := r'.2.replies }, t₁.closed r'.1) :=
        hreport ▸ ht'.run_eq
      have hrecords : r'.2.records = r.2.records := congrArg Report.records hreport
      have hclosed := h.closed hst r'.1
      rw [hrecords] at hsent'
      rw [hx, hy]
      exact ⟨rfl, rfl, rfl, hclosed.1, hclosed.2, (World.closed_sent ..).trans hsent,
        (World.closed_sent ..).trans hsent', spoken_filter _ _ _⟩
  · intro failing absent
    have h : Lockstep c true ⟨deliver, some a⟩ false ⟨deliver, none⟩ SameReplies := ha.lockstep
    rcases receive_lockstep (f := f) h (s := { store := s }) ⟨rfl, rfl⟩ with
      ⟨s₁, t₁, hst, hrun, hrun', -, -⟩ |
      ⟨resumed, entry, kept, js, r, r', s₁, t₁, hst, hfail, hw, ht, ht'⟩
    · have hx : failing = (.notEngaged f.id 0, s₁) := hrun
      have hy : absent = (.notEngaged f.id 0, t₁) := hrun'
      rw [hx, hy]
      exact ⟨rfl, hst.2, hst.1⟩
    · have hreplies : r.2.replies = r'.2.replies := by
        rw [(ht.told rfl).1, (ht'.told rfl).1, hst.2]
      have hreport := Walk.report_of_uncounted (f := f) hw resumed r'.1
      have hx : failing = (r.2.report f resumed r'.1, s₁.closed r'.1) := hfail ▸ ht.run_eq
      have hy : absent = (r'.2.report f resumed r'.1, t₁.closed r'.1) := ht'.run_eq
      have hclosed := h.closed hst r'.1
      rw [hx, hy, hreport, ← hreplies]
      exact ⟨rfl, hclosed.2, hclosed.1⟩

/-- A flow in which a router and an action stand behind an `ai` node. -/
def consult : Flow :=
  { survey with
    id := "consult"
    nodes := [.trigger "t" "go", .ai "help" "Be kind", .aiRouter "r" [⟨"sales", none⟩],
      .action "s" "Sales team", .waitForInput "w"]
    edges := [⟨"e1", "t", "help", none, none⟩, ⟨"e2", "help", "r", none, none⟩,
      ⟨"e3", "r", "w", some "sales", none⟩, ⟨"e4", "help", "s", none, none⟩,
      ⟨"e5", "s", "w", none, none⟩] }

/-- A provider that cannot be reached. -/
def unreachable : Assistant :=
  ⟨fun _ _ => .error (.provider "connection refused"), fun _ _ => .error (.provider "connection refused")⟩

/-- In `consult` the sales team is named and the run is parked whether or not the responder has a
text, and whether or not anything can be reached. -/
theorem consult_unsteered :
    let c : RunContext := { sayGo with hasAssistant := true }
    let talks : Assistant := ⟨fun _ _ => .ok "?", fun _ _ => .ok ⟨some "Hello"⟩⟩
    let fails : Assistant := ⟨fun _ _ => .ok "?", fun _ _ => .error .emptyResponse⟩
    let x := (consult.receive c).run (steady (some talks)) { store := {} }
    let y := (consult.receive c).run (steady (some fails)) { store := {} }
    Unsteered consult c (c.assistant? (steady (some talks))) (c.assistant? (steady (some fails))) x y ∧
      x.2.log.sent = ["Hello", "Sales team"] ∧ y.2.log.sent = ["Sales team"] ∧
    unreachable.Down ∧
    let failing := (consult.receive { sayGo with hasAssistant := true }).run
      ⟨fun _ _ => .ok (), some unreachable⟩ { store := {} }
    let absent := (consult.receive { sayGo with hasAssistant := false }).run
      ⟨fun _ _ => .ok (), none⟩ { store := {} }
    (failing.1 = absent.1 ∧ failing.2.log.sent = absent.2.log.sent ∧
      failing.2.store = absent.2.store) ∧ absent.1.visited = ["t", "help", "r", "s", "w"] := by
  have hdown : unreachable.Down := ⟨fun _ _ => ⟨_, rfl⟩, fun _ _ => ⟨_, rfl⟩⟩
  exact ⟨(responder_unsteering consult { sayGo with hasAssistant := true } {}).1 _ _ _, by cbv, by cbv,
    hdown, (responder_unsteering consult sayGo {}).2 _ _ hdown, by cbv⟩

end Dialogue
