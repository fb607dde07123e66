/-
What the records of a run tell of what was seen of it. For a given assistant, every record tells
which text its node sent, which question it put to the responder and which to the classifier
(`Log.tell`), and the records of a walk, one after another, tell all that was seen of the walk but
its warnings (`Course.told`). So nothing is sent and nothing asked but by the nodes that are recorded.
-/
import Dialogue.Proofs.Run.Indifference

namespace Dialogue

open Program

/-! ## What a node has to say -/

namespace Node

variable (c : RunContext) (e : Option Assistant) (n : Node)

/-- The question that the node puts to the responder. -/
def call? : Option ResponderCall :=
  match n.role with
  | .ai prompt => e.map fun _ => c.call prompt
  | _ => none

/-- The text that the node has to send, after earlier questions to the responder. -/
def text? (earlier : List ResponderCall) : Option String :=
  match n.role with
  | .action message => if message.isEmpty then none else some message
  | .ai prompt => e.bind fun e => (e.respond earlier (c.call prompt)).toOption.bind (·.filledText)
  | _ => none

/-- The question that the node puts to the classifier. -/
def question? : Option String :=
  match n.role with
  | .router r => if r.options.isEmpty then none else e.map fun _ => r.question c.message.body
  | _ => none

/-- A trigger has nothing to say, and neither has a node that waits. -/
theorem silent (h : n.type = .trigger ∨ n.waits = true) :
    (∀ earlier, n.text? c e earlier = none) ∧ n.call? c e = none ∧ n.question? c e = none := by
  obtain ⟨id, role⟩ := n
  cases role with
  | trigger keyword => exact ⟨fun _ => rfl, rfl, rfl⟩
  | waitForInput => exact ⟨fun _ => rfl, rfl, rfl⟩
  | action message => rcases h with h | h <;> cases h
  | logic l => rcases h with h | h <;> cases h
  | ai prompt => rcases h with h | h <;> cases h
  | router r => rcases h with h | h <;> cases h

end Node

/-- The log with a text sent, and questions put to the responder and to the classifier. -/
def Log.add (l : Log) (text : Option String) (call : Option ResponderCall)
    (question : Option String) : Log :=
  { l with sent := l.sent ++ text.toList, prompts := l.prompts ++ question.toList,
           calls := l.calls ++ call.toList }

@[simp] theorem Log.add_none (l : Log) : l.add none none none = l := by
  simp [add]

theorem Log.muted_add (l : Log) (text : Option String) (call : Option ResponderCall)
    (question : Option String) : (l.add text call question).muted = l.muted.add text call question :=
  rfl

theorem Log.sent_of_muted {l l' : Log} (h : l.muted = l'.muted) : l.sent = l'.sent := by
  have hsent : l.muted.sent = l'.muted.sent := congrArg Log.sent h
  exact hsent

theorem Log.sent_of_add {l m : Log} {text : Option String} {call : Option ResponderCall}
    {question : Option String} (h : l.muted = m.muted.add text call question) :
    l.sent = m.sent ++ text.toList := by
  have hsent : l.muted.sent = (m.muted.add text call question).sent := congrArg Log.sent h
  exact hsent

theorem Log.sent_of_add_none {l m : Log} {call : Option ResponderCall} {question : Option String}
    (h : l.muted = m.muted.add none call question) : l.sent = m.sent :=
  (Log.sent_of_add h).trans (List.append_nil _)

/-! ## First the text, then its delivery -/

/-- Asks the responder for a text. -/
def askResponder (c : RunContext) (prompt : String) : Program (Option String) := do
  if !c.hasAssistant then
    Program.tolerate (.responder .notConfigured)
    return none
  match ← Program.request (.respond (c.call prompt)) with
  | .ok reply => return reply.filledText
  | .error e =>
    Program.tolerate (.responder e)
    return none

/-- Comes to the text that a node has to send. -/
def Node.draft (c : RunContext) (n : Node) : Program (Option String) :=
  match n.role with
  | .action message => pure (if message.isEmpty then none else some message)
  | .ai prompt => askResponder c prompt
  | _ => pure none

/-- Sends a text if there is one. -/
def speak : Option String → Program (Except DeliveryError Nat)
  | some text => sendReply text
  | none => pure (.ok 0)

theorem sendAnswer_eq (c : RunContext) (prompt : String) :
    sendAnswer c prompt = askResponder c prompt >>= speak := by
  unfold sendAnswer askResponder
  cases c.hasAssistant with
  | false => rfl
  | true =>
    simp only [Bool.not_true, Bool.false_eq_true, if_false, bind_assoc]
    refine congrArg _ (funext fun a => ?_)
    cases a with
    | error err => rfl
    | ok reply =>
      simp only [pure_bind]
      cases reply.filledText <;> rfl

/-- A node comes to its text, and then sends it. -/
theorem perform_eq (c : RunContext) (n : Node) : n.perform c = n.draft c >>= speak := by
  unfold Node.perform Node.draft
  cases n.role with
  | action message =>
    simp only [pure_bind]
    cases message.isEmpty <;> rfl
  | ai prompt => exact sendAnswer_eq c prompt
  | trigger keyword => rfl
  | logic l => rfl
  | router r => rfl
  | waitForInput => rfl

section

variable {c : RunContext} {p : Partners}

theorem askResponder_run (prompt : String) (s : World) :
    ((askResponder c prompt).run p s).1 = ((c.assistant? p).bind fun e =>
        (e.respond s.log.calls (c.call prompt)).toOption.bind (·.filledText)) ∧
      ((askResponder c prompt).run p s).2.log.muted =
        s.log.muted.add none ((c.assistant? p).map fun _ => c.call prompt) none := by
  unfold askResponder RunContext.assistant?
  cases c.hasAssistant with
  | false => exact ⟨rfl, (Log.add_none _).symm⟩
  | true =>
    simp only [Bool.not_true, Bool.false_eq_true, if_false, if_true, run_bind, run_request,
      World.answer]
    cases p.assistant with
    | none => exact ⟨rfl, (Log.add_none _).symm⟩
    | some e =>
      have hlog : ∀ a, (s.log.add none (some a) none) =
          { s.log with calls := s.log.calls ++ [a] } := fun a => by simp [Log.add]
      dsimp only
      rw [← hlog]
      simp only [Option.bind_some, Option.map_some, ← Log.muted_add]
      rcases e.respond s.log.calls (c.call prompt) with err | reply
      · exact ⟨rfl, rfl⟩
      · exact ⟨rfl, rfl⟩

/-- The text that a node comes to, and what is seen of it so far. -/
theorem draft_run (n : Node) (s : World) :
    ((n.draft c).run p s).1 = n.text? c (c.assistant? p) s.log.calls ∧
      ((n.draft c).run p s).2.log.muted =
        s.log.muted.add none (n.call? c (c.assistant? p)) none := by
  unfold Node.draft Node.text? Node.call?
  cases n.role with
  | ai prompt => exact askResponder_run prompt s
  | action message => exact ⟨rfl, (Log.add_none _).symm⟩
  | trigger keyword => exact ⟨rfl, (Log.add_none _).symm⟩
  | logic l => exact ⟨rfl, (Log.add_none _).symm⟩
  | router r => exact ⟨rfl, (Log.add_none _).symm⟩
  | waitForInput => exact ⟨rfl, (Log.add_none _).symm⟩

theorem draft_sent (n : Node) (s : World) : ((n.draft c).run p s).2.log.sent = s.log.sent :=
  Log.sent_of_add_none (draft_run n s).2

theorem speak_run (text : Option String) (s : World) : (speak text).run p s =
    match text with
    | none => (.ok 0, s)
    | some text =>
      match p.deliver s.log.sent text with
      | .ok () => (.ok 1, { s with log := s.log.add (some text) none none })
      | .error err => (.error err, s) := by
  cases text with
  | none => rfl
  | some text =>
    unfold speak sendReply
    simp only [run_bind, run_request, World.answer, Log.add]
    cases p.deliver s.log.sent text <;> simp

/-! ## What is seen of a node -/

theorem perform_ok {n : Node} {s s₁ : World} {k : Nat} (h : (n.perform c).run p s = (.ok k, s₁)) :
    let text := n.text? c (c.assistant? p) s.log.calls
    k = text.toList.length ∧ (∀ m, text = some m → p.deliver s.log.sent m = .ok ()) ∧
      s₁.log.muted = s.log.muted.add text (n.call? c (c.assistant? p)) none := by
  intro text
  obtain ⟨ht, hl⟩ := draft_run (c := c) (p := p) n s
  rw [perform_eq, run_bind, ht, speak_run, draft_sent] at h
  cases hn : n.text? c (c.assistant? p) s.log.calls with
  | none =>
    rw [hn] at h
    cases h
    have htext : text = none := hn
    rw [htext]
    exact ⟨rfl, nofun, hl⟩
  | some m =>
    rw [hn] at h
    have htext : text = some m := hn
    rw [htext]
    dsimp only at h
    split at h
    · rename_i hok
      cases h
      refine ⟨rfl, fun m' hm' => by cases hm'; exact hok, ?_⟩
      rw [Log.muted_add, hl]
      simp [Log.add]
    · cases h

theorem perform_error {n : Node} {s s₁ : World} {err : DeliveryError}
    (h : (n.perform c).run p s = (.error err, s₁)) :
    ∃ m, n.text? c (c.assistant? p) s.log.calls = some m ∧ p.deliver s.log.sent m = .error err ∧
      s₁.log.muted = s.log.muted.add none (n.call? c (c.assistant? p)) none := by
  obtain ⟨ht, hl⟩ := draft_run (c := c) (p := p) n s
  rw [perform_eq, run_bind, ht, speak_run, draft_sent] at h
  cases hn : n.text? c (c.assistant? p) s.log.calls with
  | none =>
    rw [hn] at h
    cases h
  | some m =>
    rw [hn] at h
    dsimp only at h
    split at h
    · cases h
    · rename_i err' herr
      cases h
      exact ⟨m, rfl, herr, hl⟩

theorem classify_told (r : Router) (id : String) (s : World) :
    ((r.classify c id).run p s).2.log.muted = s.log.muted.add none none
      (if r.options.isEmpty then none else
        (c.assistant? p).map fun _ => r.question c.message.body) := by
  unfold Router.classify RunContext.assistant?
  cases c.hasAssistant with
  | false => cases r.options.isEmpty <;> exact (Log.add_none _).symm
  | true =>
    cases r.options.isEmpty with
    | true => exact (Log.add_none _).symm
    | false =>
      simp only [Bool.not_true, Bool.false_eq_true, if_false, if_true, run_bind, run_request,
        World.answer]
      cases p.assistant with
      | none => exact (Log.add_none _).symm
      | some e =>
        have hlog : ∀ q, (s.log.add none none (some q)) =
            { s.log with prompts := s.log.prompts ++ [q] } := fun q => by simp [Log.add]
        dsimp only
        rw [← hlog]
        simp only [Option.map_some, ← Log.muted_add]
        rcases e.classify s.log.prompts (r.question c.message.body) with err | answer
        · rfl
        · dsimp only
          cases readAnswer answer r.options <;> rfl

theorem keptEdges_told (n : Node) (out : List Edge) (s : World) :
    ((n.keptEdges c out).run p s).2.log.muted =
      s.log.muted.add none none (n.question? c (c.assistant? p)) := by
  unfold Node.keptEdges Node.question?
  cases n.role with
  | router r =>
    have h := classify_told (c := c) (p := p) r n.id s
    dsimp only
    rw [run_bind]
    rcases ((r.classify c n.id).run p s).1 with _ | label <;> exact h
  | trigger keyword => exact (Log.add_none _).symm
  | action message => exact (Log.add_none _).symm
  | logic l => exact (Log.add_none _).symm
  | ai prompt => exact (Log.add_none _).symm
  | waitForInput => exact (Log.add_none _).symm

end

/-! ## What records tell -/

/-- The node whose handler a record is about. -/
def RunRecord.node? (f : Flow) (x : RunRecord) : Option Node :=
  (f.node? x.nodeId).filter (·.type == x.nodeType)

/-- The log after what a record tells. A node whose reply failed has asked for the text, and has not
sent it. -/
def Log.tell (f : Flow) (c : RunContext) (e : Option Assistant) (l : Log) (x : RunRecord) : Log :=
  match x.node? f with
  | none => l
  | some n =>
    l.add (if x.status = .failed then none else n.text? c e l.calls) (n.call? c e) (n.question? c e)

/-- The log after what records tell, one after another. -/
def Log.tellAll (f : Flow) (c : RunContext) (e : Option Assistant) (l : Log) (xs : List RunRecord) :
    Log :=
  xs.foldl (Log.tell f c e) l

section

variable {f : Flow} {c : RunContext} {e : Option Assistant} {l : Log}

@[simp] theorem Log.tellAll_cons (x : RunRecord) (xs : List RunRecord) :
    l.tellAll f c e (x :: xs) = (l.tell f c e x).tellAll f c e xs := rfl

theorem Log.tellAll_append (xs ys : List RunRecord) :
    l.tellAll f c e (xs ++ ys) = (l.tellAll f c e xs).tellAll f c e ys :=
  List.foldl_append

/-- A record of a node that ids are resolved to tells of that node. -/
theorem Log.tell_node {n : Node} (hn : f.node? n.id = some n) (status : RecordStatus) :
    l.tell f c e ⟨n.id, n.type, c.now, c.now, status⟩ =
      l.add (if status = .failed then none else n.text? c e l.calls) (n.call? c e)
        (n.question? c e) := by
  have hx : RunRecord.node? f ⟨n.id, n.type, c.now, c.now, status⟩ = some n := by
    unfold RunRecord.node?
    rw [hn, Option.filter_some_pos (by simp)]
  unfold tell
  rw [hx]

/-- The record of a node that waits tells nothing. -/
theorem Log.tell_waits {n : Node} (hn : f.node? n.id = some n) (hw : n.waits = true) :
    l.tell f c e ⟨n.id, n.type, c.now, c.now, .suspended⟩ = l := by
  obtain ⟨htext, hcall, hquestion⟩ := n.silent c e (.inr hw)
  rw [Log.tell_node hn, htext, hcall, hquestion, ite_self]
  exact l.add_none

/-- The record of a trigger tells nothing, not even where its id is resolved to another node. -/
theorem Log.tell_trigger {x : RunRecord} (hx : x.nodeType = .trigger) : l.tell f c e x = l := by
  unfold tell
  cases hn : x.node? f with
  | none => rfl
  | some n =>
    have htype : n.type = .trigger := by
      have := (Option.filter_eq_some_iff.1 hn).2
      rw [hx] at this
      simpa using this
    obtain ⟨htext, hcall, hquestion⟩ := n.silent c e (.inl htype)
    dsimp only
    rw [htext, hcall, hquestion, ite_self]
    exact l.add_none

end

section

variable {f : Flow} {c : RunContext} {p : Partners} {s s' : World}

/-- A node that ran and was left again: its record tells what was seen of it. -/
theorem ran_told {n : Node} {k : Nat} {s₁ s₂ : World} {out kept : List Edge}
    (hn : f.node? n.id = some n) (hp : (n.perform c).run p s = (.ok k, s₁))
    (hk : (n.keptEdges c out).run p s₁ = (kept, s₂)) :
    s₂.log.muted =
      s.log.muted.tell f c (c.assistant? p) ⟨n.id, n.type, c.now, c.now, .continued⟩ := by
  obtain ⟨-, -, h1⟩ := perform_ok hp
  have h2 := keptEdges_told (c := c) (p := p) n out s₁
  rw [hk] at h2
  rw [h2, h1, Log.tell_node hn]
  simp [Log.add, Log.muted]

/-- A node whose reply failed: its record tells what was seen of it. -/
theorem broke_told {n : Node} {err : DeliveryError} {s₁ : World} (hn : f.node? n.id = some n)
    (hp : (n.perform c).run p s = (.error err, s₁)) :
    s₁.log.muted =
      s.log.muted.tell f c (c.assistant? p) ⟨n.id, n.type, c.now, c.now, .failed⟩ := by
  obtain ⟨m, htext, -, h1⟩ := perform_error hp
  -- what has a text to send has no question for the classifier
  have hq : n.question? c (c.assistant? p) = none := by
    unfold Node.text? at htext
    unfold Node.question?
    cases hr : n.role with
    | router r => rw [hr] at htext; cases htext
    | trigger keyword => rfl
    | action message => rfl
    | logic l => rfl
    | ai prompt => rfl
    | waitForInput => rfl
  rw [h1, Log.tell_node hn, if_pos rfl, hq]

theorem Flow.node?_id {id : String} {n : Node} (h : f.node? id = some n) : f.node? n.id = some n := by
  rw [Flow.id_of_node? h]
  exact h

/-- The records of a walk tell what was seen of it. -/
theorem Course.told {agenda : List Edge} {w : Walk} {js : List Passage}
    {r : Option DeliveryError × Walk} (h : Course f c p agenda w s js r s') :
    s'.log.muted =
      s.log.muted.tellAll f c (c.assistant? p) (js.filterMap (·.record? c)) := by
  induction h with
  | done w s => rfl
  | dangling _ _ ih => exact ih
  | met _ _ _ _ ih => exact ih
  | parked hn hw _ ih =>
    rw [ih, park_muted]
    exact (congrArg (Log.tellAll f c _ · _) (Log.tell_waits (Flow.node?_id hn) hw)).symm
  | ran hn _ _ hp hk _ ih => rw [ih, ran_told (Flow.node?_id hn) hp hk]; rfl
  | broke hn _ _ hp => exact broke_told (Flow.node?_id hn) hp

/-- A walk counts the replies that are delivered in it. -/
theorem Course.replies_eq {agenda : List Edge} {w : Walk} {js : List Passage}
    {r : Option DeliveryError × Walk} (h : Course f c p agenda w s js r s') :
    r.2.replies + s.log.sent.length = w.replies + s'.log.sent.length := by
  induction h with
  | done w s => rfl
  | dangling _ _ ih => exact ih
  | met _ _ _ _ ih => exact ih
  | @parked e agenda w s n js r s' _ _ _ ih =>
    have hsent : ((park ⟨f, .ofFlow f, c⟩ n).run p s).2.log.sent = s.log.sent :=
      Log.sent_of_muted (park_muted n s)
    rw [hsent] at ih
    exact ih
  | @ran e agenda w s n k s₁ kept s₂ js r s' _ _ _ hp hk _ ih =>
    obtain ⟨hcount, -, h1⟩ := perform_ok hp
    have h2 := keptEdges_told (c := c) (p := p) n (f.outgoing n.id) s₁
    rw [hk] at h2
    have hs₁ : s₁.log.sent.length = s.log.sent.length + k := by
      rw [Log.sent_of_add h1, hcount]
      exact List.length_append
    have hs₂ : s₂.log.sent = s₁.log.sent := Log.sent_of_add_none h2
    rw [hs₂, hs₁] at ih
    have hw : (((w.visit n.id).record c n .continued).count k).replies = w.replies + k := rfl
    omega
  | @broke e agenda w s n err s₁ _ _ _ hp =>
    obtain ⟨m, -, -, h1⟩ := perform_error hp
    have hs₁ : s₁.log.sent = s.log.sent := Log.sent_of_add_none h1
    rw [hs₁]
    rfl

/-- How a turn opens: with a walk that starts with no reply counted, and whose first records tell
what was seen so far. Any other partners that come to the same as long as nothing more is sent open
the same turn. -/
theorem Turn.opens {resumed : Bool} {entry : Node} {kept : List Edge} {js : List Passage}
    {r : Option DeliveryError × Walk} (h : Turn f c p s resumed entry kept js r s') :
    ∃ w s₂, Course f c p kept w s₂ js r s' ∧ w.replies = 0 ∧ s₂.log.sent = s.log.sent ∧
      s₂.log.muted = (s.log.muted.add none none
        (if resumed then entry.question? c (c.assistant? p) else none)).tellAll f c (c.assistant? p)
          w.records ∧
      ∀ p' : Partners, (∀ {α : Type} (x : Program α) t,
        (x.run p t).2.log.sent = s.log.sent → x.run p' t = x.run p t) →
        ∀ js' r' s'', Course f c p' kept w s₂ js' r' s'' →
          Turn f c p' s resumed entry kept js' r' s'' := by
  have hlooked := (run_looks p (resumption_asks f c) s).muted
  have hasked := keptEdges_told (c := c) (p := p) entry (f.outgoing entry.id)
    ((f.resumption c).run p s).2
  have hsent₂ := (Log.sent_of_add_none hasked).trans (Log.sent_of_muted hlooked)
  rw [hlooked] at hasked
  have hsent₁ : ((f.resumption c).run p s).2.log.sent = s.log.sent := Log.sent_of_muted hlooked
  -- nothing is sent before the walk, so other partners come to the same until then
  cases h with
  | @resumed n s₁ kept s₂ js r s' hr hk hc =>
    rw [hr] at hsent₁ hsent₂ hasked
    rw [hk] at hsent₂ hasked
    refine ⟨_, s₂, hc, rfl, hsent₂, hasked, fun p' hp' js' r' s'' hc' => ?_⟩
    have hr' := (hp' _ _ (by rw [hr]; exact hsent₁)).trans hr
    have hk' := (hp' _ _ (by rw [hk]; exact hsent₂)).trans hk
    exact .resumed hr' hk' hc'
  | @started s₁ n kept s₂ js r s' hr ht hk hc =>
    obtain ⟨-, keyword, hrole, -⟩ := Flow.triggerFor_some ht
    have hq : entry.question? c (c.assistant? p) = none := by
      unfold Node.question?
      rw [hrole]
    have htype : entry.type = .trigger := congrArg NodeRole.type hrole
    rw [hr] at hsent₁ hsent₂ hasked
    rw [hk] at hsent₂ hasked
    rw [hq] at hasked
    refine ⟨_, s₂, hc, rfl, hsent₂, ?_, fun p' hp' js' r' s'' hc' => ?_⟩
    · show _ = Log.tellAll f c _ _ [⟨entry.id, entry.type, c.now, c.now, .continued⟩]
      rw [Log.tellAll_cons, Log.tell_trigger htype]
      exact hasked
    · have hr' := (hp' _ _ (by rw [hr]; exact hsent₁)).trans hr
      have hk' := (hp' _ _ (by rw [hk]; exact hsent₂)).trans hk
      exact .started hr' ht hk' hc'

/-- The records of a turn tell what was seen of it, and its replies are those that were delivered. -/
theorem Turn.shown {resumed : Bool} {entry : Node} {kept : List Edge} {js : List Passage}
    {r : Option DeliveryError × Walk} (h : Turn f c p s resumed entry kept js r s') :
    r.2.replies + s.log.sent.length = s'.log.sent.length ∧
      s'.log.muted = (s.log.muted.add none none
        (if resumed then entry.question? c (c.assistant? p) else none)).tellAll f c (c.assistant? p)
          r.2.records := by
  obtain ⟨w, s₂, hc, hw, hsent, hs₂, -⟩ := h.opens
  constructor
  · have hcount := hc.replies_eq
    rw [hsent, hw] at hcount
    omega
  · rw [hc.told, hc.records_eq, Log.tellAll_append, hs₂]

/-! ### From an empty log -/

/-- What is seen of a turn before its first record: a run that goes on behind a router asks for the
option first. -/
def opening (c : RunContext) (e : Option Assistant) (resumed : Bool) (entry : Node) : Log :=
  ({} : Log).add none none (if resumed then entry.question? c e else none)

theorem Turn.opened {resumed : Bool} {entry : Node} {kept : List Edge} {js : List Passage}
    {r : Option DeliveryError × Walk} (h : Turn f c p s resumed entry kept js r s')
    (hs : s.log.muted = {}) : ∃ w s₂, Course f c p kept w s₂ js r s' ∧ w.replies = 0 ∧
      s₂.log.sent = [] ∧
      s₂.log.muted =
        (opening c (c.assistant? p) resumed entry).tellAll f c (c.assistant? p) w.records ∧
      ∀ p' : Partners, (∀ {α : Type} (x : Program α) t,
        (x.run p t).2.log.sent = [] → x.run p' t = x.run p t) →
        ∀ js' r' s'', Course f c p' kept w s₂ js' r' s'' →
          Turn f c p' s resumed entry kept js' r' s'' := by
  have hopens := h.opens
  have hsent : s.log.sent = [] := congrArg Log.sent hs
  rw [hs, hsent] at hopens
  exact hopens

theorem Turn.told {resumed : Bool} {entry : Node} {kept : List Edge} {js : List Passage}
    {r : Option DeliveryError × Walk} (h : Turn f c p s resumed entry kept js r s')
    (hs : s.log.muted = {}) : r.2.replies = s'.log.sent.length ∧ s'.log.muted =
      (opening c (c.assistant? p) resumed entry).tellAll f c (c.assistant? p) r.2.records := by
  have hshown := h.shown
  have hsent : s.log.sent = [] := congrArg Log.sent hs
  rw [hs, hsent] at hshown
  exact hshown

end

end Dialogue
