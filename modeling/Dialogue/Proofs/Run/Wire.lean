/-
What services exchange reads back. A suspension that is stored, a report with its records, and the data
that come with a message or from a service are written as JSON, as a value or as text in either layout,
and what is written decodes to the same again (`wire_roundtrip`). Most of it is records of texts. Two
kinds are not: an outcome is told apart by a status among its members, and a report also has counts.
-/
import Dialogue.Assistant
import Dialogue.Message
import Dialogue.Proofs.Document.Likeness
import Dialogue.Proofs.Flow.Reading
import Dialogue.Proofs.Json.Readback
import Dialogue.Run.Report
import Dialogue.Suspension.Basic

namespace Dialogue

/-- Whether a decoder makes something of a value, be it of the value itself, of its text without any
space or of its text over several lines. -/
structure Json.ReadsAs {α : Type} (f : Decoder α) (j : Json) (a : α) : Prop where
  value : Json.decodeValue f j = .ok a
  compact : Json.decodeText f j.compact = .ok a
  pretty : Json.decodeText f j.pretty = .ok a

section

variable {α : Type} {f : Decoder α} {n : Nat} {j : Json} {a : α}

/-- What decodes as a document, whatever it comes from, is read from the texts as well. -/
theorem Json.Legible.readsAs (hj : j.Legible n) (hn : n ≤ Json.depthLimit)
    (h : ∀ o, f o (.ofJson j) = .ok a) : j.ReadsAs f a where
  value := h .value
  compact := by rw [Json.decodeText_compact hj hn, h]
  pretty := by rw [Json.decodeText_pretty hj hn, h]

theorem Json.Simple.readsAs (hj : j.Simple n) (hn : n ≤ Json.depthLimit)
    (h : ∀ o, f.Reads o j a) : j.ReadsAs f a :=
  hj.legible.readsAs hn fun o => h o _ (Doc.stands_ofJson hj)

end

variable {o : Origin}

/-! ## Suspensions -/

theorem Json.texts_simple {members : List (String × Json)} (names : (members.map (·.1)).Nodup)
    (h : ∀ m ∈ members, ∃ s, m.2 = .text s) : (Json.object members).Simple 1 := by
  refine .object names ?_
  intro m hm
  obtain ⟨s, hs⟩ := h m hm
  rw [hs]
  exact .text s

theorem Suspension.toJson_simple (s : Suspension) : s.toJson.Simple 1 :=
  Json.texts_simple (by simp) (by simp [Instant.toJson])

theorem Suspension.decode_reads (s : Suspension) (now : Instant) :
    (Suspension.decode now).Reads o s.toJson s := by
  refine Shape.decoder_reads s.toJson_simple ?_ ?_ _
  · simp [Shape.names, Shape.required, Shape.withDefault]
  refine Shape.build_reads Suspension.mk
    |>.required ?_ (Decoder.text_reads s.flowId)
    |>.required ?_ (Decoder.text_reads s.currentNodeId)
    |>.required ?_ (Decoder.text_reads s.tenantId)
    |>.required ?_ (Decoder.text_reads s.userId)
    |>.withDefault ?_ s.suspendedAt.toJson_reads _
  all_goals simp [List.lookup_cons]

/-! ## What comes with a message -/

theorem Sender.toJson_simple (s : Sender) : s.toJson.Simple 2 := by
  refine .object (by simp) ?_
  intro m hm
  simp only [List.mem_cons, List.not_mem_nil, or_false] at hm
  rcases hm with rfl | rfl
  · exact .text _
  · exact Json.array_simple fun t => .text t

theorem Sender.decode_reads (s : Sender) : Sender.decode.Reads o s.toJson s := by
  refine Shape.decoder_reads s.toJson_simple (by decide) ?_ _
  refine Shape.build_reads Sender.mk
    |>.required ?_ (Decoder.text_reads s.jid)
    |>.withDefault ?_ (Decoder.list_reads_map fun t _ => Decoder.text_reads t) _
  all_goals simp [List.lookup_cons, Json.ofTexts]

/-- An object with nothing but a text that may be left out. -/
theorem Json.optional_object_simple (name : String) (x : Option String) :
    (Json.object (Json.optional name x)).Simple 1 := by
  cases x <;> exact Json.texts_simple (by simp [Json.optional]) (by simp [Json.optional])

/-- A record of nothing but a text that may be left out. -/
theorem Shape.optional_reads {α : Type} (build : Option String → α) (name recordName : String)
    (x : Option String) : ((Shape.build build |>.optional name .text).decoder recordName).Reads o
      (.object (Json.optional name x)) (build x) := by
  refine Shape.decoder_reads (Json.optional_object_simple name x) ?_ ?_ _
  · simp [Shape.names, Shape.optional]
  · exact (Shape.build_reads build).optional (by simp [Json.lookup_optional])

theorem TenantProfile.decode_reads (t : TenantProfile) :
    TenantProfile.decode.Reads o t.toJson t :=
  Shape.optional_reads TenantProfile.mk _ _ t.planTier

theorem Receipt.decode_reads (r : Receipt) : Receipt.decode.Reads o r.toJson r :=
  Shape.optional_reads Receipt.mk _ _ r.messageId

/-! ## What goes to a service and comes from it -/

theorem Addressee.toJson_simple (a : Addressee) : a.toJson.Simple 1 := by
  unfold Addressee.toJson
  cases a.planTier <;> exact Json.texts_simple (by simp [Json.optional]) (by simp [Json.optional])

theorem Addressee.decode_reads (a : Addressee) : Addressee.decode.Reads o a.toJson a := by
  refine Shape.decoder_reads a.toJson_simple (by decide) ?_ _
  refine Shape.build_reads Addressee.mk
    |>.required ?_ (Decoder.text_reads a.tenantId)
    |>.required ?_ (Decoder.text_reads a.senderJid)
    |>.optional ?_
  all_goals simp [List.lookup_cons, Json.lookup_optional]

theorem ServiceReply.toJson_simple (r : ServiceReply) : r.toJson.Simple 2 := by
  refine .object (by simp) ?_
  intro m hm
  rw [List.mem_singleton.mp hm]
  exact Json.optional_object_simple _ _

theorem ServiceReply.decode_reads (r : ServiceReply) : ServiceReply.decode.Reads o r.toJson r := by
  refine Shape.decoder_reads r.toJson_simple (by decide) ?_ _
  exact Shape.build_reads ServiceReply.mk
    |>.required (by simp) (Shape.optional_reads id _ _ r.text)

/-! ## Records -/

theorem RecordStatus.lookup_name (s : RecordStatus) :
    [("continued", .continued), ("suspended", .suspended), ("failed", .failed)].lookup s.name =
      some s := by
  cases s <;> decide

theorem RunRecord.toJson_simple (r : RunRecord) : r.toJson.Simple 1 :=
  Json.texts_simple (by simp) (by simp [Instant.toJson])

theorem RunRecord.decode_reads (r : RunRecord) : RunRecord.decode.Reads o r.toJson r := by
  refine Shape.decoder_reads r.toJson_simple (by decide) ?_ _
  refine Shape.build_reads RunRecord.mk
    |>.required ?_ (Decoder.text_reads r.nodeId)
    |>.required ?_ (Decoder.choice_reads r.nodeType.lookup_name)
    |>.required ?_ r.startedAt.toJson_reads
    |>.required ?_ r.finishedAt.toJson_reads
    |>.required ?_ (Decoder.choice_reads r.status.lookup_name)
  all_goals simp [List.lookup_cons]

/-! ## Outcomes -/

theorem Outcome.toJson_simple (out : Outcome) : out.toJson.Simple 1 := by
  cases out <;> exact Json.texts_simple (by simp) (by simp)

/-- The kind of an outcome, without what it carries. -/
def Outcome.tag : Outcome → OutcomeTag
  | .notEngaged => .notEngaged
  | .completed => .completed
  | .suspended _ => .suspended
  | .failed _ => .failed

theorem OutcomeTag.decode_label (out : Outcome) : OutcomeTag.decode (.text out.label) = .ok out.tag := by
  cases out <;> rfl

/-- Members that are no status are put behind those that were passed already. -/
theorem OutcomeTag.split_others {members : List (String × Json)}
    (h : ∀ m ∈ members, m.1 ≠ "status") (tag : Option OutcomeTag) (done : List (Doc × Doc)) :
    OutcomeTag.split (Doc.ofMembers members) none tag done =
      .ok (tag, done.reverse ++ Doc.ofMembers members) := by
  induction members generalizing done with
  | nil => rw [Doc.ofMembers, List.append_nil]; rfl
  | cons m members ih =>
    obtain ⟨name, j⟩ := m
    rw [List.forall_mem_cons] at h
    simp only [Doc.ofMembers, OutcomeTag.split, Doc.toText, bind, Except.bind, if_neg h.1,
      Doc.toJson_ofJson]
    rw [ih h.2, List.reverse_cons, List.append_assoc]
    rfl

/-- What stands besides the status is left for the outcome of that status. -/
theorem Outcome.decode_status (out : Outcome) {members : List (String × Json)}
    (h : ∀ m ∈ members, m.1 ≠ "status") :
    Outcome.decode o (.ofJson (.object (("status", .text out.label) :: members))) =
      out.tag.complete (.ofJson (.object members)) := by
  have hsplit : OutcomeTag.split (Doc.ofMembers (("status", .text out.label) :: members)) none
      none [] = .ok (some out.tag, Doc.ofMembers members) := by
    simp only [Doc.ofMembers, Doc.ofJson, OutcomeTag.split, Doc.toText, bind, Except.bind, if_true,
      OutcomeTag.decode_label, OutcomeTag.split_others h, List.reverse_nil, List.nil_append]
  simp only [Outcome.decode, Doc.ofJson, hsplit, bind, Except.bind]

/-- An outcome that carries a text is read from a record of that text. -/
theorem OutcomeTag.carrying_single (make : String → Outcome) (variant field s : String) :
    OutcomeTag.carrying make variant field (.ofJson (.object [(field, .text s)])) =
      .ok (make s) := by
  have hread : (((Shape.build make).required field .text).decoder
      ("struct variant ExecutionOutcome::" ++ variant)).Reads .value
        (.object [(field, .text s)]) (make s) := by
    refine Shape.decoder_reads (Json.single_simple 0 field s) ?_ ?_ _
    · simp [Shape.names, Shape.required]
    · exact (Shape.build_reads make).required (by simp) (Decoder.text_reads s)
  exact hread _ (Doc.stands_ofJson (Json.single_simple 0 field s))

theorem Outcome.decode_ofJson (out : Outcome) : Outcome.decode o (.ofJson out.toJson) = .ok out := by
  cases out with
  | notEngaged => exact Outcome.decode_status .notEngaged (by simp)
  | completed => exact Outcome.decode_status .completed (by simp)
  | suspended nodeId =>
    rw [Outcome.toJson, Outcome.decode_status _ (by simp)]
    exact OutcomeTag.carrying_single .suspended "Suspended" "node_id" nodeId
  | failed reason =>
    rw [Outcome.toJson, Outcome.decode_status _ (by simp)]
    exact OutcomeTag.carrying_single .failed "Failed" "reason" reason

/-! ## Reports -/

namespace Shape

variable {α β : Type} {ms : List (String × Json)}

/-- A value at hand with different names decodes to the record that its members assemble to. -/
theorem decoder_ofJson {s : Shape α} {a : α} (hs : s.names.Nodup) (hm : (ms.map (·.1)).Nodup)
    (ha : s.assemble o (given ms) = .ok a) (recordName : String) :
    s.decoder recordName o (.ofJson (.object ms)) = .ok a := by
  have hskip : ∀ g ∈ given ms, g.2.skip = none := by
    intro g hg
    obtain ⟨m, -, rfl⟩ := List.mem_map.mp hg
    exact Doc.skip_ofJson m.2
  obtain ⟨slots, ht, hf⟩ := takeNamed_assemble hs (map_fst_given ms ▸ hm) hskip ha
  exact Decoded.bind_eq_ok.mpr ⟨slots, (takeAll_ofMembers s ms _).trans ht, hf⟩

/-- Whether a shape makes a record of the values of members. -/
def Takes (o : Origin) (ms : List (String × Json)) (s : Shape α) (a : α) : Prop :=
  s.assemble o (given ms) = .ok a

theorem build_takes (a : α) : (Shape.build a).Takes o ms a :=
  rfl

theorem lookup_given (ms : List (String × Json)) (name : String) :
    (given ms).lookup name = (ms.lookup name).map .ofJson := by
  induction ms with
  | nil => rfl
  | cons m ms ih =>
    rw [given, List.map_cons, List.lookup_cons, List.lookup_cons, ← given, ih]
    split <;> rfl

theorem Takes.required {s : Shape (β → α)} {g : β → α} {name : String} {f : Decoder β} {b : β}
    {j : Json} (h : s.Takes o ms g) (hl : ms.lookup name = some j) (hf : f o (.ofJson j) = .ok b) :
    (s.required name f).Takes o ms (g b) :=
  assemble_field.mpr ⟨g, b, h, by rw [lookup_given, hl]; exact hf, rfl⟩

end Shape

theorem Report.records_simple (r : Report) :
    (Json.array (r.records.map (·.toJson))).Simple 2 :=
  Json.array_simple RunRecord.toJson_simple

theorem Report.toJson_legible {r : Report} (hreplies : r.replies < Number.wordLimit)
    (helapsed : r.elapsedMs < Number.wordLimit) : r.toJson.Legible 3 := by
  refine .object ?_
  intro m hm
  simp only [List.mem_cons, List.not_mem_nil, or_false] at hm
  rcases hm with rfl | rfl | rfl | rfl | rfl | rfl
  · exact .text _
  · exact r.outcome.toJson_simple.legible.mono (by decide)
  · exact .bool _
  · exact r.records_simple.legible
  · exact .count hreplies
  · exact .count helapsed

theorem Decoder.count_ofJson (name : String) (n : Nat) :
    Decoder.count name o (.ofJson (.ofNat n)) = .ok n :=
  rfl

theorem Report.decode_ofJson (r : Report) : Report.decode o (.ofJson r.toJson) = .ok r := by
  have hrecords : (Decoder.list RunRecord.decode).Reads o _ r.records :=
    Decoder.list_reads_map fun record _ => record.decode_reads
  refine Shape.decoder_ofJson (by decide) (by simp) ?_ _
  refine Shape.build_takes Report.mk
    |>.required ?_ (Decoder.text_reads r.flowId _ (Doc.stands_ofJson (.text (n := 0) _)))
    |>.required ?_ r.outcome.decode_ofJson
    |>.required ?_ (Decoder.flag_reads r.resumed _ (Doc.stands_ofJson (.bool (n := 0) _)))
    |>.required ?_ (hrecords _ (Doc.stands_ofJson r.records_simple))
    |>.required ?_ (Decoder.count_ofJson _ r.replies)
    |>.required ?_ (Decoder.count_ofJson _ r.elapsedMs)
  all_goals simp [List.lookup_cons]

/-! ## Conditions -/

/-- The conditions that come from decoding, as such or in the data of a node, where one may be left
out, and those of the nodes that builder functions make. -/
inductive Condition.Made : Condition → Prop
  | decoded {o : Origin} {d : Doc} {c : Condition} (h : Condition.decode o d = .ok c) : Made c
  | data {o : Origin} {d : Doc} {l : Logic} (h : Logic.decode o d = .ok l) : Made l.condition
  | built {n : Node} {l : Logic} (hn : n.Built) (h : n.role = .logic l) : Made l.condition

theorem Condition.Made.named {c : Condition} (h : c.Made) : c.Named := by
  cases h with
  | decoded h =>
    obtain ⟨name, -, hname⟩ := Decoded.map_eq_ok.mp h
    exact ⟨name, hname.symm⟩
  | data h => exact Logic.decode_named h
  | built hn h => exact hn.recognized _ h

/-! ## All of it -/

/-- Every suspension, report, record and outcome, every sender, tenant, addressee and receipt, every
answer of the responder and every condition that was decoded or built is read back from what is
written for it in JSON, whether from the value or from a text. The counts of a report are numbers of
64 bits. -/
theorem wire_roundtrip (now : Instant) :
    (∀ s : Suspension, s.toJson.ReadsAs (Suspension.decode now) s) ∧
    (∀ r : Report, r.replies < Number.wordLimit → r.elapsedMs < Number.wordLimit →
      r.toJson.ReadsAs Report.decode r) ∧
    (∀ r : RunRecord, r.toJson.ReadsAs RunRecord.decode r) ∧
    (∀ out : Outcome, out.toJson.ReadsAs Outcome.decode out) ∧
    (∀ s : Sender, s.toJson.ReadsAs Sender.decode s) ∧
    (∀ t : TenantProfile, t.toJson.ReadsAs TenantProfile.decode t) ∧
    (∀ a : Addressee, a.toJson.ReadsAs Addressee.decode a) ∧
    (∀ r : Receipt, r.toJson.ReadsAs Receipt.decode r) ∧
    (∀ r : ServiceReply, r.toJson.ReadsAs ServiceReply.decode r) ∧
    ∀ c : Condition, c.Made → (Json.text c.name).ReadsAs Condition.decode c := by
  refine ⟨?_, ?_, ?_, ?_, ?_, ?_, ?_, ?_, ?_, ?_⟩
  · intro s
    exact s.toJson_simple.readsAs (by decide) fun _ => s.decode_reads now
  · intro r hreplies helapsed
    exact (r.toJson_legible hreplies helapsed).readsAs (by decide) fun _ => r.decode_ofJson
  · intro r
    exact r.toJson_simple.readsAs (by decide) fun _ => r.decode_reads
  · intro out
    exact out.toJson_simple.legible.readsAs (by decide) fun _ => out.decode_ofJson
  · intro s
    exact s.toJson_simple.readsAs (by decide) fun _ => s.decode_reads
  · intro t
    exact (Json.optional_object_simple _ _).readsAs (by decide) fun _ => t.decode_reads
  · intro a
    exact a.toJson_simple.readsAs (by decide) fun _ => a.decode_reads
  · intro r
    exact (Json.optional_object_simple _ _).readsAs (by decide) fun _ => r.decode_reads
  · intro r
    exact r.toJson_simple.readsAs (by decide) fun _ => r.decode_reads
  · intro c hc
    exact (Json.Simple.text (n := 0) c.name).readsAs (by decide) fun _ =>
      Condition.decode_reads hc.named

/-- The report of a run that was resumed, got as far as another wait and broke off. -/
def brokenOff : Report where
  flowId := "pizza"
  outcome := .failed "could not deliver reply: \"quota\" exhausted\n"
  resumed := true
  records :=
    [⟨"menu", .aiRouter, .epoch, .epoch, .continued⟩, ⟨"w", .waitForInput, .epoch, .epoch, .suspended⟩,
      ⟨"bill", .action, .epoch, .epoch, .failed⟩]
  replies := 1
  elapsedMs := 18446744073709551615

theorem brokenOff_wire :
    (brokenOff.replies < Number.wordLimit ∧ brokenOff.elapsedMs < Number.wordLimit ∧
      brokenOff.toJson.ReadsAs Report.decode brokenOff) ∧
    Condition.Made (.unknown " is_VIP ") ∧
      (Json.text " is_VIP ").ReadsAs Condition.decode (.unknown " is_VIP ") := by
  obtain ⟨-, hreport, -, -, -, -, -, -, -, hcondition⟩ := wire_roundtrip .epoch
  have hreplies : brokenOff.replies < Number.wordLimit := by decide
  have helapsed : brokenOff.elapsedMs < Number.wordLimit := by decide
  have hmade : Condition.Made (.unknown " is_VIP ") :=
    .decoded (o := .text) (d := .text " is_VIP ") (by decide)
  exact ⟨⟨hreplies, helapsed, hreport _ hreplies helapsed⟩, hmade, hcondition _ hmade⟩

/-- A condition that is called unknown, but has a known name, is neither decoded nor built. -/
example : Condition.decode .value (.text (Condition.unknown "HAS_TAG ").name) = .ok .hasTag := by
  decide

end Dialogue
