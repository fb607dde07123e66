/-
What a message does to the suspensions of other senders, at a desk that started empty. Whatever is
kept under another key stays as it is, and a run that is resumed carries ids with the sender's own
key (`message_isolated`). Senders whose ids read the same once they are joined are one sender to the
desk: a message of one uses up the suspension of the other (`colon_confuses_senders`).
-/
import Dialogue.Proofs.Routing.Desk

namespace Dialogue

/-- What can happen to suspensions by a message of another sender, after any events at a desk that
started empty. Under another key than that of the message's sender nothing changes; under the same
key both senders have the same suspension, before and after. A run that is resumed goes on behind a
suspension in its flow that carries ids with the sender's key, which are the sender's own where no
colon is in a tenant's id. Two senders have one key exactly if they are the same, or the tenant of
one is that of the other, a colon and the beginning of the other's user up to a colon. -/
theorem message_isolated (es : List Desk.Event) (v : Visit) (t u : String) :
    let d := (({} : Desk).run es).2
    let x := (d.handle (.message v)).1
    let d' := (d.handle (.message v)).2
    (storeKey t u ≠ v.key → d'.store.peek t u = d.store.peek t u) ∧
    (storeKey t u = v.key →
      d.store.peek t u = v.entry d.store ∧ d'.store.peek t u = v.entry d'.store) ∧
    (∀ rep, x.report = some rep → rep.resumed = true → ∃ st, v.entry d.store = some st ∧
      st.flowId = rep.flowId ∧ storeKey st.tenantId st.userId = v.key ∧
      (':' ∉ st.tenantId.toList → ':' ∉ v.context.message.tenantId.toList →
        st.tenantId = v.context.message.tenantId ∧ st.userId = v.context.message.userId)) ∧
    (storeKey t u = v.key ↔
      (t = v.context.message.tenantId ∧ u = v.context.message.userId) ∨
      (∃ m, v.context.message.tenantId = t ++ ":" ++ m ∧ u = m ++ ":" ++ v.context.message.userId) ∨
      ∃ m, t = v.context.message.tenantId ++ ":" ++ m ∧ v.context.message.userId = m ++ ":" ++ u) := by
  intro d x d'
  have hw : d.store.Works := Desk.run_induction (P := (·.store.Works)) Desk.handle_works ⟨rfl, rfl⟩ es
  have hf : d.store.Filed := Desk.run_induction (P := (·.store.Filed)) Desk.handle_filed .empty es
  refine ⟨fun hk => ?_, fun hk => ?_, fun rep hx hres => ?_, storeKey_eq_iff⟩
  · have hag : d.store.AgreeAt (storeKey t u) d'.store := v.process_frame d.registry hk d.store
    exact hag.peek_eq.symm
  · have hsame : ∀ s : SuspensionStore, s.peek t u = v.entry s := fun s =>
      SuspensionStore.peek_of_key_eq hk s
    exact ⟨hsame _, hsame _⟩
  · obtain ⟨st, he, hid, -⟩ := (process_resumed (r := d.registry) (p := v.partners)
      (s := { store := d.store }) hw rep.flowId).1 ⟨rep, hx, rfl, hres⟩
    exact ⟨st, he, hid, hf.peek he, fun ht ht' => storeKey_inj ht ht' (hf.peek he)⟩

/-- `survey` as a flow of some tenant. -/
def surveyOf (tenantId : String) : Flow :=
  { survey with tenantId }

/-- A text of some sender, every reply to which is delivered. -/
def visitOf (tenantId userId body : String) : Visit where
  context := { sayGo with message := ⟨body, ⟨userId, []⟩, tenantId, none⟩ }
  partners := attentive

/-- A desk at which user `b:c` of tenant `a` is parked at `w`. -/
def parkedDesk : Desk :=
  (Desk.run ⟨.empty, {}⟩ [.register (surveyOf "a"), .message (visitOf "a" "b:c" "go")]).2

/-- The suspension of that user stays when user `c` of tenant `a` writes. -/
theorem parkedDesk_isolated : storeKey "a" "b:c" ≠ (visitOf "a" "c" "hello").key ∧
    ((parkedDesk.handle (.message (visitOf "a" "c" "hello"))).2.store.peek "a" "b:c").isSome =
      true := by
  have hk : storeKey "a" "b:c" ≠ (visitOf "a" "c" "hello").key := by cbv
  refine ⟨hk, ?_⟩
  have h := (message_isolated [.register (surveyOf "a"), .message (visitOf "a" "b:c" "go")]
    (visitOf "a" "c" "hello") "a" "b:c").1 hk
  exact (congrArg Option.isSome h).trans (by cbv)

/-- It does not stay when user `c` of tenant `a:b` writes, who is somebody else: the suspension is
discarded, or, where `survey` has passed on to tenant `a:b`, the run goes on with the ids of the
other sender. -/
theorem colon_confuses_senders : ("a:b", "c") ≠ ("a", "b:c") ∧
    parkedDesk.store.peek "a" "b:c" = some ⟨"survey", "w", "a", "b:c", .epoch⟩ ∧
    (parkedDesk.handle (.message (visitOf "a:b" "c" "hello"))).2.store.peek "a" "b:c" = none ∧
    ((parkedDesk.run [.register (surveyOf "a:b"), .message (visitOf "a:b" "c" "hello")]).1.map
      fun x => x.report.map (·.resumed)) = [none, some true] ∧
    (visitOf "a:b" "c" "hello").entry (parkedDesk.run [.register (surveyOf "a:b")]).2.store =
      some ⟨"survey", "w", "a", "b:c", .epoch⟩ := by
  refine ⟨by decide, by cbv, by cbv, by cbv, by cbv⟩

end Dialogue
