/-
What one sender gets out of a run at a desk, and what it depends on. Of everything that happens there
only the messages under the sender's own key count, and the coming and going of flows with an id that
some flow of those tenants has whose messages stand under that key (`seenBy_filter`).

The invariant relates the desk of the whole run to that of the events that count: the stores agree
under the key, the registries agree on the ids, and no other id belongs to one of the tenants
(`Abreast`). Where all messages under the key are of one tenant, as they are if no tenant's id has a
colon, only that tenant's flows count (`senders_apart`). Otherwise the flows of another tenant may
decide what a sender gets (`colon_lets_flows_in`).
-/
import Dialogue.Proofs.Routing.Isolation

namespace Dialogue

/-- A second flow of some tenant, which comes before `survey`. -/
def pollOf (tenantId : String) : Flow :=
  { survey with id := "poll", tenantId }

namespace Desk

/-! ## What counts for a sender -/

/-- The message that an event deals with. -/
def Event.visit? : Event → Option Visit
  | .message v | .execute _ v => some v
  | _ => none

/-- The tenants whose messages are routed under a key. -/
def tenantsUnder (key : String) (es : List Event) : List String :=
  es.filterMap fun
    | .message v => if v.key = key then some v.context.message.tenantId else none
    | _ => none

/-- The flows that there are at some time: those of the desk, and those that are registered. -/
def flowsOver (d : Desk) (es : List Event) : List Flow :=
  d.registry.flows.values ++ es.filterMap fun
    | .register f => some f
    | _ => none

/-- The ids that flows of these tenants have at some time. -/
def idsOver (d : Desk) (tenants : List String) (es : List Event) : List String :=
  ((d.flowsOver es).filter fun f => tenants.contains f.tenantId).map (·.id)

/-- Whether an event is a message under the key, or the coming or going of a flow with one of the
ids. -/
def Event.counts (key : String) (ids : List String) : Event → Bool
  | .register f => ids.contains f.id
  | .remove id => ids.contains id
  | .message v | .execute _ v => v.key == key

/-- Whether an event is a message of that user of the tenant. -/
def Event.isOf (t u : String) (e : Event) : Bool :=
  e.visit?.any fun v => v.context.message.tenantId == t && v.context.message.userId == u

/-- What a sender gets of a run: for each message of his what came of it, and his suspension
afterwards. -/
def seenBy (t u : String) (d : Desk) : List Event → List (Exchange × Option Suspension)
  | [] => []
  | e :: es =>
    let (x, d) := d.handle e
    if e.isOf t u then (x, d.store.peek t u) :: seenBy t u d es else seenBy t u d es

/-! ## Two desks that come to the same for a sender -/

/-- Two desks that cannot be told apart by messages under the key that are of these tenants. -/
structure Abreast (key : String) (tenants ids : List String) (d d' : Desk) : Prop where
  store : d.store.AgreeAt key d'.store
  flow : ∀ id ∈ ids, d.registry.flow? id = d'.registry.flow? id
  left : ∀ id f, d.registry.flow? id = some f → f.tenantId ∈ tenants → id ∈ ids
  right : ∀ id f, d'.registry.flow? id = some f → f.tenantId ∈ tenants → id ∈ ids

variable {key t u : String} {tenants ids : List String} {d d' : Desk}

namespace Abreast

theorem activeFlows_eq (h : Abreast key tenants ids d d') {t : String} (ht : t ∈ tenants) :
    d.registry.activeFlows t = d'.registry.activeFlows t := by
  refine Registry.activeFlows_congr fun f hf => ?_
  rw [← hf] at ht
  constructor
  · intro hd
    rw [← h.flow f.id (h.left f.id f hd ht)]
    exact hd
  · intro hd
    rw [h.flow f.id (h.right f.id f hd ht)]
    exact hd

/-- An event that does not count changes nothing that does. -/
theorem pass (h : Abreast key tenants ids d d') {e : Event} (he : e.counts key ids = false)
    (hreg : ∀ f, e = .register f → f.tenantId ∈ tenants → f.id ∈ ids) :
    Abreast key tenants ids (d.handle e).2 d' := by
  cases e with
  | register f =>
    have hf : f.id ∉ ids := by simpa [Event.counts] using he
    refine ⟨h.store, fun id hid => ?_, fun id g hg ht => ?_, h.right⟩
    · show (d.registry.register f).flow? id = _
      rw [Registry.flow?_register, if_neg (fun hi : id = f.id => hf (hi ▸ hid)), h.flow id hid]
    · change (d.registry.register f).flow? id = some g at hg
      rw [Registry.flow?_register] at hg
      split at hg
      · cases hg
        exact absurd (hreg f rfl ht) hf
      · exact h.left id g hg ht
  | remove gone =>
    have hgone : gone ∉ ids := by simpa [Event.counts] using he
    refine ⟨h.store, fun id hid => ?_, fun id g hg ht => ?_, h.right⟩
    · show (d.registry.remove gone).flow? id = _
      rw [Registry.flow?_remove, if_neg (fun hi : id = gone => hgone (hi ▸ hid)), h.flow id hid]
    · change (d.registry.remove gone).flow? id = some g at hg
      rw [Registry.flow?_remove] at hg
      split at hg
      · cases hg
      · exact h.left id g hg ht
  | message v =>
    have hk : key ≠ v.key := fun hk => by simp [Event.counts, hk] at he
    have hs : d.store.AgreeAt key (d.handle (.message v)).2.store :=
      v.process_frame d.registry hk d.store
    exact ⟨hs.symm.trans h.store, h.flow, h.left, h.right⟩
  | execute f v =>
    have hk : key ≠ v.key := fun hk => by simp [Event.counts, hk] at he
    have hs : d.store.AgreeAt key (d.handle (.execute f v)).2.store :=
      v.receive_frame f hk d.store
    exact ⟨hs.symm.trans h.store, h.flow, h.left, h.right⟩

/-- An event that counts comes to the same at both desks. -/
theorem step (h : Abreast key tenants ids d d') {e : Event} (he : e.counts key ids = true)
    (hmsg : ∀ v, e = .message v → v.context.message.tenantId ∈ tenants) :
    (d.handle e).1 = (d'.handle e).1 ∧ Abreast key tenants ids (d.handle e).2 (d'.handle e).2 := by
  cases e with
  | register f =>
    have hf : f.id ∈ ids := by simpa [Event.counts] using he
    have hown : ∀ {r : Registry}, (∀ id g, r.flow? id = some g → g.tenantId ∈ tenants → id ∈ ids) →
        ∀ id g, (r.register f).flow? id = some g → g.tenantId ∈ tenants → id ∈ ids := by
      intro r hr id g hg ht
      rw [Registry.flow?_register] at hg
      split at hg
      · rename_i hid
        rw [hid]
        exact hf
      · exact hr id g hg ht
    refine ⟨rfl, h.store, fun id hid => ?_, hown h.left, hown h.right⟩
    show (d.registry.register f).flow? id = (d'.registry.register f).flow? id
    rw [Registry.flow?_register, Registry.flow?_register, h.flow id hid]
  | remove gone =>
    have hown : ∀ {r : Registry}, (∀ id g, r.flow? id = some g → g.tenantId ∈ tenants → id ∈ ids) →
        ∀ id g, (r.remove gone).flow? id = some g → g.tenantId ∈ tenants → id ∈ ids := by
      intro r hr id g hg ht
      rw [Registry.flow?_remove] at hg
      split at hg
      · cases hg
      · exact hr id g hg ht
    refine ⟨rfl, h.store, fun id hid => ?_, hown h.left, hown h.right⟩
    show (d.registry.remove gone).flow? id = (d'.registry.remove gone).flow? id
    rw [Registry.flow?_remove, Registry.flow?_remove, h.flow id hid]
  | message v =>
    have hk : v.key = key := by simpa [Event.counts] using he
    -- the same flows are asked in the same order, and in stores that agree under the key
    have hflows := h.activeFlows_eq (hmsg v rfl)
    have hroute : v.process d.registry d'.store = v.process d'.registry d'.store := by
      unfold Visit.process Registry.process
      rw [hflows]
    obtain ⟨hx, hs⟩ := v.process_agree d.registry (t := d'.store) (by rw [hk]; exact h.store)
    rw [hroute] at hx hs
    rw [hk] at hs
    exact ⟨hx, hs, h.flow, h.left, h.right⟩
  | execute f v =>
    have hk : v.key = key := by simpa [Event.counts] using he
    obtain ⟨hx, hs⟩ := v.receive_agree f (t := d'.store) (by rw [hk]; exact h.store)
    rw [hk] at hs
    exact ⟨hx, hs, h.flow, h.left, h.right⟩

/-- A message of a sender counts under his key. -/
theorem counts_of_isOf {e : Event} (h : e.isOf t u = true) (ids : List String) :
    e.counts (storeKey t u) ids = true := by
  cases e with
  | register f => cases h
  | remove id => cases h
  | message v | execute f v =>
    simp only [Event.isOf, Event.visit?, Option.any_some, Bool.and_eq_true, beq_iff_eq] at h
    simp [Event.counts, Visit.key, h.1, h.2]

/-- A sender gets the same of a run as of the events that count, at desks that come to the same for
him. -/
theorem run (h : Abreast (storeKey t u) tenants ids d d') (es : List Event)
    (hmsg : ∀ v, .message v ∈ es → v.key = storeKey t u → v.context.message.tenantId ∈ tenants)
    (hreg : ∀ f, .register f ∈ es → f.tenantId ∈ tenants → f.id ∈ ids) :
    d.seenBy t u es = d'.seenBy t u (es.filter (·.counts (storeKey t u) ids)) := by
  induction es generalizing d d' with
  | nil => rfl
  | cons e es ih =>
    have hmsg' : ∀ v, .message v ∈ es → v.key = storeKey t u → v.context.message.tenantId ∈ tenants :=
      fun v hv => hmsg v (List.mem_cons_of_mem _ hv)
    have hreg' : ∀ f, .register f ∈ es → f.tenantId ∈ tenants → f.id ∈ ids :=
      fun f hf => hreg f (List.mem_cons_of_mem _ hf)
    cases he : e.counts (storeKey t u) ids with
    | false =>
      -- the event is left out, and was no message of the sender
      have hof : e.isOf t u = false := by
        cases hof : e.isOf t u with
        | false => rfl
        | true => cases (counts_of_isOf hof ids).symm.trans he
      have hpass := h.pass he fun f hf => hreg f (hf ▸ List.mem_cons_self ..)
      rw [List.filter_cons_of_neg (by simp [he])]
      simp only [seenBy, hof, Bool.false_eq_true, if_false]
      exact ih hpass hmsg' hreg'
    | true =>
      obtain ⟨hx, hstep⟩ := h.step he fun v hv => by
        subst hv
        exact hmsg v (List.mem_cons_self ..) (by simpa [Event.counts] using he)
      rw [List.filter_cons_of_pos he]
      simp only [seenBy, hx, hstep.store.peek_eq, ih hstep hmsg' hreg']

end Abreast

/-! ## What a sender gets -/

theorem mem_idsOver {es : List Event} {f : Flow} (hf : f ∈ d.flowsOver es) (ht : f.tenantId ∈ tenants) :
    f.id ∈ d.idsOver tenants es :=
  List.mem_map.2 ⟨f, List.mem_filter.2 ⟨hf, by simpa using ht⟩, rfl⟩

/-- A sender gets the same of a run as of the events that count for the tenants whose messages stand
under his key. -/
theorem seenBy_filter (d : Desk) (es : List Event)
    (h : ∀ v, .message v ∈ es → v.key = storeKey t u → v.context.message.tenantId ∈ tenants) :
    d.seenBy t u es =
      d.seenBy t u (es.filter (·.counts (storeKey t u) (d.idsOver tenants es))) := by
  have hown : ∀ id f, d.registry.flow? id = some f → f.tenantId ∈ tenants →
      id ∈ d.idsOver tenants es := by
    intro id f hf ht
    rw [← Registry.id_of_flow? hf]
    refine mem_idsOver (List.mem_append_left _ ?_) ht
    exact List.mem_map.2 ⟨_, Table.mem_of_get? hf, rfl⟩
  have hsame : Abreast (storeKey t u) tenants (d.idsOver tenants es) d d :=
    ⟨.refl _ _, fun _ _ => rfl, hown, hown⟩
  refine hsame.run es h fun f hf ht => mem_idsOver (List.mem_append_right _ ?_) ht
  exact List.mem_filterMap.2 ⟨_, hf, rfl⟩

theorem mem_tenantsUnder {es : List Event} {v : Visit} (h : .message v ∈ es) (hk : v.key = key) :
    v.context.message.tenantId ∈ tenantsUnder key es :=
  List.mem_filterMap.2 ⟨_, h, if_pos hk⟩

/-- Senders and the flows of others. What a sender gets of a run, message by message, and his
suspension after each, is what he gets of those events only that are messages under his key, or the
coming or going of a flow with an id that, at some time, a flow of a tenant has whose messages stand
under his key. If all messages under his key are of his own tenant, that is an id of a flow of his
tenant. They are if there is no colon in the id of his tenant and in those of the others. -/
theorem senders_apart (d : Desk) (es : List Event) (t u : String) :
    d.seenBy t u es = d.seenBy t u (es.filter (·.counts (storeKey t u)
      (d.idsOver (tenantsUnder (storeKey t u) es) es))) ∧
    ((∀ v, .message v ∈ es → v.key = storeKey t u → v.context.message.tenantId = t) →
      d.seenBy t u es =
        d.seenBy t u (es.filter (·.counts (storeKey t u) (d.idsOver [t] es)))) ∧
    (':' ∉ t.toList → (∀ v, .message v ∈ es → ':' ∉ v.context.message.tenantId.toList) →
      ∀ v, .message v ∈ es → v.key = storeKey t u → v.context.message.tenantId = t) := by
  refine ⟨seenBy_filter d es fun v hv hk => mem_tenantsUnder hv hk, fun h => ?_, fun ht hes v hv hk => ?_⟩
  · exact seenBy_filter d es fun v hv hk => List.mem_singleton.2 (h v hv hk)
  · exact (storeKey_inj (hes v hv) ht hk).1

/-- Two tenants without a colon in their ids: of the run, a sender of tenant `a` gets what he gets when
the flow and the message of tenant `b` are left out. He is parked by his first message, and goes on with
his second. -/
theorem neighbours_apart :
    let own : List Event := [.register (surveyOf "a"), .message (visitOf "a" "u" "go"),
      .message (visitOf "a" "u" "hi")]
    let es : List Event := [.register (surveyOf "a"), .register (pollOf "b"),
      .message (visitOf "a" "u" "go"), .message (visitOf "b" "u" "go"), .remove "poll",
      .message (visitOf "a" "u" "hi")]
    (∀ v, .message v ∈ es → v.key = storeKey "a" "u" → v.context.message.tenantId = "a") ∧
      es.filter (·.counts (storeKey "a" "u") (({} : Desk).idsOver ["a"] es)) = own ∧
      ({} : Desk).seenBy "a" "u" es = ({} : Desk).seenBy "a" "u" own ∧
      (({} : Desk).seenBy "a" "u" own).map (·.1.report.map (·.resumed)) = [some false, some true] := by
  intro own es
  have hone : ∀ v, .message v ∈ es → v.key = storeKey "a" "u" → v.context.message.tenantId = "a" := by
    refine (senders_apart {} es "a" "u").2.2 (by decide) fun v hv => ?_
    simp only [es, List.mem_cons, reduceCtorEq, Event.message.injEq, List.not_mem_nil, false_or,
      or_false] at hv
    rcases hv with rfl | rfl | rfl <;> decide
  have hown : es.filter (·.counts (storeKey "a" "u") (({} : Desk).idsOver ["a"] es)) = own := by cbv
  refine ⟨hone, hown, ?_, by cbv⟩
  have h := (senders_apart {} es "a" "u").2.1 hone
  rwa [hown] at h

/-- With a colon in the id of a tenant: user `b:c` of tenant `a` and user `c` of tenant `a:b` have one
key. Whether the first of them is answered hangs on a flow of the other's tenant, though no flow of his
own tenant has its id: without `poll` the other is parked in `survey`, and as soon as tenant `a` has a
flow of that name it goes on for him, who never wrote before. -/
theorem colon_lets_flows_in :
    let es : List Event := [.register (pollOf "a:b"), .register (surveyOf "a:b"),
      .message (visitOf "a:b" "c" "go"), .register (surveyOf "a"), .message (visitOf "a" "b:c" "hello")]
    let kept := es.filter (·.counts (storeKey "a" "b:c") (({} : Desk).idsOver ["a"] es))
    (({} : Desk).seenBy "a" "b:c" es).map (·.1.report.map (·.resumed)) = [none] ∧
      (({} : Desk).seenBy "a" "b:c" kept).map (·.1.report.map (·.resumed)) = [some true] ∧
      ({} : Desk).seenBy "a" "b:c" es ≠ ({} : Desk).seenBy "a" "b:c" kept := by
  intro es kept
  have hes : (({} : Desk).seenBy "a" "b:c" es).map (·.1.report.map (·.resumed)) = [none] := by cbv
  have hkept : (({} : Desk).seenBy "a" "b:c" kept).map (·.1.report.map (·.resumed)) = [some true] := by
    cbv
  refine ⟨hes, hkept, fun h => ?_⟩
  rw [h, hkept] at hes
  cases hes

end Desk

end Dialogue
