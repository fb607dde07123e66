/-
What an editor keeps in the files of its flows does not change them. Members with unknown names may
stand in a flow, in its nodes and in their data, in the options of its routers and in its edges
(`Flow.Same`): such flows are decoded as one, or fail for the same reason (`extras_unseen`). What a
node may have as data depends on its type, so two nodes are the same by the type that the first of
them is read with.
-/
import Dialogue.Flow.Decode
import Dialogue.Json.Reader
import Dialogue.Proofs.Document.Likeness

namespace Dialogue

/-! ## Fields with values that differ inside -/

namespace Json

/-- Values that are the same, but for some names that have their own relation. -/
def Within (inner : List (String × (Json → Json → Prop))) (name : String) (j j' : Json) : Prop :=
  match inner.lookup name with
  | some R => R j j'
  | none => j = j'

variable {inner : List (String × (Json → Json → Prop))} {name : String} {R : Json → Json → Prop}

theorem within_of_none (h : inner.lookup name = none) : Within inner name = Eq := by
  funext j j'
  rw [Within, h]

theorem within_of_some (h : inner.lookup name = some R) : Within inner name = R := by
  funext j j'
  rw [Within, h]

theorem within_refl (h : ∀ p ∈ inner, ∀ j, p.2 j j) (name : String) (j : Json) :
    Within inner name j j := by
  cases hl : inner.lookup name with
  | none => rw [within_of_none hl]
  | some R =>
    rw [within_of_some hl]
    obtain ⟨front, back, rfl, -⟩ := List.lookup_eq_some_iff.1 hl
    exact h (name, R) (by simp) j

theorem Within.merged (h : ∀ p ∈ inner, ∀ j j', p.2 j j' → p.2 j.merged j'.merged) (name : String)
    (j j' : Json) (hj : Within inner name j j') : Within inner name j.merged j'.merged := by
  cases hl : inner.lookup name with
  | none =>
    rw [within_of_none hl] at hj ⊢
    rw [hj]
  | some R =>
    rw [within_of_some hl] at hj ⊢
    obtain ⟨front, back, rfl, -⟩ := List.lookup_eq_some_iff.1 hl
    exact h (name, R) (by simp) j j' hj

end Json

/-! ## Parts of flows -/

open Json

/-- Router options with the same fields. -/
def Choice.Same : Json → Json → Prop :=
  SameFields ["label", "description"] (Within [])

/-- Data that are the same for nodes of a type. -/
def NodeType.SameData : NodeType → Json → Json → Prop
  | .trigger => SameFields ["keyword"] (Within [])
  | .action => SameFields ["message"] (Within [])
  | .logic => SameFields ["condition", "tag"] (Within [])
  | .ai => SameFields ["prompt"] (Within [])
  | .aiRouter => SameFields ["options", "prompt"] (Within [("options", SameList Choice.Same)])
  | .waitForInput => fun _ _ => True

/-- Data that are the same for a node, by the type that it is read with. -/
def Node.SameData (v d d' : Json) : Prop :=
  ∀ n, decodeValue NodeForm.decode v = .ok n → n.type.SameData d d'

/-- Nodes with the same fields. -/
def Node.Same (v v' : Json) : Prop :=
  SameFields ["id", "type", "data"] (Within [("data", Node.SameData v)]) v v'

/-- Edges with the same fields. -/
def Edge.Same : Json → Json → Prop :=
  SameFields ["id", "source", "target", "label", "sourceHandle"] (Within [])

/-- Flows with the same fields. -/
def Flow.Same : Json → Json → Prop :=
  SameFields ["id", "name", "description", "isActive", "tenantId", "nodes", "edges", "createdAt",
      "updatedAt"]
    (Within [("nodes", SameList Node.Same), ("edges", SameList Edge.Same)])

variable {o : Origin}

theorem Decoder.within_blind {α : Type} {f : Decoder α}
    {inner : List (String × (Json → Json → Prop))} {name : String} {R : Json → Json → Prop}
    (h : inner.lookup name = some R) (hf : f.Blind o R) : f.Blind o (Within inner name) := by
  rw [within_of_some h]
  exact hf

theorem Decoder.plain_blind {α : Type} (f : Decoder α)
    {inner : List (String × (Json → Json → Prop))} {name : String}
    (h : inner.lookup name = none) : f.Blind o (Within inner name) := by
  rw [within_of_none h]
  exact f.blind_eq o

theorem Choice.decode_blind : Choice.decode.Blind o Choice.Same := by
  refine Shape.Blind.decoder (R := Within []) ?_ (within_refl (by simp)) _
  exact ⟨⟨trivial, Decoder.plain_blind _ rfl⟩, Decoder.plain_blind _ rfl⟩

theorem Edge.decode_blind : Edge.decode.Blind o Edge.Same := by
  refine Shape.Blind.decoder (R := Within []) ?_ (within_refl (by simp)) _
  exact ⟨⟨⟨⟨⟨trivial, Decoder.plain_blind _ rfl⟩, Decoder.plain_blind _ rfl⟩,
    Decoder.plain_blind _ rfl⟩, Decoder.plain_blind _ rfl⟩, Decoder.plain_blind _ rfl⟩

theorem Choice.same_merged {j j' : Json} (h : Choice.Same j j') :
    Choice.Same j.merged j'.merged :=
  h.merged (Within.merged (by simp))

/-! ## Nodes -/

namespace NodeType

variable {t : NodeType} {d d' : Json}

theorem SameData.refl (t : NodeType) (d : Json) : t.SameData d d := by
  cases t with
  | waitForInput => trivial
  | _ => exact .same d

theorem SameData.merged (h : t.SameData d d') : t.SameData d.merged d'.merged := by
  cases t with
  | waitForInput => trivial
  | aiRouter =>
    refine SameFields.merged (Within.merged ?_) h
    rintro p hp j j' hj
    obtain rfl := List.mem_singleton.1 hp
    exact SameList.merged (R := Choice.Same) (fun _ _ => Choice.same_merged) hj
  | _ => exact SameFields.merged (Within.merged (by simp)) h

end NodeType

theorem Node.SameData.refl (v d : Json) : Node.SameData v d d :=
  fun n _ => NodeType.SameData.refl n.type d

/-- Data with the same fields give the same, also where null stands for no data. -/
theorem NodeForm.dataDoc_blind {α : Type} {f : Decoder α} {names : List String}
    {R : String → Json → Json → Prop} (hf : f.Blind .value (SameFields names R)) (n : NodeForm)
    {d d' : Json} (h : SameFields names R d d') :
    f .value { n with data := d }.dataDoc = f .value { n with data := d' }.dataDoc := by
  cases h with
  | same => rfl
  | members h => exact hf _ _ (.members h)
  | items h => exact hf _ _ (.items h)

theorem singleText_blind (recordName fieldName : String) :
    (singleText recordName fieldName).Blind o (SameFields [fieldName] (Within [])) := by
  refine Shape.Blind.decoder (R := Within []) ?_ (within_refl (by simp)) _
  exact ⟨trivial, Decoder.plain_blind _ rfl⟩

theorem Logic.decode_blind :
    Logic.decode.Blind o (SameFields ["condition", "tag"] (Within [])) := by
  refine Shape.Blind.decoder (R := Within []) ?_ (within_refl (by simp)) _
  exact ⟨⟨trivial, Decoder.plain_blind _ rfl⟩, Decoder.plain_blind _ rfl⟩

theorem Router.decode_blind :
    Router.decode.Blind o
      (SameFields ["options", "prompt"] (Within [("options", SameList Choice.Same)])) := by
  refine Shape.Blind.decoder (R := Within [("options", SameList Choice.Same)]) ?_
    (within_refl (by simp [SameList.same])) _
  exact ⟨⟨trivial, Decoder.within_blind rfl (Decoder.list_blind Choice.decode_blind)⟩,
    Decoder.plain_blind _ rfl⟩

theorem NodeRole.decode_blind (n : NodeForm) {t : NodeType} {d d' : Json} (h : t.SameData d d') :
    NodeRole.decode t { n with data := d }.dataDoc =
      NodeRole.decode t { n with data := d' }.dataDoc := by
  cases t with
  | trigger => rw [decode, decode, n.dataDoc_blind (singleText_blind _ _) h]
  | action => rw [decode, decode, n.dataDoc_blind (singleText_blind _ _) h]
  | logic => rw [decode, decode, n.dataDoc_blind Logic.decode_blind h]
  | ai => rw [decode, decode, n.dataDoc_blind (singleText_blind _ _) h]
  | aiRouter => rw [decode, decode, n.dataDoc_blind Router.decode_blind h]
  | waitForInput => rfl

/-- Raw nodes that stand for the same node. -/
def NodeForm.Same (n n' : NodeForm) : Prop :=
  n.id = n'.id ∧ n.type = n'.type ∧
    NodeRole.decode n.type n.dataDoc = NodeRole.decode n'.type n'.dataDoc

theorem NodeForm.Same.toNode_eq {n n' : NodeForm} (h : n.Same n') : n.toNode = n'.toNode := by
  obtain ⟨hid, -, hrole⟩ := h
  rw [NodeForm.toNode, NodeForm.toNode, hrole, hid]

theorem Node.decode_blind : Node.decode.Blind .value Node.Same := by
  intro v v' h
  -- data that the first node is read with and data like them have to give the same role
  let Q : Json → Json → Prop := fun d d' =>
    ∀ n, decodeValue NodeForm.decode v = .ok n →
      NodeRole.decode n.type { n with data := d }.dataDoc =
        NodeRole.decode n.type { n with data := d' }.dataDoc
  have hforms : Decoded.Alike (fun n n' => n.id = n'.id ∧ n.type = n'.type ∧ Q n.data n'.data)
      (NodeForm.decode .value (.ofJson v)) (NodeForm.decode .value (.ofJson v')) := by
    refine Shape.Alike.decoder (.field (Q := Q) (.blind (.blind (.build ?_) ?_) ?_) rfl ?_ ?_)
      (within_refl ?_) _ h
    · exact fun id type d d' hd => ⟨rfl, rfl, hd⟩
    · exact Decoder.plain_blind _ rfl
    · exact Decoder.plain_blind _ rfl
    · intro d d' hd
      rw [within_of_some rfl] at hd
      show Decoded.Alike Q (Doc.ofJson d).toJson (Doc.ofJson d').toJson
      rw [Doc.toJson_ofJson, Doc.toJson_ofJson]
      exact .ok fun n hn => NodeRole.decode_blind n (hd n hn).merged
    · exact .some fun n _ => rfl
    · simpa using Node.SameData.refl v
  refine Decoded.alike_eq.1 (hforms.given.bind ?_)
  rintro n n' ⟨hn, hid, htype, hdata⟩
  refine Decoded.alike_eq.2 (NodeForm.Same.toNode_eq ⟨hid, htype, ?_⟩)
  rw [← htype]
  exact hdata n hn

/-- Data that a node may as well do without: nothing, or anything if the node waits for input. -/
def Node.NoData (v d : Json) : Prop :=
  d = .null ∨ d = .object [] ∨ ∀ n, decodeValue NodeForm.decode v = .ok n → n.type = .waitForInput

theorem Node.NoData.role {v d : Json} (h : NoData v d) {n n' : NodeForm}
    (hn : decodeValue NodeForm.decode v = .ok n) (hdata : n.data = .null) (hdata' : n'.data = d.merged)
    (htype : n.type = n'.type) :
    NodeRole.decode n.type n.dataDoc = NodeRole.decode n'.type n'.dataDoc := by
  obtain ⟨id, type, data⟩ := n
  obtain ⟨id', type', data'⟩ := n'
  cases hdata
  cases hdata'
  cases htype
  rcases h with rfl | rfl | h
  · rfl
  · rfl
  · obtain rfl : type = .waitForInput := h _ hn
    rfl

theorem Node.decode_noData {front back : List (String × Json)} {d : Json}
    (hn : "data" ∉ (front ++ back).map (·.1)) (h : NoData (.object (front ++ back)) d) :
    decodeValue Node.decode (.object (front ++ back)) =
      decodeValue Node.decode (.object (front ++ ("data", d) :: back)) := by
  have hforms : Decoded.Alike
      (fun n n' => n.id = n'.id ∧ n.type = n'.type ∧ n.data = .null ∧ n'.data = d.merged)
      (NodeForm.decode .value (.ofJson (.object (front ++ back))))
      (NodeForm.decode .value (.ofJson (.object (front ++ ("data", d) :: back)))) := by
    refine Shape.Alike.decoder_given (Q := fun b b' => b = .null ∧ b' = d.merged)
      (.blind (.blind (.build ?_) (Decoder.blind_eq _ _)) (Decoder.blind_eq _ _)) _ hn rfl
      (Doc.toJson_ofJson d) ⟨rfl, rfl⟩
    exact fun id type b b' hb => ⟨rfl, rfl, hb⟩
  refine Decoded.alike_eq.1 (hforms.given.bind ?_)
  rintro n n' ⟨hn, hid, htype, hdata, hdata'⟩
  exact Decoded.alike_eq.2 (NodeForm.Same.toNode_eq ⟨hid, htype, h.role hn hdata hdata' htype⟩)

/-! ## Flows -/

namespace Flow

/-- Times that are the same, or those that stand for a time that was not given. -/
def SameTime (now now' i i' : Instant) : Prop :=
  i = i' ∨ i = now ∧ i' = now'

/-- Flows that are the same but for times that were not given. -/
def SameButTimes (now now' : Instant) (f f' : Flow) : Prop :=
  f' = { f with createdAt := f'.createdAt, updatedAt := f'.updatedAt } ∧
    SameTime now now' f.createdAt f'.createdAt ∧ SameTime now now' f.updatedAt f'.updatedAt

theorem SameTime.eq {now i i' : Instant} (h : SameTime now now i i') : i = i' := by
  rcases h with h | ⟨h, h'⟩
  · exact h
  · exact h.trans h'.symm

theorem SameButTimes.eq {now : Instant} {f f' : Flow} (h : SameButTimes now now f f') : f = f' := by
  obtain ⟨hf, hc, hu⟩ := h
  rw [hf, ← hc.eq, ← hu.eq]

theorem decode_same {v v' : Json} (h : Flow.Same v v') (now now' : Instant) :
    Decoded.Alike (SameButTimes now now') (decodeValue (Flow.decode now) v)
      (decodeValue (Flow.decode now') v') := by
  have hrefl : ∀ p ∈ [("nodes", SameList Node.Same), ("edges", SameList Edge.Same)],
      ∀ j, p.2 j j := by
    simp [SameList.same]
  unfold decodeValue Flow.decode
  refine Shape.Alike.decoder ?_ (within_refl hrefl) _ h
  -- the two shapes differ in the defaults of the two times alone
  refine .field (Q := SameTime now now') (.field (Q := SameTime now now')
    (.blind (.blind (.blind (.blind (.blind (.blind (.blind (.build ?_)
      (Decoder.plain_blind _ rfl)) (Decoder.plain_blind _ rfl)) (Decoder.plain_blind _ rfl))
      (Decoder.plain_blind _ rfl)) (Decoder.plain_blind _ rfl))
      (Decoder.within_blind rfl (Decoder.list_blind Node.decode_blind)))
      (Decoder.within_blind rfl (Decoder.list_blind Edge.decode_blind)))
    rfl ?_ (.some (.inr ⟨rfl, rfl⟩))) rfl ?_ (.some (.inr ⟨rfl, rfl⟩))
  · intro id name description isActive tenantId nodes edges c c' hc u u' hu
    exact ⟨rfl, hc, hu⟩
  · rintro j _ rfl
    exact .refl (fun _ => .inl rfl) _
  · rintro j _ rfl
    exact .refl (fun _ => .inl rfl) _

/-- Two values with the same fields, one of which may have members with unknown names wherever it has
a flow, a node, the data of one, a router option or an edge, are decoded as the same flow or fail for
the same reason. If they are decoded at different times, the two flows may differ in times that neither
value gives. A node is the same without data, with null and with an empty object, and one that waits
for input is the same with any data. -/
theorem extras_unseen {v v' : Json} (h : Flow.Same v v') :
    (∀ now, decodeValue (Flow.decode now) v = decodeValue (Flow.decode now) v') ∧
    (∀ now now', Decoded.Alike
      (fun f f' => f' = { f with createdAt := f'.createdAt, updatedAt := f'.updatedAt } ∧
        (f.createdAt = f'.createdAt ∨ f.createdAt = now ∧ f'.createdAt = now') ∧
        (f.updatedAt = f'.updatedAt ∨ f.updatedAt = now ∧ f'.updatedAt = now'))
      (decodeValue (Flow.decode now) v) (decodeValue (Flow.decode now') v')) ∧
    ∀ (front back : List (String × Json)) (d : Json), "data" ∉ (front ++ back).map (·.1) →
      (d = .null ∨ d = .object [] ∨
        ∀ n, decodeValue NodeForm.decode (.object (front ++ back)) = .ok n → n.type = .waitForInput) →
      decodeValue Node.decode (.object (front ++ ("data", d) :: back)) =
        decodeValue Node.decode (.object (front ++ back)) := by
  refine ⟨fun now => ?_, decode_same h, fun front back d hn hd => (Node.decode_noData hn hd).symm⟩
  exact Decoded.alike_eq.1 ((decode_same h now now).imp fun f f' => SameButTimes.eq)

/-- A flow as it may be written by hand, or by an editor that keeps members of its own in it. -/
def greetingJson (extra : List (String × Json)) : Json :=
  let keyword := .object ([] ++ extra ++ [("keyword", .text "hi")])
  let choice := .object ([] ++ extra ++ [("label", .text "yes")])
  let options := .object ([] ++ extra ++ [("options", .array [choice])])
  let trigger := .object ([("id", .text "t")] ++ extra ++
    [("type", .text "trigger"), ("data", keyword)])
  let router := .object ([("id", .text "r")] ++ extra ++
    [("type", .text "ai_router"), ("data", options)])
  let edge := .object ([("id", .text "e")] ++ extra ++ [("source", .text "t"), ("target", .text "r")])
  .object ([("id", .text "f"), ("name", .text "F")] ++ extra ++
    [("nodes", .array [trigger, router]), ("edges", .array [edge])])

theorem greeting_unseen :
    let extra : List (String × Json) := [("executing", .bool true), ("position", .array [.null])]
    Flow.Same (greetingJson []) (greetingJson extra) ∧
      ∃ f, decodeValue (Flow.decode .epoch) (greetingJson []) = .ok f ∧
        decodeValue (Flow.decode .epoch) (greetingJson extra) = .ok f := by
  intro extra
  have plain : ∀ {inner : List (String × (Json → Json → Prop))} (h : ∀ p ∈ inner, ∀ j, p.2 j j)
      (ms : List (String × Json)), SameMembers (Within inner) ms ms :=
    fun h => .refl (within_refl h)
  have hsame : Flow.Same (greetingJson []) (greetingJson extra) := by
    have hdata : ∀ v : Json, ∀ p ∈ [("data", Node.SameData v)], ∀ j, p.2 j j := by
      simpa using Node.SameData.refl
    have hnil : ∀ p ∈ ([] : List (String × (Json → Json → Prop))), ∀ j, p.2 j j := by simp
    refine SameFields.insert (plain (by simp [SameList.same]) _) (by decide) ?_
    refine .cons ⟨rfl, .items (.cons ?_ (.cons ?_ .nil))⟩ (.cons ⟨rfl, .items (.cons ?_ .nil)⟩ .nil)
    · refine SameFields.insert (plain (hdata _) _) (by decide)
        (.cons ⟨rfl, rfl⟩ (.cons ⟨rfl, fun n hn => ?_⟩ .nil))
      cases hn
      exact SameFields.insert (plain hnil _) (by decide) (plain hnil _)
    · refine SameFields.insert (plain (hdata _) _) (by decide)
        (.cons ⟨rfl, rfl⟩ (.cons ⟨rfl, fun n hn => ?_⟩ .nil))
      cases hn
      refine SameFields.insert .nil (by decide) (.cons ⟨rfl, .items (.cons ?_ .nil)⟩ .nil)
      exact SameFields.insert (plain hnil _) (by decide) (plain hnil _)
    · exact SameFields.insert (plain hnil _) (by decide) (plain hnil _)
  refine ⟨hsame, ?_⟩
  obtain ⟨heq, -, -⟩ := extras_unseen hsame
  have hok : (decodeValue (Flow.decode .epoch) (greetingJson [])).isOk = true := by
    decide +kernel
  cases hf : decodeValue (Flow.decode .epoch) (greetingJson []) with
  | error e => rw [hf] at hok; cases hok
  | ok f => exact ⟨f, rfl, (heq .epoch).symm.trans hf⟩

end Flow

end Dialogue
