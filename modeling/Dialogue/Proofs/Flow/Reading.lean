/-
Flows are read from the values they are written as (`Flow.decode_reads`). Each part of a flow has a
lemma that its value is made of texts and truth values, and one that its decoder reads the value as
that part. Only the condition of a logic node asks for something: it has to be the one that its name
stands for. All flows that were decoded or built have such conditions, and no others (`made_iff`).
-/
import Dialogue.Flow.Decode
import Dialogue.Flow.Encode
import Dialogue.Proofs.Document.Reading
import Dialogue.Proofs.Instant.Readback

namespace Dialogue

variable {o : Origin}

/-! ## Small records -/

theorem Json.lookup_optional (name key : String) (x : Option String) :
    (Json.optional name x).lookup key = if key = name then x.map .text else none := by
  by_cases h : key = name
  · cases x <;> simp [Json.optional, h]
  · cases x <;> simp [Json.optional, List.lookup_cons, beq_false_of_ne h, h]

theorem Json.optional_simple {n : Nat} {name : String} {x : Option String} {m : String × Json}
    (h : m ∈ Json.optional name x) : m.2.Simple n := by
  cases x with
  | none => cases h
  | some s =>
    obtain rfl := List.mem_singleton.mp h
    exact .text s

/-- An object with one member, and a text that may be left out. -/
theorem Json.pair_simple {n : Nat} {key name : String} (h : key ≠ name) {j : Json}
    (hj : j.Simple n) (x : Option String) :
    (Json.object ((key, j) :: Json.optional name x)).Simple (n + 1) := by
  refine .object ?_ ?_
  · cases x <;> simp [Json.optional, h]
  · intro m hm
    rcases List.mem_cons.mp hm with rfl | hm
    · exact hj
    · exact Json.optional_simple hm

/-- A record of one field that is always written, and of a text that may be left out. -/
theorem Shape.pair_reads {α β : Type} {build : β → Option String → α}
    {key name recordName : String} (h : key ≠ name) {f : Decoder β} {default b : β} {j : Json}
    {n : Nat} (hj : j.Simple n) (hf : f.Reads o j b) (x : Option String) :
    ((Shape.build build |>.withDefault key f default |>.optional name .text).decoder
      recordName).Reads o (.object ((key, j) :: Json.optional name x)) (build b x) := by
  refine Shape.decoder_reads (Json.pair_simple h hj x) ?_ ?_ _
  · simp [Shape.names, Shape.withDefault, Shape.optional, Ne.symm h]
  · refine ((Shape.build_reads build).withDefault ?_ hf default).optional ?_
    · simp
    · simp [List.lookup_cons, beq_false_of_ne (Ne.symm h), Json.lookup_optional]

theorem Json.single_simple (n : Nat) (key s : String) :
    (Json.object [(key, .text s)]).Simple (n + 1) :=
  .object (by simp) (by simp [Json.Simple.text])

theorem singleText_reads (recordName fieldName s : String) :
    (singleText recordName fieldName).Reads o (.object [(fieldName, .text s)]) s := by
  refine Shape.decoder_reads (Json.single_simple 0 fieldName s) ?_ ?_ _
  · simp [Shape.names, Shape.withDefault]
  · exact (Shape.build_reads id).withDefault (by simp) (Decoder.text_reads s) _

/-! ## Instants, options and edges -/

theorem Instant.toJson_reads (i : Instant) : Decoder.instant.Reads o i.toJson i := by
  intro d h
  have hi := i.read_text
  obtain rfl | ⟨rfl, -⟩ := Doc.stands_text.mp h <;>
    simp [Decoder.instant, Doc.toInstant, Doc.toInstant.ofInstantText, hi]

theorem Choice.toJson_simple (n : Nat) (c : Choice) : c.toJson.Simple (n + 1) :=
  Json.pair_simple (by decide) (.text c.label) c.description

theorem Choice.decode_reads (c : Choice) : Choice.decode.Reads o c.toJson c :=
  Shape.pair_reads (by decide) (.text (n := 0) c.label) (Decoder.text_reads c.label) c.description

theorem Edge.toJson_simple (n : Nat) (e : Edge) : e.toJson.Simple (n + 1) := by
  refine .object ?_ ?_
  · cases e.label <;> cases e.sourceHandle <;> simp [Json.optional]
  · intro m hm
    simp only [List.mem_append] at hm
    rcases hm with (hm | hm) | hm
    · simp only [List.mem_cons, List.not_mem_nil, or_false] at hm
      rcases hm with rfl | rfl | rfl <;> exact .text _
    · exact Json.optional_simple hm
    · exact Json.optional_simple hm

theorem Edge.decode_reads (e : Edge) : Edge.decode.Reads o e.toJson e := by
  refine Shape.decoder_reads (e.toJson_simple 0) (by decide) ?_ _
  refine Shape.build_reads Edge.mk
    |>.required ?_ (Decoder.text_reads e.id)
    |>.required ?_ (Decoder.text_reads e.source)
    |>.required ?_ (Decoder.text_reads e.target)
    |>.optional ?_
    |>.optional ?_
  all_goals simp [List.lookup_append, List.lookup_cons, Json.lookup_optional]

/-! ## Conditions -/

/-- A condition that was made by name is the one that its own name stands for. -/
theorem Condition.ofName_name (name : String) :
    Condition.ofName (Condition.ofName name).name = Condition.ofName name := by
  by_cases h₁ : Text.normalize name = "is_premium"
  · have : Condition.ofName name = .isPremium := by simp [ofName, h₁]
    rw [this]
    decide
  by_cases h₂ : Text.normalize name = "has_tag"
  · have : Condition.ofName name = .hasTag := by simp [ofName, h₂]
    rw [this]
    decide
  · have : Condition.ofName name = .unknown name := by simp [ofName, h₁, h₂]
    rw [this, Condition.name, this]

/-- Whether a condition is one that a name stands for. No name stands for an unknown condition that
has the name of a known one. -/
def Condition.Named (c : Condition) : Prop :=
  ∃ name, c = .ofName name

theorem Condition.Named.ofName_name {c : Condition} (h : c.Named) :
    Condition.ofName c.name = c := by
  obtain ⟨name, hc⟩ := h
  rw [hc, Condition.ofName_name]

theorem Condition.decode_reads {c : Condition} (h : c.Named) :
    Condition.decode.Reads o (.text c.name) c := by
  intro d hd
  rw [Condition.decode, Decoder.text_reads _ d hd, Except.map, h.ofName_name]

/-! ## Nodes -/

theorem Json.array_simple {α : Type} {n : Nat} {f : α → Json} {l : List α}
    (h : ∀ a, (f a).Simple n) : (Json.array (l.map f)).Simple (n + 1) :=
  .array fun j hj => by
    obtain ⟨a, -, rfl⟩ := List.mem_map.mp hj
    exact h a

theorem Decoder.list_reads_map {α : Type} {f : Decoder α} {g : α → Json} {l : List α}
    (h : ∀ a ∈ l, f.Reads o (g a) a) : (Decoder.list f).Reads o (.array (l.map g)) l :=
  Decoder.list_reads (List.forall₂_map_left_iff.mpr (List.forall₂_same.mpr h))

theorem Router.options_simple (n : Nat) (r : Router) :
    (Json.array (r.options.map (·.toJson))).Simple (n + 2) :=
  Json.array_simple fun c => c.toJson_simple n

/-- What a node carries is written as texts, and as a list of records of texts at most. -/
theorem NodeRole.data_simple (n : Nat) (r : NodeRole) :
    (Json.object r.dataMembers).Simple (n + 3) := by
  cases r with
  | trigger keyword => exact Json.single_simple (n + 2) _ _
  | action message => exact Json.single_simple (n + 2) _ _
  | logic l => exact Json.pair_simple (by decide) (.text _) _
  | ai prompt => exact Json.single_simple (n + 2) _ _
  | router r => exact Json.pair_simple (by decide) (r.options_simple n) _
  | waitForInput => exact .object (by simp [dataMembers]) (by simp [dataMembers])

/-- What a node carries is read from its data as the type of the node asks for. -/
theorem NodeRole.decode_data {r : NodeRole} (h : ∀ l, r = .logic l → l.condition.Named) :
    NodeRole.decode r.type (.ofJson (.object r.dataMembers)) = .ok r := by
  have hd := Doc.stands_ofJson (r.data_simple 0)
  cases r with
  | trigger keyword =>
    rw [type, decode, singleText_reads _ _ _ _ hd]
    rfl
  | action message =>
    rw [type, decode, singleText_reads _ _ _ _ hd]
    rfl
  | logic l =>
    have hl : Logic.decode.Reads .value _ l :=
      Shape.pair_reads (by decide) (.text (n := 0) l.condition.name)
        (Condition.decode_reads (h l rfl)) l.tag
    rw [type, decode, hl _ hd]
    rfl
  | ai prompt =>
    rw [type, decode, singleText_reads _ _ _ _ hd]
    rfl
  | router r =>
    have hr : Router.decode.Reads .value _ r :=
      Shape.pair_reads (by decide) (r.options_simple 0)
        (Decoder.list_reads_map fun c _ => c.decode_reads) r.prompt
    rw [type, decode, hr _ hd]
    rfl
  | waitForInput => rfl

/-- Whether the condition of the node, if it has one, is one that a name stands for. -/
def Node.Recognized (n : Node) : Prop :=
  ∀ l, n.role = .logic l → l.condition.Named

theorem Node.toJson_simple (k : Nat) (n : Node) : n.toJson.Simple (k + 4) := by
  refine .object (by simp) ?_
  intro m hm
  simp only [List.mem_cons, List.not_mem_nil, or_false] at hm
  rcases hm with rfl | rfl | rfl
  · exact .text _
  · exact .text _
  · exact n.role.data_simple k

theorem NodeType.lookup_name (t : NodeType) :
    (NodeType.all.map fun t => (t.name, t)).lookup t.name = some t := by
  cases t <;> decide

theorem Node.decode_reads {n : Node} (h : n.Recognized) : Node.decode.Reads o n.toJson n := by
  have hform : NodeForm.decode.Reads o n.toJson ⟨n.id, n.type, .object n.role.dataMembers⟩ := by
    refine Shape.decoder_reads (n.toJson_simple 0) (by decide) ?_ _
    refine Shape.build_reads NodeForm.mk
      |>.required ?_ (Decoder.text_reads n.id)
      |>.required ?_ (Decoder.choice_reads n.type.lookup_name)
      |>.withDefault ?_ (Decoder.any_reads (n.role.data_simple 0)) _
    all_goals simp [List.lookup_cons]
  intro d hd
  have hrole : NodeRole.decode n.type (.ofJson (.object n.role.dataMembers)) = .ok n.role :=
    NodeRole.decode_data h
  simp [Node.decode, hform d hd, Except.bind, NodeForm.toNode, NodeForm.dataDoc, hrole]

/-! ## Flows -/

/-- Whether the conditions of all nodes are ones that names stand for. -/
def Flow.Recognized (f : Flow) : Prop :=
  ∀ n ∈ f.nodes, n.Recognized

theorem Flow.toJson_simple (f : Flow) : f.toJson.Simple 6 := by
  refine .object ?_ ?_
  · cases f.description <;> simp [Json.optional]
  · intro m hm
    simp only [List.mem_append] at hm
    rcases hm with (hm | hm) | hm
    · simp only [List.mem_cons, List.not_mem_nil, or_false] at hm
      rcases hm with rfl | rfl <;> exact .text _
    · exact Json.optional_simple hm
    · simp only [List.mem_cons, List.not_mem_nil, or_false] at hm
      rcases hm with rfl | rfl | rfl | rfl | rfl | rfl
      · exact .bool _
      · exact .text _
      · exact Json.array_simple fun n => n.toJson_simple 0
      · exact Json.array_simple fun e => e.toJson_simple 3
      · exact .text _
      · exact .text _

/-- Whatever stands for the value of a flow is decoded as the flow. -/
theorem Flow.decode_reads {f : Flow} (h : f.Recognized) (now : Instant) :
    (Flow.decode now).Reads o f.toJson f := by
  refine Shape.decoder_reads f.toJson_simple ?_ ?_ _
  · simp [Shape.names, Shape.required, Shape.withDefault, Shape.optional]
  · refine Shape.build_reads Flow.mk
      |>.required ?_ (Decoder.text_reads f.id)
      |>.required ?_ (Decoder.text_reads f.name)
      |>.optional ?_
      |>.withDefault ?_ (Decoder.flag_reads f.isActive) _
      |>.withDefault ?_ (Decoder.text_reads f.tenantId) _
      |>.required ?_ (Decoder.list_reads_map fun n hn => Node.decode_reads (h n hn))
      |>.withDefault ?_ (Decoder.list_reads_map fun e _ => e.decode_reads) _
      |>.withDefault ?_ f.createdAt.toJson_reads _
      |>.withDefault ?_ f.updatedAt.toJson_reads _
    all_goals simp [List.lookup_append, List.lookup_cons, Json.lookup_optional]

/-! ## Where conditions come from -/

theorem Condition.isPremium_named : Condition.isPremium.Named :=
  ⟨"is_premium", by decide⟩

theorem Condition.hasTag_named : Condition.hasTag.Named :=
  ⟨"has_tag", by decide⟩

/-- The condition of decoded data stands for a name in it, or is the default. -/
theorem Logic.decode_named {d : Doc} {l : Logic} (h : Logic.decode o d = .ok l) :
    l.condition.Named := by
  obtain ⟨_, _, ⟨_, condition, rfl, ⟨d?, hc⟩, rfl⟩, -, rfl⟩ := Shape.decoder_builds h
  cases d? with
  | none =>
    obtain rfl := Except.ok.inj hc
    exact Condition.isPremium_named
  | some d =>
    obtain ⟨name, -, hname⟩ := Decoded.map_eq_ok.mp hc
    exact ⟨name, hname.symm⟩

theorem NodeRole.decode_named {type : NodeType} {d : Doc} {r : NodeRole}
    (h : NodeRole.decode type d = .ok r) : ∀ l, r = .logic l → l.condition.Named := by
  rintro l rfl
  cases type with
  | logic =>
    obtain ⟨l', hl, he⟩ := Decoded.map_eq_ok.mp h
    cases he
    exact Logic.decode_named hl
  | waitForInput => cases h
  | _ =>
    obtain ⟨_, _, he⟩ := Decoded.map_eq_ok.mp h
    cases he

theorem Node.decode_recognized {d : Doc} {n : Node} (h : Node.decode o d = .ok n) :
    n.Recognized := by
  obtain ⟨form, -, h⟩ := Decoded.bind_eq_ok.mp h
  unfold NodeForm.toNode at h
  split at h
  · next r hr =>
    cases h
    exact NodeRole.decode_named hr
  · cases h
  · cases h

theorem Decoder.items_mem {α : Type} {f : Doc → Decoded α} {ds : List Doc} {ending : Option Fault}
    {as : List α} (h : items f ds ending = .ok as) : ∀ a ∈ as, ∃ d, f d = .ok a := by
  induction ds generalizing as with
  | nil =>
    obtain ⟨_, _, rfl⟩ := Decoded.map_eq_ok.mp h
    simp
  | cons d ds ih =>
    obtain ⟨a, ha, h⟩ := Decoded.bind_eq_ok.mp h
    obtain ⟨as, has, h⟩ := Decoded.bind_eq_ok.mp h
    cases h
    exact List.forall_mem_cons.mpr ⟨⟨d, ha⟩, ih has⟩

/-- Each item of a decoded list was decoded. -/
theorem Decoder.list_mem {α : Type} {f : Decoder α} {d : Doc} {as : List α}
    (h : Decoder.list f o d = .ok as) : ∀ a ∈ as, ∃ d, f o d = .ok a := by
  unfold Decoder.list at h
  split at h
  · exact items_mem h
  · cases h; simp
  · unfold Doc.unexpected at h
    split at h <;> cases h

theorem Flow.decode_recognized {now : Instant} {d : Doc} {f : Flow}
    (h : Flow.decode now o d = .ok f) : f.Recognized := by
  -- the fields come from the last one to the first, and three stand behind the nodes
  obtain ⟨_, _, ⟨_, _, ⟨_, _, ⟨_, nodes, hshape, ⟨d?, hnodes⟩, rfl⟩, -, rfl⟩, -, rfl⟩, -, rfl⟩ :=
    Shape.decoder_builds h
  obtain ⟨_, _, ⟨_, _, ⟨_, _, ⟨_, _, ⟨_, _, rfl, -, rfl⟩, -, rfl⟩, -, rfl⟩, -, rfl⟩, -, rfl⟩ :=
    hshape
  cases d? with
  | none => cases hnodes
  | some d =>
    intro n hn
    obtain ⟨d, hd⟩ := Decoder.list_mem hnodes n hn
    exact Node.decode_recognized hd

/-! ## Flows that are made -/

/-- The nodes that builder functions make. -/
inductive Node.Built : Node → Prop
  | trigger (id keyword : String) : Built (.trigger id keyword)
  | action (id message : String) : Built (.action id message)
  | logic (id condition : String) : Built (.logic id condition)
  | hasTag (id tag : String) : Built (.hasTag id tag)
  | ai (id prompt : String) : Built (.ai id prompt)
  | aiRouter (id : String) (options : List Choice) : Built (.aiRouter id options)
  | waitForInput (id : String) : Built (.waitForInput id)

theorem Node.Built.recognized {n : Node} (h : n.Built) : n.Recognized := by
  rintro l hl
  cases h with
  | logic id condition =>
    simp only [Node.logic, NodeRole.logic.injEq] at hl
    exact ⟨condition, by rw [← hl]⟩
  | hasTag id tag =>
    simp only [Node.hasTag, NodeRole.logic.injEq] at hl
    rw [← hl]
    exact Condition.hasTag_named
  | _ => cases hl

/-- The flows that decoding gives, from whatever it is, and that builder functions make of them. -/
inductive Flow.Made : Flow → Prop
  | decoded {now : Instant} {o : Origin} {d : Doc} {f : Flow} (h : Flow.decode now o d = .ok f) :
    Made f
  | empty (id name tenantId : String) (now : Instant) : Made (.empty id name tenantId now)
  | addNode {f : Flow} {n : Node} (hf : Made f) (hn : n.Built) : Made (f.addNode n)
  | addEdge {f : Flow} (hf : Made f) (e : Edge) : Made (f.addEdge e)
  | withActive {f : Flow} (hf : Made f) (active : Bool) : Made (f.withActive active)

theorem Flow.Made.recognized {f : Flow} (h : f.Made) : f.Recognized := by
  induction h with
  | decoded h => exact decode_recognized h
  | empty => simp [Recognized, Flow.empty]
  | addNode _ hn ih =>
    intro n hmem
    rcases List.mem_append.mp hmem with hmem | hmem
    · exact ih n hmem
    · rw [List.mem_singleton.mp hmem]
      exact hn.recognized
  | addEdge _ e ih => exact ih
  | withActive _ active ih => exact ih

/-- All flows are made in that way but those with a condition for which no name stands. -/
theorem Flow.made_iff {f : Flow} : f.Made ↔ f.Recognized :=
  ⟨Made.recognized, fun h =>
    .decoded (decode_reads (o := .value) h f.createdAt _ (Doc.stands_ofJson f.toJson_simple))⟩

end Dialogue
