/-
What decoders make of documents that stand for a value. The same value comes as different
documents: from its own text, from the text of the other format, where a text may be a scalar of
open type, or as it is. A decoder that reads a value gives the same result for all of them
(`Decoder.Reads`), and records are read field by field (`Shape.decoder_reads`).
-/
import Dialogue.Document.Value
import Dialogue.Proofs.Document.Record

namespace Dialogue

/-! ## Values of texts and truth values -/

/-- Values made of texts and truth values, in at most `n` levels of arrays and objects. No name
occurs twice in an object. -/
inductive Json.Simple : Nat → Json → Prop
  | text {n : Nat} (s : String) : Simple n (.text s)
  | bool {n : Nat} (b : Bool) : Simple n (.bool b)
  | array {n : Nat} {items : List Json} (h : ∀ j ∈ items, Simple n j) :
    Simple (n + 1) (.array items)
  | object {n : Nat} {members : List (String × Json)} (names : (members.map (·.1)).Nodup)
      (h : ∀ m ∈ members, Simple n m.2) : Simple (n + 1) (.object members)

namespace Doc

mutual

/-- Whether a document stands for a value of texts and truth values. A scalar of open type stands
for what it looks like. -/
@[simp]
def stands : Doc → Json → Bool
  | .text s, .text t => s == t
  | .flag b, .bool c => b == c
  | .plain s, .text t =>
    match Yaml.resolve? s with
    | some (.text u) => u == t
    | _ => false
  | .plain s, .bool b =>
    match Yaml.resolve? s with
    | some (.bool c) => c == b
    | _ => false
  | .list ds none, .array js => standItems ds js
  | .record ms none, .object members => standMembers ms members
  | _, _ => false

/-- Whether documents stand for the values of a list, one for one. -/
@[simp]
def standItems : List Doc → List Json → Bool
  | [], [] => true
  | d :: ds, j :: js => d.stands j && standItems ds js
  | _, _ => false

/-- Whether keys with documents stand for members. -/
@[simp]
def standMembers : List (Doc × Doc) → List (String × Json) → Bool
  | [], [] => true
  | (k, d) :: ms, (name, j) :: members =>
    k.toText.toOption == some name && d.stands j && standMembers ms members
  | _, _ => false

end

variable {d : Doc}

theorem standItems_iff {ds : List Doc} {js : List Json} :
    standItems ds js ↔ List.Forall₂ (fun d j => stands d j) ds js := by
  induction ds generalizing js with
  | nil => cases js <;> simp
  | cons d ds ih => cases js <;> simp [ih]

theorem standMembers_iff {ms : List (Doc × Doc)} {members : List (String × Json)} :
    standMembers ms members ↔
      List.Forall₂ (fun m n => m.1.toText = .ok n.1 ∧ stands m.2 n.2) ms members := by
  induction ms generalizing members with
  | nil => cases members <;> simp
  | cons m ms ih =>
    obtain ⟨k, v⟩ := m
    cases members with
    | nil => simp
    | cons n members =>
      cases hk : k.toText <;> simp [ih, hk, Except.toOption]

/-! ## Open scalars -/

theorem floatOrText_text {s t : String} (h : Yaml.resolve?.floatOrText s = .text t) : s = t := by
  unfold Yaml.resolve?.floatOrText at h
  split at h
  · exact Json.text.inj h
  · split at h
    · cases h
    · exact Json.text.inj h

/-- A scalar of open type that looks like a text is that text, and no null. -/
theorem of_resolve_text {s t : String} (h : Yaml.resolve? s = some (.text t)) :
    s = t ∧ Yaml.isNull s = false := by
  unfold Yaml.resolve? at h
  split at h
  · cases h
  · next hn =>
    refine ⟨?_, by simp_all⟩
    split at h
    · cases h
    · split at h
      · split at h
        · cases h
        · split at h
          · cases h
          · exact floatOrText_text (Option.some.inj h)
      · exact floatOrText_text (Option.some.inj h)

theorem floatOrText_ne_bool {s : String} {b : Bool} : Yaml.resolve?.floatOrText s ≠ .bool b := by
  unfold Yaml.resolve?.floatOrText
  split
  · simp
  · split <;> simp

/-- A scalar of open type that looks like a truth value is one of the words for it. -/
theorem truth_of_resolve_bool {s : String} {b : Bool} (h : Yaml.resolve? s = some (.bool b)) :
    Yaml.truth? s = some b := by
  have hb : Yaml.strictTruth? s = some b := by
    unfold Yaml.resolve? at h
    split at h
    · cases h
    · split at h
      · next hs => cases h; exact hs
      · split at h
        · split at h
          · cases h
          · split at h
            · cases h
            · exact absurd (Option.some.inj h) floatOrText_ne_bool
        · exact absurd (Option.some.inj h) floatOrText_ne_bool
  unfold Yaml.strictTruth? at hb
  simp only [List.contains_cons, List.contains_nil, Bool.or_false, Bool.or_eq_true,
    beq_iff_eq] at hb
  split at hb
  · next hs =>
    cases hb
    rcases hs with rfl | rfl | rfl <;> decide
  · split at hb
    · next hs =>
      cases hb
      rcases hs with rfl | rfl | rfl <;> decide
    · cases hb

/-! ## What stands for a value -/

theorem stands_text {t : String} :
    d.stands (.text t) ↔ d = .text t ∨ d = .plain t ∧ Yaml.resolve? t = some (.text t) := by
  cases d with
  | text s => simp
  | plain s =>
    simp only [stands, reduceCtorEq, plain.injEq, false_or]
    constructor
    · intro h
      split at h
      · next u hu =>
        obtain ⟨rfl, -⟩ := of_resolve_text hu
        obtain rfl := beq_iff_eq.mp h
        exact ⟨rfl, hu⟩
      · cases h
    · rintro ⟨rfl, h⟩
      simp [h]
  | list ds ending => cases ending <;> simp
  | record ms ending => cases ending <;> simp
  | _ => simp

theorem stands_bool {b : Bool} :
    d.stands (.bool b) ↔ d = .flag b ∨ ∃ s, d = .plain s ∧ Yaml.resolve? s = some (.bool b) := by
  cases d with
  | flag c => simp
  | plain s =>
    simp only [stands, reduceCtorEq, plain.injEq, false_or, exists_eq_left']
    constructor
    · intro h
      split at h
      · next c hc => rw [hc, beq_iff_eq.mp h]
      · cases h
    · intro h
      simp [h]
  | list ds ending => cases ending <;> simp
  | record ms ending => cases ending <;> simp
  | _ => simp

theorem stands_array {js : List Json} :
    d.stands (.array js) ↔
      ∃ ds, d = .list ds none ∧ List.Forall₂ (fun d j => stands d j) ds js := by
  cases d with
  | list ds ending => cases ending <;> simp [standItems_iff]
  | record ms ending => cases ending <;> simp
  | _ => simp

theorem stands_object {members : List (String × Json)} :
    d.stands (.object members) ↔
      ∃ ms, d = .record ms none ∧
        List.Forall₂ (fun m n => m.1.toText = .ok n.1 ∧ stands m.2 n.2) ms members := by
  cases d with
  | record ms ending => cases ending <;> simp [standMembers_iff]
  | list ds ending => cases ending <;> simp
  | _ => simp

/-! ## Passing over and reading what stands for a value -/

/-- A relation of two lists follows from another one if it does for the values of the second. -/
theorem forall₂_of_mem {α β : Type} {R S : α → β → Prop} {as : List α} {bs : List β}
    (h : List.Forall₂ R as bs) (hi : ∀ b ∈ bs, ∀ a, R a b → S a b) : List.Forall₂ S as bs := by
  induction h with
  | nil => exact .nil
  | cons hr _ ih =>
    rw [List.forall_mem_cons] at hi
    exact .cons (hi.1 _ hr) (ih hi.2)

theorem skip_of_toText {k : Doc} {name : String} (h : k.toText = .ok name) : k.skip = none := by
  cases k <;> first | rfl | cases h

theorem skipItems_of_forall₂ {ds : List Doc} {js : List Json}
    (h : List.Forall₂ (fun d _ => d.skip = none) ds js) : skipItems ds none = none := by
  induction h with
  | nil => rfl
  | cons hd _ ih => rw [skipItems, hd, firstFault, ih]

theorem skipMembers_of_forall₂ {ms : List (Doc × Doc)} {members : List (String × Json)}
    (h : List.Forall₂ (fun m n => m.1.toText = .ok n.1 ∧ m.2.skip = none) ms members) :
    skipMembers ms none = none := by
  induction h with
  | nil => rfl
  | @cons m _ _ _ hm _ ih =>
    obtain ⟨k, v⟩ := m
    rw [skipMembers, skip_of_toText hm.1, hm.2, firstFault, firstFault, ih]

/-- What stands for a value can be passed over. -/
theorem skip_of_stands {n : Nat} {j : Json} (hj : j.Simple n) (h : d.stands j) : d.skip = none := by
  induction hj generalizing d with
  | text s => obtain rfl | ⟨rfl, -⟩ := stands_text.mp h <;> rfl
  | bool b => obtain rfl | ⟨s, rfl, -⟩ := stands_bool.mp h <;> rfl
  | array _ ih =>
    obtain ⟨ds, rfl, hds⟩ := stands_array.mp h
    exact skipItems_of_forall₂ (forall₂_of_mem hds fun j hj d => ih j hj)
  | object _ _ ih =>
    obtain ⟨ms, rfl, hms⟩ := stands_object.mp h
    exact skipMembers_of_forall₂ (forall₂_of_mem hms fun n hn m hm => ⟨hm.1, ih n hn hm.2⟩)

theorem toItems_of_forall₂ {ds : List Doc} {js : List Json}
    (h : List.Forall₂ (fun d j => d.toJson = .ok j) ds js) : toItems ds none = .ok js := by
  induction h with
  | nil => rfl
  | cons hd _ ih => simp [toItems, hd, ih, bind, Except.bind]

theorem putMember_of_new {name : String} {value : Json} {members : List (String × Json)}
    (h : name ∉ members.map (·.1)) :
    Json.putMember name value members = members ++ [(name, value)] := by
  induction members with
  | nil => rfl
  | cons m members ih =>
    obtain ⟨k, v⟩ := m
    simp only [List.map_cons, List.mem_cons, not_or] at h
    rw [Json.putMember, if_neg (Ne.symm h.1), ih h.2, List.cons_append]

/-- Members with new and different names are put behind those already read. -/
theorem toMembers_of_forall₂ {ms : List (Doc × Doc)} {members done : List (String × Json)}
    (h : List.Forall₂ (fun m n => m.1.toText = .ok n.1 ∧ m.2.toJson = .ok n.2) ms members)
    (names : ((done ++ members).map (·.1)).Nodup) :
    toMembers ms none done = .ok (done ++ members) := by
  induction h generalizing done with
  | nil => rw [List.append_nil]; rfl
  | @cons m n ms members hm _ ih =>
    obtain ⟨k, v⟩ := m
    obtain ⟨name, j⟩ := n
    have hnew : name ∉ done.map (·.1) := by
      rw [List.map_append, List.map_cons, List.nodup_append] at names
      exact fun hmem => names.2.2 _ hmem _ List.mem_cons_self rfl
    rw [List.append_cons] at names ⊢
    simp only [toMembers, hm.1, hm.2, putMember_of_new hnew, bind, Except.bind]
    exact ih names

/-- Reading a document as a value of any form gives the value that it stands for. -/
theorem toJson_of_stands {n : Nat} {j : Json} (hj : j.Simple n) (h : d.stands j) :
    d.toJson = .ok j := by
  induction hj generalizing d with
  | text s =>
    obtain rfl | ⟨rfl, hs⟩ := stands_text.mp h
    · rfl
    · simp only [toJson, hs]
  | bool b =>
    obtain rfl | ⟨s, rfl, hs⟩ := stands_bool.mp h
    · rfl
    · simp only [toJson, hs]
  | array _ ih =>
    obtain ⟨ds, rfl, hds⟩ := stands_array.mp h
    exact Decoded.map_eq_ok.mpr
      ⟨_, toItems_of_forall₂ (forall₂_of_mem hds fun j hj d => ih j hj), rfl⟩
  | object names _ ih =>
    obtain ⟨ms, rfl, hms⟩ := stands_object.mp h
    have hread := forall₂_of_mem hms fun n hn m hm => And.intro hm.1 (ih n hn hm.2)
    exact Decoded.map_eq_ok.mpr ⟨_, toMembers_of_forall₂ hread names, rfl⟩

theorem ofItems_eq_map (js : List Json) : ofItems js = js.map ofJson := by
  induction js with
  | nil => rfl
  | cons j js ih => rw [ofItems, ih, List.map_cons]

theorem ofMembers_eq_map (members : List (String × Json)) :
    ofMembers members = members.map fun m => (.text m.1, ofJson m.2) := by
  induction members with
  | nil => rfl
  | cons m members ih => rw [ofMembers, ih, List.map_cons]

/-- A value as a document stands for itself. -/
theorem stands_ofJson {n : Nat} {j : Json} (hj : j.Simple n) : (ofJson j).stands j := by
  induction hj with
  | text s => exact stands_text.mpr (.inl rfl)
  | bool b => exact stands_bool.mpr (.inl rfl)
  | array _ ih =>
    refine stands_array.mpr ⟨_, rfl, ?_⟩
    rw [ofItems_eq_map, List.forall₂_map_left_iff]
    exact List.forall₂_same.mpr ih
  | object _ _ ih =>
    refine stands_object.mpr ⟨_, rfl, ?_⟩
    rw [ofMembers_eq_map, List.forall₂_map_left_iff]
    exact List.forall₂_same.mpr fun m hm => ⟨rfl, ih m hm⟩

end Doc

/-! ## Decoders that read a value -/

/-- Whether a decoder makes the same of every document that stands for a value. -/
def Decoder.Reads {α : Type} (f : Decoder α) (o : Origin) (j : Json) (a : α) : Prop :=
  ∀ d : Doc, d.stands j → f o d = .ok a

namespace Decoder

variable {α : Type} {f : Decoder α} {o : Origin}

theorem text_reads (s : String) : Decoder.text.Reads o (.text s) s := by
  intro d h
  obtain rfl | ⟨rfl, -⟩ := Doc.stands_text.mp h <;> rfl

theorem flag_reads (b : Bool) : Decoder.flag.Reads o (.bool b) b := by
  intro d h
  obtain rfl | ⟨s, rfl, hs⟩ := Doc.stands_bool.mp h
  · rfl
  · simp only [Decoder.flag, Doc.toFlag, Doc.truth_of_resolve_bool hs]

theorem any_reads {n : Nat} {j : Json} (hj : j.Simple n) : Decoder.any.Reads o j j :=
  fun _ h => Doc.toJson_of_stands hj h

/-- A text is never the absence of a value. -/
theorem optional_reads {s : String} {a : α} (h : f.Reads o (.text s) a) :
    f.optional.Reads o (.text s) (some a) := by
  intro d hd
  have habsent : d.isAbsent = false := by
    obtain rfl | ⟨rfl, hs⟩ := Doc.stands_text.mp hd
    · rfl
    · exact (Doc.of_resolve_text hs).2
  simp [optional, habsent, h d hd, Except.map]

theorem choice_reads {known : List (String × α)} {name : String} {a : α}
    (h : known.lookup name = some a) : (Decoder.choice known).Reads o (.text name) a := by
  intro d hd
  obtain rfl | ⟨rfl, -⟩ := Doc.stands_text.mp hd <;> simp [choice, named, h]

theorem items_of_forall₂ {f : Doc → Decoded α} {ds : List Doc} {as : List α}
    (h : List.Forall₂ (fun d a => f d = .ok a) ds as) : items f ds none = .ok as := by
  induction h with
  | nil => rfl
  | cons hd _ ih => simp [items, hd, ih, bind, Except.bind]

theorem list_reads {js : List Json} {as : List α} (h : List.Forall₂ (f.Reads o) js as) :
    (Decoder.list f).Reads o (.array js) as := by
  intro d hd
  obtain ⟨ds, rfl, hds⟩ := Doc.stands_array.mp hd
  refine items_of_forall₂ ?_
  -- the induction is on the documents of the list alone
  clear hd
  induction hds generalizing as with
  | nil => cases h; exact .nil
  | cons hd _ ih =>
    cases h with
    | cons hr h => exact .cons (hr _ hd) (ih h)

end Decoder

/-! ## Records -/

/-- Whether a field reads what there is for its name as a value. -/
def Field.Reads {β : Type} (f : Field β) (o : Origin) : Option Json → β → Prop
  | some j, b => f.decode.Reads o j b
  | none, b => f.default? = some b

namespace Shape

variable {α β : Type} {o : Origin} {members : List (String × Json)}

/-- Whether a shape reads members as a record. -/
def Reads (o : Origin) (members : List (String × Json)) : {α : Type} → Shape α → α → Prop
  | _, .build a, a' => a = a'
  | _, .field rest f, a =>
    ∃ g b, rest.Reads o members g ∧ f.Reads o (members.lookup f.name) b ∧ g b = a

theorem build_reads (a : α) : (Shape.build a).Reads o members a :=
  rfl

section

variable {s : Shape (β → α)} {g : β → α} {name : String} {f : Decoder β} {b : β} {j : Json}

theorem Reads.required (h : s.Reads o members g) (hl : members.lookup name = some j)
    (hf : f.Reads o j b) : (s.required name f).Reads o members (g b) :=
  ⟨g, b, h, by rw [hl]; exact hf, rfl⟩

theorem Reads.withDefault (h : s.Reads o members g) (hl : members.lookup name = some j)
    (hf : f.Reads o j b) (default : β) : (s.withDefault name f default).Reads o members (g b) :=
  ⟨g, b, h, by rw [hl]; exact hf, rfl⟩

end

theorem Reads.optional {s : Shape (Option String → α)} {g : Option String → α} {name : String}
    {x : Option String} (h : s.Reads o members g) (hl : members.lookup name = x.map .text) :
    (s.optional name .text).Reads o members (g x) := by
  refine ⟨g, x, h, ?_, rfl⟩
  rw [hl]
  cases x with
  | none => rfl
  | some t => exact Decoder.optional_reads (Decoder.text_reads t)

/-- What reads members as a record makes that record of documents that stand for them. -/
theorem assemble_of_reads {s : Shape α} {given : List (String × Doc)} {a : α}
    (hg : ∀ n, Option.Rel (fun d j => Doc.stands d j) (given.lookup n) (members.lookup n))
    (h : s.Reads o members a) : s.assemble o given = .ok a := by
  induction s with
  | build b => exact congrArg _ h
  | field rest f ih =>
    obtain ⟨g, b, hrest, hf, rfl⟩ := h
    refine assemble_field.mpr ⟨g, b, ih hrest, ?_, rfl⟩
    have hrel := hg f.name
    generalize given.lookup f.name = d? at hrel ⊢
    generalize members.lookup f.name = j? at hrel hf
    cases hrel with
    | none =>
      have hd : f.default? = some b := hf
      simp only [Field.value, hd]
    | some hd => exact hf _ hd

/-- The keys of documents that stand for members are their names. -/
theorem named_of_stands {ms : List (Doc × Doc)}
    (h : List.Forall₂ (fun m n => m.1.toText = .ok n.1 ∧ Doc.stands m.2 n.2) ms members) :
    ∃ given : List (String × Doc), Named ms given ∧
      List.Forall₂ (fun g n => g.1 = n.1 ∧ Doc.stands g.2 n.2) given members := by
  induction h with
  | nil => exact ⟨[], .nil, .nil⟩
  | @cons m n ms members hm _ ih =>
    obtain ⟨given, hn, hg⟩ := ih
    exact ⟨(n.1, m.2) :: given, .cons ⟨hm.1, rfl⟩ hn, .cons ⟨rfl, hm.2⟩ hg⟩

theorem lookup_of_forall₂ {given : List (String × Doc)}
    (h : List.Forall₂ (fun g n => g.1 = n.1 ∧ Doc.stands g.2 n.2) given members) (name : String) :
    Option.Rel (fun d j => Doc.stands d j) (given.lookup name) (members.lookup name) := by
  induction h with
  | nil => exact .none
  | @cons g n _ _ hg _ ih =>
    obtain ⟨key, d⟩ := g
    obtain ⟨_, j⟩ := n
    obtain ⟨rfl, hd⟩ := hg
    by_cases hk : name = key
    · simpa [List.lookup_cons, hk] using hd
    · simpa [List.lookup_cons, beq_false_of_ne hk] using ih

/-- The decoder of a record reads the members that its shape reads. -/
theorem decoder_reads {s : Shape α} {n : Nat} {a : α} (hj : (Json.object members).Simple n)
    (hs : s.names.Nodup) (h : s.Reads o members a) (recordName : String) :
    (s.decoder recordName).Reads o (.object members) a := by
  intro d hd
  obtain ⟨ms, rfl, hms⟩ := Doc.stands_object.mp hd
  obtain ⟨given, hnamed, hg⟩ := named_of_stands hms
  cases hj with
  | object names hmem =>
    -- what is given has the names of the members, in their order, and can be passed over
    have hmatch : List.Forall₂ (fun g n => g.2.skip = none ∧ g.1 = n.1) given members :=
      Doc.forall₂_of_mem hg fun m hm g h => ⟨Doc.skip_of_stands (hmem m hm) h.2, h.1⟩
    obtain ⟨hskip, hkeys⟩ := (List.forall₂_and_left given members).mp hmatch
    have hnames : given.map (·.1) = members.map (·.1) :=
      List.forall₂_eq_eq_eq ▸ List.forall₂_map_left_iff.mpr (List.forall₂_map_right_iff.mpr hkeys)
    exact decoder_record hs hnamed (hnames ▸ names) hskip
      (assemble_of_reads (lookup_of_forall₂ hg) h) recordName

end Shape

end Dialogue
