/-
Records with the same fields. Two values that differ in nothing but members whose names a record does
not know, and in values that its fields take for alike, give the same record, or fail for the same
reason (`Shape.Alike.decoder`). To that end the slots of the two are related member by member: this
holds of empty slots, every member that is taken preserves it, and the records that come of such slots
are alike (`Shape.Carries`).
-/
import Dialogue.Proofs.Document.Values

namespace Dialogue

/-! ## Values -/

namespace Json

/-- Values for the first fields of a record, each alike for the name of its field. -/
inductive SameItems (R : String → Json → Json → Prop) : List String → List Json → List Json → Prop
  | rest (names : List String) (js : List Json) : SameItems R names js js
  | cons {name : String} {names : List String} {j j' : Json} {js js' : List Json}
      (head : R name j j') (tail : SameItems R names js js') :
      SameItems R (name :: names) (j :: js) (j' :: js')

/-- Members with the same names in the same order, whose values are alike for these names. -/
abbrev SameMembers (R : String → Json → Json → Prop) :
    List (String × Json) → List (String × Json) → Prop :=
  List.Forall₂ fun m m' => m.1 = m'.1 ∧ R m.1 m.2 m'.2

/-- Values that give a record with these fields the same: what they have under other names does not
count, and what they have for a field is alike. -/
inductive SameFields (names : List String) (R : String → Json → Json → Prop) : Json → Json → Prop
  | same (j : Json) : SameFields names R j j
  | members {ms ms' : List (String × Json)}
      (h : SameMembers R (ms.filter (·.1 ∈ names)) (ms'.filter (·.1 ∈ names))) :
      SameFields names R (.object ms) (.object ms')
  | items {js js' : List Json} (h : SameItems R names js js') :
      SameFields names R (.array js) (.array js')

/-- Lists whose values are alike one by one, and otherwise the same values. -/
inductive SameList (R : Json → Json → Prop) : Json → Json → Prop
  | same (j : Json) : SameList R j j
  | items {js js' : List Json} (h : List.Forall₂ R js js') : SameList R (.array js) (.array js')

variable {names : List String} {R : String → Json → Json → Prop}
  {ms ms' done done' : List (String × Json)}

theorem SameMembers.refl (hR : ∀ name j, R name j j) (ms : List (String × Json)) :
    SameMembers R ms ms :=
  List.forall₂_same.2 fun m _ => ⟨rfl, hR m.1 m.2⟩

theorem SameMembers.filter (h : SameMembers R ms ms') :
    SameMembers R (ms.filter (·.1 ∈ names)) (ms'.filter (·.1 ∈ names)) :=
  List.rel_filter (fun m m' hm => by simp [hm.1]) h

/-- Members with unknown names may be added anywhere, also where values differ inside. -/
theorem SameFields.insert {front front' back back' extra : List (String × Json)}
    (hf : SameMembers R front front') (he : ∀ m ∈ extra, m.1 ∉ names)
    (hb : SameMembers R back back') :
    SameFields names R (.object (front ++ back)) (.object (front' ++ extra ++ back')) := by
  have hextra : extra.filter (·.1 ∈ names) = [] := by simpa using he
  refine .members ?_
  rw [List.filter_append, List.filter_append, List.filter_append, hextra, List.append_nil]
  exact List.rel_append hf.filter hb.filter

/-- Either no items are left for a field, or there is one for it in both lists. -/
theorem SameItems.split (hR : ∀ name j, R name j j) {name : String} {js js' : List Json}
    (h : SameItems R (name :: names) js js') :
    (js = [] ∧ js' = []) ∨
      ∃ j j' left left', js = j :: left ∧ js' = j' :: left' ∧ R name j j' ∧
        SameItems R names left left' := by
  cases h with
  | rest =>
    cases js with
    | nil => exact .inl ⟨rfl, rfl⟩
    | cons j left => exact .inr ⟨j, j, left, left, rfl, rfl, hR _ _, .rest _ _⟩
  | cons hj hleft => exact .inr ⟨_, _, _, _, rfl, rfl, hj, hleft⟩

theorem SameItems.length_eq {js js' : List Json} (h : SameItems R names js js') :
    js.length = js'.length := by
  induction h with
  | rest => rfl
  | cons _ _ ih => rw [List.length_cons, List.length_cons, ih]

/-! ### Repeated names -/

theorem filter_putMember (name : String) (j : Json) (ms : List (String × Json)) :
    (putMember name j ms).filter (·.1 ∈ names) =
      if name ∈ names then putMember name j (ms.filter (·.1 ∈ names))
      else ms.filter (·.1 ∈ names) := by
  induction ms with
  | nil => by_cases h : name ∈ names <;> simp [putMember, h]
  | cons m ms ih =>
    obtain ⟨k, v⟩ := m
    by_cases hk : k = name
    · subst hk
      by_cases h : k ∈ names <;> simp [putMember, h]
    · by_cases h : k ∈ names <;> by_cases h' : name ∈ names <;> simp_all [putMember]

theorem filter_mergedMembers (ms done : List (String × Json)) :
    (mergedMembers ms done).filter (·.1 ∈ names) =
      mergedMembers (ms.filter (·.1 ∈ names)) (done.filter (·.1 ∈ names)) := by
  induction ms generalizing done with
  | nil => rfl
  | cons m ms ih =>
    obtain ⟨k, v⟩ := m
    rw [mergedMembers, ih, filter_putMember]
    by_cases h : k ∈ names
    · rw [if_pos h, List.filter_cons_of_pos (by simpa using h), mergedMembers]
    · rw [if_neg h, List.filter_cons_of_neg (by simpa using h)]

theorem SameMembers.put {name : String} {j j' : Json} (h : SameMembers R ms ms')
    (hj : R name j j') : SameMembers R (putMember name j ms) (putMember name j' ms') := by
  induction h with
  | nil => exact .cons ⟨rfl, hj⟩ .nil
  | @cons m m' _ _ hm hms ih =>
    obtain ⟨k, v⟩ := m
    obtain ⟨_, v'⟩ := m'
    obtain ⟨rfl, hv⟩ := hm
    by_cases hk : k = name
    · subst hk
      rw [putMember, putMember, if_pos rfl, if_pos rfl]
      exact .cons ⟨rfl, hj⟩ hms
    · rw [putMember, putMember, if_neg hk, if_neg hk]
      exact .cons ⟨rfl, hv⟩ ih

theorem SameMembers.merged (hR : ∀ name j j', R name j j' → R name j.merged j'.merged)
    (h : SameMembers R ms ms') (hd : SameMembers R done done') :
    SameMembers R (mergedMembers ms done) (mergedMembers ms' done') := by
  induction h generalizing done done' with
  | nil => exact hd
  | @cons m m' _ _ hm _ ih =>
    obtain ⟨k, v⟩ := m
    obtain ⟨_, v'⟩ := m'
    obtain ⟨rfl, hv⟩ := hm
    exact ih (SameMembers.put hd (hR _ _ _ hv))

theorem SameItems.merged (hR : ∀ name j j', R name j j' → R name j.merged j'.merged)
    {js js' : List Json} (h : SameItems R names js js') :
    SameItems R names (mergedItems js) (mergedItems js') := by
  induction h with
  | rest names js => exact .rest _ _
  | cons hj _ ih => exact .cons (hR _ _ _ hj) ih

theorem SameFields.merged (hR : ∀ name j j', R name j j' → R name j.merged j'.merged) {j j' : Json}
    (h : SameFields names R j j') : SameFields names R j.merged j'.merged := by
  cases h with
  | same => exact .same _
  | members h =>
    refine .members ?_
    rw [filter_mergedMembers, filter_mergedMembers]
    exact h.merged hR .nil
  | items h => exact .items (h.merged hR)

theorem SameList.merged {R : Json → Json → Prop} (hR : ∀ j j', R j j' → R j.merged j'.merged)
    {j j' : Json} (h : SameList R j j') : SameList R j.merged j'.merged := by
  cases h with
  | same => exact .same _
  | items h =>
    refine .items ?_
    rw [mergedItems_eq_map, mergedItems_eq_map, List.forall₂_map_left_iff,
      List.forall₂_map_right_iff]
    exact h.imp hR

end Json

/-! ## Outcomes -/

namespace Decoded

variable {α β γ δ : Type} {S : α → β → Prop} {T : γ → δ → Prop}

/-- Outcomes that fail for the same reason, or succeed with results that are alike. -/
inductive Alike (S : α → β → Prop) : Decoded α → Decoded β → Prop
  | ok {a : α} {b : β} (h : S a b) : Alike S (.ok a) (.ok b)
  | error (e : DecodeError) : Alike S (.error e) (.error e)

theorem Alike.bind {x : Decoded α} {y : Decoded β} {f : α → Decoded γ} {g : β → Decoded δ}
    (h : Alike S x y) (hf : ∀ a b, S a b → Alike T (f a) (g b)) : Alike T (x >>= f) (y >>= g) := by
  cases h with
  | ok h => exact hf _ _ h
  | error e => exact .error e

theorem Alike.imp {S' : α → β → Prop} {x : Decoded α} {y : Decoded β} (h : Alike S x y)
    (hS : ∀ a b, S a b → S' a b) : Alike S' x y := by
  cases h with
  | ok h => exact .ok (hS _ _ h)
  | error e => exact .error e

theorem Alike.map {x : Decoded α} {y : Decoded β} {f : α → γ} {g : β → δ} (h : Alike S x y)
    (hf : ∀ a b, S a b → T (f a) (g b)) : Alike T (x.map f) (y.map g) := by
  cases h with
  | ok h => exact .ok (hf _ _ h)
  | error e => exact .error e

/-- What the first outcome gives may be assumed of it. -/
theorem Alike.given {x : Decoded α} {y : Decoded β} (h : Alike S x y) :
    Alike (fun a b => x = .ok a ∧ S a b) x y := by
  cases h with
  | ok h => exact .ok ⟨rfl, h⟩
  | error e => exact .error e

theorem Alike.refl {S : α → α → Prop} (hS : ∀ a, S a a) (x : Decoded α) : Alike S x x := by
  cases x with
  | ok a => exact .ok (hS a)
  | error e => exact .error e

theorem alike_eq {x y : Decoded α} : Alike Eq x y ↔ x = y := by
  constructor
  · rintro (⟨rfl⟩ | e) <;> rfl
  · rintro rfl
    exact .refl (fun _ => rfl) x

end Decoded

/-! ## Decoders -/

/-- A decoder that makes the same of values that are alike. -/
def Decoder.Blind {α : Type} (f : Decoder α) (o : Origin) (R : Json → Json → Prop) : Prop :=
  ∀ j j', R j j' → f o (.ofJson j) = f o (.ofJson j')

theorem Decoder.blind_eq {α : Type} (f : Decoder α) (o : Origin) : f.Blind o Eq := by
  rintro j _ rfl
  rfl

theorem Decoder.list_blind {α : Type} {f : Decoder α} {o : Origin} {R : Json → Json → Prop}
    (hf : f.Blind o R) : (Decoder.list f).Blind o (Json.SameList R) := by
  intro j j' h
  cases h with
  | same => rfl
  | items h =>
    show items (f o) (Doc.ofItems _) none = items (f o) (Doc.ofItems _) none
    induction h with
    | nil => rfl
    | cons hj _ ih => rw [Doc.ofItems, Doc.ofItems, items, items, hf _ _ hj, ih]

namespace Shape

variable {α β : Type} {o : Origin} {R : String → Json → Json → Prop}

/-- Shapes with fields of the same names, which make of values that are alike under the name of a field
results that are alike, and whose records are alike when all of these are. -/
inductive Alike (o : Origin) (R : String → Json → Json → Prop) :
    {α : Type} → (α → α → Prop) → Shape α → Shape α → Prop
  | build {α : Type} {S : α → α → Prop} {a a' : α} (h : S a a') : Alike o R S (.build a) (.build a')
  | field {α β : Type} {S : α → α → Prop} {Q : β → β → Prop} {rest rest' : Shape (β → α)}
      {f f' : Field β} (others : Alike o R (fun g g' => ∀ b b', Q b b' → S (g b) (g' b')) rest rest')
      (name : f.name = f'.name)
      (decode : ∀ j j', R f.name j j' →
        Decoded.Alike Q (f.decode o (.ofJson j)) (f'.decode o (.ofJson j')))
      (default : Option.Rel Q f.default? f'.default?) :
      Alike o R S (rest.field f) (rest'.field f')

/-- A relation of the slots of two shapes that holds at the beginning, that taking a member of two
values preserves, and that makes the records alike in the end. -/
structure Carries (o : Origin) (R : String → Json → Json → Prop) (S : α → α → Prop)
    (s s' : Shape α) (T : s.Slots → s'.Slots → Prop) : Prop where
  empty : T s.emptySlots s'.emptySlots
  take : ∀ {name j j' slots slots'}, R name j j' → T slots slots' →
    Decoded.Alike T (s.take o name (.ofJson j) slots) (s'.take o name (.ofJson j') slots')
  finish : ∀ {slots slots'}, T slots slots' → Decoded.Alike S (s.finish slots) (s'.finish slots')

section

variable {S : α → α → Prop} {s s' : Shape α}

theorem Alike.names_eq (h : Alike o R S s s') : s.names = s'.names := by
  induction h with
  | build h => rfl
  | field _ hname _ _ ih => rw [names, names, ih, hname]

theorem Alike.size_eq (h : Alike o R S s s') : s.size = s'.size := by
  induction h with
  | build h => rfl
  | field _ _ _ _ ih => rw [size, size, ih]

theorem Alike.carries (h : Alike o R S s s') : ∃ T, Carries o R S s s' T := by
  induction h with
  | build h =>
    refine ⟨fun _ _ => True, trivial, fun {name j j' _ _} _ _ => ?_, fun _ => .ok h⟩
    rw [take, take, Doc.skip_ofJson, Doc.skip_ofJson]
    exact .ok trivial
  | @field α β S Q rest rest' f f' _ hname hdecode hdefault ih =>
    obtain ⟨T, hT⟩ := ih
    -- the slots of the other fields stay related, and the last slot is filled in both or in neither
    refine ⟨fun p p' => T p.1 p'.1 ∧ Option.Rel Q p.2 p'.2, ⟨hT.empty, .none⟩, ?_, ?_⟩
    · rintro name j j' ⟨others, slot⟩ ⟨others', slot'⟩ hj ⟨hothers, hslot⟩
      simp only [take]
      by_cases hn : name = f.name
      · rw [if_pos hn, if_pos (hn.trans hname)]
        subst hn
        cases hslot with
        | some => exact .error _
        | none => exact (hdecode j j' hj).map fun b b' hb => ⟨hothers, .some hb⟩
      · rw [if_neg hn, if_neg (hname ▸ hn)]
        exact (hT.take hj hothers).map fun _ _ h => ⟨h, hslot⟩
    · rintro ⟨others, slot⟩ ⟨others', slot'⟩ ⟨hothers, hslot⟩
      refine (hT.finish hothers).bind fun g g' hg => ?_
      cases hslot with
      | some hb => exact .ok (hg _ _ hb)
      | none =>
        -- neither was given, so the defaults decide
        generalize f.default? = x at hdefault ⊢
        generalize f'.default? = x' at hdefault ⊢
        cases hdefault with
        | none => rw [hname]; exact .error _
        | some hb => exact .ok (hg _ _ hb)

end

/-! ### Members -/

theorem take_unknown {s : Shape α} {name : String} (h : name ∉ s.names) {d : Doc}
    (hd : d.skip = none) (slots : s.Slots) : s.take o name d slots = .ok slots := by
  induction s with
  | build a => rw [take, hd]; rfl
  | field rest f ih =>
    rw [names, List.mem_cons, not_or] at h
    obtain ⟨others, slot⟩ := slots
    rw [← addSlot, take_other h.1, ih h.2]
    rfl

/-- Members of an object with their values as documents. -/
def given (ms : List (String × Json)) : List (String × Doc) :=
  ms.map fun m => (m.1, .ofJson m.2)

/-- Members with unknown names are passed over. -/
theorem takeNamed_known (s : Shape α) (ms : List (String × Json)) (slots : s.Slots) :
    s.takeNamed o (given ms) slots = s.takeNamed o (given (ms.filter (·.1 ∈ s.names))) slots := by
  induction ms generalizing slots with
  | nil => rfl
  | cons m ms ih =>
    by_cases h : m.1 ∈ s.names
    · rw [List.filter_cons_of_pos (by simpa using h), given, given, List.map_cons, List.map_cons,
        takeNamed_cons, takeNamed_cons]
      congr 1
      funext slots
      exact ih slots
    · rw [List.filter_cons_of_neg (by simpa using h), given, List.map_cons, takeNamed_cons,
        take_unknown h (Doc.skip_ofJson _)]
      exact ih slots

theorem takeAll_ofMembers (s : Shape α) (ms : List (String × Json)) (slots : s.Slots) :
    s.takeAll o (Doc.ofMembers ms) none slots = s.takeNamed o (given ms) slots := by
  refine takeAll_eq_takeNamed s ?_ slots
  rw [Doc.ofMembers_eq_map, Named, given, List.forall₂_map_left_iff, List.forall₂_map_right_iff]
  exact List.forall₂_same.2 fun m _ => ⟨rfl, rfl⟩

section

variable {S : α → α → Prop} {s s' : Shape α}

theorem Carries.takeNamed {T : s.Slots → s'.Slots → Prop} (hT : Carries o R S s s' T)
    {ms ms' : List (String × Json)} (h : Json.SameMembers R ms ms') {slots : s.Slots}
    {slots' : s'.Slots} (hs : T slots slots') :
    Decoded.Alike T (s.takeNamed o (given ms) slots) (s'.takeNamed o (given ms') slots') := by
  induction h generalizing slots slots' with
  | nil => exact .ok hs
  | @cons m m' _ _ hm _ ih =>
    obtain ⟨k, v⟩ := m
    obtain ⟨_, v'⟩ := m'
    obtain ⟨rfl, hv⟩ := hm
    exact (hT.take hv hs).bind fun _ _ h => ih h

/-! ### Items -/

/-- What a record leaves of its items is alike for the fields that follow. -/
theorem Alike.fromItems (h : Alike o R S s s') (hR : ∀ name j, R name j j) {names : List String}
    (expected : String) {js js' : List Json}
    (hj : Json.SameItems R (s.names.reverse ++ names) js js') :
    Decoded.Alike (fun p p' => S p.1 p'.1 ∧
        ∃ left left', p.2 = Doc.ofItems left ∧ p'.2 = Doc.ofItems left' ∧
          Json.SameItems R names left left')
      (s.fromItems o expected none (Doc.ofItems js))
      (s'.fromItems o expected none (Doc.ofItems js')) := by
  induction h generalizing names js js' with
  | build h => exact .ok ⟨h, js, js', rfl, rfl, hj⟩
  | @field α β S Q rest rest' f f' hothers hname hdecode hdefault ih =>
    rw [Shape.names, List.reverse_cons, List.append_assoc] at hj
    refine (ih hj).bind ?_
    rintro ⟨g, _⟩ ⟨g', _⟩ ⟨hg, left, left', rfl, rfl, hleft⟩
    rcases hleft.split hR with ⟨rfl, rfl⟩ | ⟨j, j', left, left', rfl, rfl, hj, hleft⟩
    · generalize f.default? = x at hdefault ⊢
      generalize f'.default? = x' at hdefault ⊢
      cases hdefault with
      | none => rw [hothers.size_eq]; exact .error _
      | some hb => exact .ok ⟨hg _ _ hb, [], [], rfl, rfl, .rest _ _⟩
    · exact (hdecode j j' hj).map fun b b' hb => ⟨hg _ _ hb, left, left', rfl, rfl, hleft⟩

theorem Alike.decoder_object (h : Alike o R S s s') (recordName : String)
    {ms ms' : List (String × Json)}
    (hm : Json.SameMembers R (ms.filter (·.1 ∈ s.names)) (ms'.filter (·.1 ∈ s.names))) :
    Decoded.Alike S (s.decoder recordName o (.ofJson (.object ms)))
      (s'.decoder recordName o (.ofJson (.object ms'))) := by
  obtain ⟨T, hT⟩ := h.carries
  simp only [Doc.ofJson, Shape.decoder]
  rw [takeAll_ofMembers, takeAll_ofMembers, takeNamed_known s, takeNamed_known s', ← h.names_eq]
  exact (hT.takeNamed hm hT.empty).bind fun _ _ => hT.finish

theorem Alike.decoder_array (h : Alike o R S s s') (hR : ∀ name j, R name j j)
    (recordName : String) {js js' : List Json} (hj : Json.SameItems R s.names.reverse js js') :
    Decoded.Alike S (s.decoder recordName o (.ofJson (.array js)))
      (s'.decoder recordName o (.ofJson (.array js'))) := by
  simp only [Doc.ofJson, Shape.decoder]
  by_cases ho : o = .yaml
  · rw [if_pos ho, if_pos ho]
    exact .error _
  · have hsized : s.sizedName recordName = s'.sizedName recordName := by
      rw [sizedName, sizedName, h.size_eq]
    have hlength : (Doc.ofItems js).length = (Doc.ofItems js').length := by
      rw [Doc.ofItems_eq_map, Doc.ofItems_eq_map, List.length_map, List.length_map, hj.length_eq]
    rw [if_neg ho, if_neg ho, ← hsized, ← hlength]
    rw [← List.append_nil s.names.reverse] at hj
    refine (h.fromItems hR _ hj).bind ?_
    rintro ⟨a, _⟩ ⟨a', _⟩ ⟨ha, left, left', rfl, rfl, hleft⟩
    -- no field follows, so that the same is left of both lists
    cases hleft
    cases left with
    | nil => exact .ok ha
    | cons j left => cases o <;> exact .error _

/-- The decoder of a record makes of values with the same fields what its shape makes of them. -/
theorem Alike.decoder (h : Alike o R S s s') (hR : ∀ name j, R name j j) (recordName : String)
    {j j' : Json} (hj : Json.SameFields s.names.reverse R j j') :
    Decoded.Alike S (s.decoder recordName o (.ofJson j)) (s'.decoder recordName o (.ofJson j')) := by
  cases hj with
  | same =>
    cases j with
    | object ms =>
      exact h.decoder_object recordName (.refl hR _)
    | array js => exact h.decoder_array hR recordName (.rest _ _)
    | null | bool | number | text => exact .error _
  | members hm => exact h.decoder_object recordName (by simpa only [List.mem_reverse] using hm)
  | items hj => exact h.decoder_array hR recordName hj

/-! ### Fields that are not given -/

theorem given_append (ms ms' : List (String × Json)) : given (ms ++ ms') = given ms ++ given ms' :=
  List.map_append

theorem map_fst_given (ms : List (String × Json)) : (given ms).map (·.1) = ms.map (·.1) := by
  rw [given, List.map_map]
  rfl

/-- A member for the last field comes to the same as none, up to what is alike, if what it gives is
like the default. -/
theorem Alike.decoder_given {S : α → α → Prop} {Q : β → β → Prop} {rest : Shape (β → α)} {f : Field β}
    (h : Alike o (fun _ => Eq) (fun g g' => ∀ b b', Q b b' → S (g b) (g' b')) rest rest)
    (recordName : String) {front back : List (String × Json)}
    (hn : f.name ∉ (front ++ back).map (·.1)) {j : Json} {b b' : β} (hb : f.default? = some b)
    (hb' : f.decode o (.ofJson j) = .ok b') (hQ : Q b b') :
    Decoded.Alike S
      ((rest.field f).decoder recordName o (.ofJson (.object (front ++ back))))
      ((rest.field f).decoder recordName o (.ofJson (.object (front ++ (f.name, j) :: back)))) := by
  have hparts := hn
  rw [List.map_append, List.mem_append, not_or] at hparts
  have hfront : f.name ∉ (given front).map (·.1) := by
    rw [map_fst_given]
    exact hparts.1
  have hback : f.name ∉ (given back).map (·.1) := by
    rw [map_fst_given]
    exact hparts.2
  obtain ⟨T, hT⟩ := h.carries
  have hothers : Decoded.Alike T (rest.takeNamed o (given (front ++ back)) rest.emptySlots)
      (rest.takeNamed o (given (front ++ back)) rest.emptySlots) :=
    hT.takeNamed (.refl (fun _ _ => rfl) _) hT.empty
  have habsent : (rest.field f).takeNamed o (given (front ++ back)) (rest.field f).emptySlots =
      (rest.takeNamed o (given (front ++ back)) rest.emptySlots).map (addSlot · none) :=
    takeNamed_others (by rw [map_fst_given]; exact hn) _ _
  have hpresent : (rest.field f).takeNamed o (given (front ++ (f.name, j) :: back))
        (rest.field f).emptySlots =
      (rest.takeNamed o (given (front ++ back)) rest.emptySlots).map (addSlot · (some b')) := by
    rw [given_append, given_append]
    exact takeNamed_split hfront hback hb' _
  simp only [Doc.ofJson, Shape.decoder]
  rw [takeAll_ofMembers, takeAll_ofMembers, habsent, hpresent]
  refine (hothers.map (T := fun p p' => ∃ others others', T others others' ∧
    p = addSlot others none ∧ p' = addSlot others' (some b'))
    fun others others' h => ⟨others, others', h, rfl, rfl⟩).bind ?_
  rintro _ _ ⟨others, others', hs, rfl, rfl⟩
  rw [finish_addSlot_none others hb, finish_addSlot_some]
  exact (hT.finish hs).map fun g g' hg => hg b b' hQ

/-! ### Fields like themselves -/

/-- A field that makes the same of values that are alike. -/
theorem Alike.blind {S : α → α → Prop} {rest rest' : Shape (β → α)} {f : Field β}
    (h : Alike o R (fun g g' => ∀ b, S (g b) (g' b)) rest rest')
    (hf : f.decode.Blind o (R f.name)) : Alike o R S (rest.field f) (rest'.field f) := by
  refine .field (Q := Eq) ?_ rfl (fun j j' hj => Decoded.alike_eq.2 (hf j j' hj)) ?_
  · simpa only [forall_eq'] using h
  · cases f.default? with
    | none => exact .none
    | some b => exact .some rfl

/-- Shapes whose fields all do. -/
def Blind (o : Origin) (R : String → Json → Json → Prop) : {α : Type} → Shape α → Prop
  | _, .build _ => True
  | _, .field rest f => rest.Blind o R ∧ f.decode.Blind o (R f.name)

theorem Blind.alike (h : s.Blind o R) (hS : ∀ a, S a a) : Alike o R S s s := by
  induction s with
  | build a => exact .build (hS a)
  | field rest f ih => exact .blind (ih h.1 fun g b => hS (g b)) h.2

/-- The decoder of a record makes the same of values with the same fields if its fields do. -/
theorem Blind.decoder (h : s.Blind o R) (hR : ∀ name j, R name j j) (recordName : String) :
    (s.decoder recordName).Blind o (Json.SameFields s.names.reverse R) :=
  fun _ _ hj => Decoded.alike_eq.1 ((h.alike fun _ => rfl).decoder hR recordName hj)

end

end Shape

end Dialogue
