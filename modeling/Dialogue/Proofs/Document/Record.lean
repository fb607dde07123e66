/-
Records from members in any order. Decoding goes through the members as they stand; where their
names differ, it comes to the same as asking for each field by its name (`decoder_record`).
Conversely, the fields of a record have values that something decodes to, or their defaults
(`decoder_builds`).
-/
import Dialogue.Document.Record
import Mathlib.Data.List.Forall2

namespace Dialogue

namespace Decoded

variable {α β : Type}

theorem bind_eq_ok {x : Decoded α} {f : α → Decoded β} {b : β} :
    x >>= f = .ok b ↔ ∃ a, x = .ok a ∧ f a = .ok b := by
  cases x with
  | error e => exact ⟨fun h => (nomatch h), fun ⟨_, h, _⟩ => (nomatch h)⟩
  | ok a => exact ⟨fun h => ⟨a, rfl, h⟩, fun ⟨_, h, h'⟩ => by cases h; exact h'⟩

theorem map_eq_ok {x : Decoded α} {f : α → β} {b : β} :
    x.map f = .ok b ↔ ∃ a, x = .ok a ∧ f a = b := by
  cases x <;> simp [Except.map]

end Decoded

/-- The value of a field, given what stands for it, if anything does. -/
def Field.value {β : Type} (f : Field β) (o : Origin) : Option Doc → Decoded β
  | some d => f.decode o d
  | none =>
    match f.default? with
    | some b => .ok b
    | none => mismatch (.missingField f.name)

namespace Shape

variable {α β : Type}

/-- The names of the fields, the last one first. -/
def names : {α : Type} → Shape α → List String
  | _, .build _ => []
  | _, .field rest f => f.name :: rest.names

/-- The record made of what is given for the names of its fields. -/
def assemble (o : Origin) (given : List (String × Doc)) : {α : Type} → Shape α → Decoded α
  | _, .build a => .ok a
  | _, .field rest f => do
    let g ← rest.assemble o given
    (f.value o (given.lookup f.name)).map g

/-- Only what is given for the names of the fields counts. -/
theorem assemble_congr {o : Origin} {given given' : List (String × Doc)} (s : Shape α)
    (h : ∀ n ∈ s.names, given.lookup n = given'.lookup n) :
    s.assemble o given = s.assemble o given' := by
  induction s with
  | build a => rfl
  | field rest f ih =>
    simp only [names, List.mem_cons, forall_eq_or_imp] at h
    simp only [assemble, ih h.2, h.1]

theorem assemble_field {rest : Shape (β → α)} {f : Field β} {o : Origin}
    {given : List (String × Doc)} {a : α} :
    (rest.field f).assemble o given = .ok a ↔
      ∃ g b, rest.assemble o given = .ok g ∧ f.value o (given.lookup f.name) = .ok b ∧ g b = a := by
  simp only [assemble, Decoded.bind_eq_ok, Decoded.map_eq_ok]
  exact ⟨fun ⟨g, hg, b, h⟩ => ⟨g, b, hg, h⟩, fun ⟨g, b, hg, h⟩ => ⟨g, hg, b, h⟩⟩

/-! ## Slots -/

/-- The slots of a shape with one more field. -/
def addSlot {rest : Shape (β → α)} {f : Field β} (others : rest.Slots) (slot : Option β) :
    (rest.field f).Slots :=
  (others, slot)

section

variable {rest : Shape (β → α)} {f : Field β} {o : Origin}

theorem take_other {name : String} (h : name ≠ f.name) (d : Doc) (others : rest.Slots)
    (slot : Option β) :
    (rest.field f).take o name d (addSlot others slot) =
      (rest.take o name d others).map (addSlot · slot) := by
  simp only [take, addSlot, if_neg h]

theorem take_same (d : Doc) (others : rest.Slots) :
    (rest.field f).take o f.name d (addSlot others none) =
      (f.decode o d).map fun b => addSlot others (some b) := by
  simp only [take, addSlot, if_true]

theorem finish_addSlot_some (others : rest.Slots) (b : β) :
    (rest.field f).finish (addSlot others (some b)) = (rest.finish others).map (· b) :=
  rfl

theorem finish_addSlot_none (others : rest.Slots) {b : β} (h : f.default? = some b) :
    (rest.field f).finish (addSlot others none) = (rest.finish others).map (· b) := by
  simp only [finish, addSlot, h]
  rfl

end

/-! ## Members with names -/

/-- Members whose keys are texts, and the names that these give. -/
def Named : List (Doc × Doc) → List (String × Doc) → Prop :=
  List.Forall₂ fun m g => m.1.toText = .ok g.1 ∧ m.2 = g.2

/-- Takes members by their names, in order. -/
def takeNamed (s : Shape α) (o : Origin) (given : List (String × Doc)) (slots : s.Slots) :
    Decoded s.Slots :=
  given.foldlM (fun slots g => s.take o g.1 g.2 slots) slots

theorem takeNamed_cons (s : Shape α) {o : Origin} (g : String × Doc) (given : List (String × Doc))
    (slots : s.Slots) :
    s.takeNamed o (g :: given) slots = (s.take o g.1 g.2 slots).bind (s.takeNamed o given) :=
  rfl

theorem takeNamed_append (s : Shape α) {o : Origin} (given given' : List (String × Doc))
    (slots : s.Slots) :
    s.takeNamed o (given ++ given') slots =
      (s.takeNamed o given slots).bind (s.takeNamed o given') :=
  List.foldlM_append

theorem takeAll_eq_takeNamed (s : Shape α) {o : Origin} {members : List (Doc × Doc)}
    {given : List (String × Doc)} (h : Named members given) (slots : s.Slots) :
    s.takeAll o members none slots = s.takeNamed o given slots := by
  induction h generalizing slots with
  | nil => rfl
  | @cons m g members given hm _ ih =>
    obtain ⟨k, v⟩ := m
    obtain ⟨n, d⟩ := g
    obtain ⟨hk, rfl⟩ := hm
    simp only [takeAll, hk, takeNamed_cons]
    exact bind_congr fun slots => ih slots

/-- Members that do not have the name of the last field are taken by the other fields. -/
theorem takeNamed_others {rest : Shape (β → α)} {f : Field β} {o : Origin}
    {given : List (String × Doc)} (h : f.name ∉ given.map (·.1)) (others : rest.Slots)
    (slot : Option β) :
    (rest.field f).takeNamed o given (addSlot others slot) =
      (rest.takeNamed o given others).map (addSlot · slot) := by
  induction given generalizing others with
  | nil => rfl
  | cons g given ih =>
    simp only [List.map_cons, List.mem_cons, not_or] at h
    rw [takeNamed_cons, takeNamed_cons, take_other (Ne.symm h.1)]
    cases rest.take o g.1 g.2 others with
    | error e => rfl
    | ok others => exact ih h.2 others

/-- Without any field, members that can be passed over leave nothing behind. -/
theorem takeNamed_build {a : α} {o : Origin} {given : List (String × Doc)}
    (h : ∀ g ∈ given, g.2.skip = none) (slots : (Shape.build a).Slots) :
    (Shape.build a).takeNamed o given slots = .ok slots := by
  induction given with
  | nil => rfl
  | cons g given ih =>
    simp only [List.mem_cons, forall_eq_or_imp] at h
    rw [takeNamed_cons, take, h.1]
    exact ih h.2

/-- A name that is found parts the list, and occurs in neither part if all names differ. -/
theorem split_of_lookup {given : List (String × Doc)} (hg : (given.map (·.1)).Nodup) {n : String}
    {d : Doc} (h : given.lookup n = some d) :
    ∃ front back, given = front ++ (n, d) :: back ∧ n ∉ front.map (·.1) ∧ n ∉ back.map (·.1) := by
  obtain ⟨front, back, rfl, hfront⟩ := List.lookup_eq_some_iff.mp h
  refine ⟨front, back, rfl, ?_, ?_⟩
  · simp only [List.mem_map, not_exists, not_and]
    rintro g hmem rfl
    exact absurd (hfront g hmem) (by simp)
  · simp only [List.map_append, List.map_cons, List.nodup_append, List.nodup_cons] at hg
    exact hg.2.1.1

/-- Other names are found as if the name were not there. -/
theorem lookup_split {front back : List (String × Doc)} {n m : String} (h : m ≠ n) (d : Doc) :
    (front ++ (n, d) :: back).lookup m = (front ++ back).lookup m := by
  simp [List.lookup_append, List.lookup_cons, beq_false_of_ne h]

/-- A member of the last field, among others, goes into its slot. -/
theorem takeNamed_split {rest : Shape (β → α)} {f : Field β} {o : Origin}
    {front back : List (String × Doc)} (hfront : f.name ∉ front.map (·.1))
    (hback : f.name ∉ back.map (·.1)) {d : Doc} {b : β} (hb : f.decode o d = .ok b)
    (others : rest.Slots) :
    (rest.field f).takeNamed o (front ++ (f.name, d) :: back) (addSlot others none) =
      (rest.takeNamed o (front ++ back) others).map (addSlot · (some b)) := by
  rw [takeNamed_append, takeNamed_append, takeNamed_others hfront]
  cases rest.takeNamed o front others with
  | error e => rfl
  | ok others =>
    simp only [Except.map, Except.bind, takeNamed_cons, take_same, hb]
    exact takeNamed_others hback others (some b)

/-- Members with different names fill the slots of the record that they assemble to. -/
theorem takeNamed_assemble {s : Shape α} {o : Origin} {given : List (String × Doc)} {a : α}
    (hs : s.names.Nodup) (hg : (given.map (·.1)).Nodup) (hskip : ∀ g ∈ given, g.2.skip = none)
    (ha : s.assemble o given = .ok a) :
    ∃ slots, s.takeNamed o given s.emptySlots = .ok slots ∧ s.finish slots = .ok a := by
  induction s generalizing given with
  | build b => exact ⟨_, takeNamed_build hskip _, ha⟩
  | @field α β rest f ih =>
    rw [names, List.nodup_cons] at hs
    obtain ⟨g, b, hr, hv, rfl⟩ := assemble_field.mp ha
    cases hl : given.lookup f.name with
    | none =>
      -- all members are left to the other fields, and the default fills the slot
      have habsent : f.name ∉ given.map (·.1) := by
        rw [List.lookup_eq_none_iff] at hl
        rintro hmem
        obtain ⟨p, hp, he⟩ := List.mem_map.mp hmem
        exact absurd (hl p hp) (by simp [he])
      have hd : f.default? = some b := by
        rw [hl, Field.value] at hv
        split at hv
        · next h => cases hv; exact h
        · cases hv
      obtain ⟨others, ht, hf⟩ := ih hs.2 hg hskip hr
      refine ⟨addSlot others none, ?_, ?_⟩
      · rw [emptySlots, ← addSlot, takeNamed_others habsent, ht]
        rfl
      · rw [finish_addSlot_none others hd, hf]
        rfl
    | some d =>
      -- the other fields are left the members in front of it and behind it
      obtain ⟨front, back, rfl, hfront, hback⟩ := split_of_lookup hg hl
      rw [hl] at hv
      rw [assemble_congr rest fun n hn => lookup_split (ne_of_mem_of_not_mem hn hs.1) d] at hr
      have hsub : List.Sublist (front ++ back) (front ++ (f.name, d) :: back) :=
        (List.sublist_cons_self _ _).append_left front
      obtain ⟨others, ht, hf⟩ :=
        ih hs.2 (hg.sublist (hsub.map _)) (fun g hg => hskip g (hsub.subset hg)) hr
      refine ⟨addSlot others (some b), ?_, ?_⟩
      · rw [emptySlots, ← addSlot, takeNamed_split hfront hback hv, ht]
        rfl
      · rw [finish_addSlot_some, hf]
        rfl

/-- Members with different names decode to the record that they assemble to. -/
theorem decoder_record {s : Shape α} {o : Origin} {members : List (Doc × Doc)}
    {given : List (String × Doc)} {a : α} (hs : s.names.Nodup) (hm : Named members given)
    (hg : (given.map (·.1)).Nodup) (hskip : ∀ g ∈ given, g.2.skip = none)
    (ha : s.assemble o given = .ok a) (recordName : String) :
    s.decoder recordName o (.record members none) = .ok a := by
  obtain ⟨slots, ht, hf⟩ := takeNamed_assemble hs hg hskip ha
  exact Decoded.bind_eq_ok.mpr ⟨slots, (takeAll_eq_takeNamed s hm _).trans ht, hf⟩

/-! ## Where the values come from -/

/-- The records whose fields have values that something decodes to, or their defaults. -/
def Builds (o : Origin) : {α : Type} → Shape α → α → Prop
  | _, .build a, a' => a = a'
  | _, .field rest f, a => ∃ g b, rest.Builds o g ∧ (∃ d?, f.value o d? = .ok b) ∧ g b = a

/-- Slots with nothing but values that something decodes to. -/
def Decodes (o : Origin) : {α : Type} → (s : Shape α) → s.Slots → Prop
  | _, .build _, _ => True
  | _, .field (β := β) rest f, slots =>
    let (others, slot) : rest.Slots × Option β := slots
    rest.Decodes o others ∧ ∀ b ∈ slot, ∃ d, f.decode o d = .ok b

theorem emptySlots_decodes (o : Origin) (s : Shape α) : s.Decodes o s.emptySlots := by
  induction s with
  | build a => trivial
  | field rest f ih => exact ⟨ih, by simp⟩

theorem take_decodes {s : Shape α} {o : Origin} {name : String} {d : Doc} {slots slots' : s.Slots}
    (h : s.Decodes o slots) (ht : s.take o name d slots = .ok slots') : s.Decodes o slots' := by
  induction s with
  | build a => trivial
  | field rest f ih =>
    obtain ⟨others, slot⟩ := slots
    obtain ⟨hothers, hslot⟩ := h
    change (rest.field f).take o name d (addSlot others slot) = _ at ht
    by_cases hn : name = f.name
    · subst hn
      cases slot with
      | some b => simp [take, addSlot, mismatch] at ht
      | none =>
        rw [take_same] at ht
        obtain ⟨b, hb, rfl⟩ := Decoded.map_eq_ok.mp ht
        exact ⟨hothers, fun b' hb' => ⟨d, by cases hb'; exact hb⟩⟩
    · rw [take_other hn] at ht
      obtain ⟨others', hothers', rfl⟩ := Decoded.map_eq_ok.mp ht
      exact ⟨ih hothers hothers', hslot⟩

theorem takeAll_decodes {s : Shape α} {o : Origin} {members : List (Doc × Doc)}
    {ending : Option Fault} {slots slots' : s.Slots} (h : s.Decodes o slots)
    (ht : s.takeAll o members ending slots = .ok slots') : s.Decodes o slots' := by
  induction members generalizing slots with
  | nil =>
    obtain ⟨_, _, rfl⟩ := Decoded.map_eq_ok.mp ht
    exact h
  | cons m members ih =>
    obtain ⟨k, v⟩ := m
    obtain ⟨name, _, ht⟩ := Decoded.bind_eq_ok.mp ht
    obtain ⟨slots₁, h₁, ht⟩ := Decoded.bind_eq_ok.mp ht
    exact ih (take_decodes h h₁) ht

theorem finish_builds {s : Shape α} {o : Origin} {slots : s.Slots} {a : α} (h : s.Decodes o slots)
    (hf : s.finish slots = .ok a) : s.Builds o a := by
  induction s with
  | build b => exact Except.ok.inj hf
  | field rest f ih =>
    obtain ⟨others, slot⟩ := slots
    obtain ⟨hothers, hslot⟩ := h
    obtain ⟨g, hg, hf⟩ := Decoded.bind_eq_ok.mp hf
    cases slot with
    | some b =>
      obtain ⟨d, hd⟩ := hslot b rfl
      exact ⟨g, b, ih hothers hg, ⟨some d, hd⟩, Except.ok.inj hf⟩
    | none =>
      cases hd : f.default? with
      | none => simp only [hd] at hf; cases hf
      | some b =>
        simp only [hd] at hf
        exact ⟨g, b, ih hothers hg, ⟨none, by simp only [Field.value, hd]⟩, Except.ok.inj hf⟩

theorem fromItems_builds {s : Shape α} {o : Origin} {expected : String} {ending : Option Fault}
    {items : List Doc} {r : α × List Doc} (h : s.fromItems o expected ending items = .ok r) :
    s.Builds o r.1 := by
  induction s with
  | build b => cases h; rfl
  | field rest f ih =>
    obtain ⟨⟨g, left⟩, hg, h⟩ := Decoded.bind_eq_ok.mp h
    cases left with
    | cons d left =>
      obtain ⟨b, hb, rfl⟩ := Decoded.map_eq_ok.mp h
      exact ⟨g, b, ih hg, ⟨some d, hb⟩, rfl⟩
    | nil =>
      obtain ⟨_, _, h⟩ := Decoded.bind_eq_ok.mp h
      cases hd : f.default? with
      | none => simp only [hd] at h; cases h
      | some b =>
        simp only [hd] at h
        cases h
        exact ⟨g, b, ih hg, ⟨none, by simp only [Field.value, hd]⟩, rfl⟩

/-- Whatever a record is decoded from, its fields have values that something decodes to, or their
defaults. -/
theorem decoder_builds {s : Shape α} {recordName : String} {o : Origin} {d : Doc} {a : α}
    (h : s.decoder recordName o d = .ok a) : s.Builds o a := by
  unfold decoder at h
  split at h
  · next members ending =>
    obtain ⟨slots, ht, hf⟩ := Decoded.bind_eq_ok.mp h
    exact finish_builds (takeAll_decodes (emptySlots_decodes o s) ht) hf
  · next items ending =>
    split at h
    · cases h
    · obtain ⟨⟨b, left⟩, hb, h⟩ := Decoded.bind_eq_ok.mp h
      simp only at h
      split at h
      · obtain ⟨_, _, h⟩ := Decoded.bind_eq_ok.mp h
        cases h
        exact fromItems_builds hb
      · unfold surplus at h
        split at h <;> cases h
  · exact finish_builds (emptySlots_decodes o s) h
  · unfold Doc.unexpected at h
    split at h <;> cases h

end Shape

end Dialogue
