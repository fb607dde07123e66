/-
Small tables from texts to values, kept in the order in which keys first came. A key has one value
in a table that was built by these operations. A search through such keys ends because those it has
not met yet become fewer (`length_fresh_cons_lt`).
-/
namespace Dialogue

/-- Pairs of keys and values. -/
abbrev Table (α : Type) := List (String × α)

namespace Table

variable {α : Type}

/-- The value of a key. -/
def get? (t : Table α) (key : String) : Option α :=
  t.lookup key

/-- Gives a key a value, in the place of its former one if there is one. -/
def insert (key : String) (a : α) : Table α → Table α
  | [] => [(key, a)]
  | (k, b) :: t => if k = key then (k, a) :: t else (k, b) :: insert key a t

/-- Gives a key a value unless it has one. -/
def insertIfNew (key : String) (a : α) (t : Table α) : Table α :=
  if (t.get? key).isSome then t else t ++ [(key, a)]

/-- The table without the key. -/
def erase (t : Table α) (key : String) : Table α :=
  t.filter fun p => p.1 != key

/-- Whether the key has a value. -/
def contains (t : Table α) (key : String) : Bool :=
  (t.get? key).isSome

/-- The keys, in order. -/
def keys (t : Table α) : List String :=
  t.map (·.1)

/-- The values, in order of their keys. -/
def values (t : Table α) : List α :=
  t.map (·.2)

/-- Appends a value to the list of a key. -/
def append (key : String) (a : α) : Table (List α) → Table (List α)
  | [] => [(key, [a])]
  | (k, l) :: t => if k = key then (k, l ++ [a]) :: t else (k, l) :: append key a t

/-! ## Laws -/

@[simp] theorem get?_nil (key : String) : get? ([] : Table α) key = none := rfl

theorem get?_cons (k : String) (a : α) (t : Table α) (key : String) :
    get? ((k, a) :: t) key = if key = k then some a else t.get? key := by
  unfold get?
  rw [List.lookup_cons]
  by_cases h : key = k
  · simp [h]
  · have hk : (key == k) = false := beq_eq_false_iff_ne.2 h
    simp [h, hk]

theorem mem_of_get? {t : Table α} {key : String} {a : α} (h : t.get? key = some a) :
    (key, a) ∈ t := by
  induction t with
  | nil => simp at h
  | cons p t ih =>
    obtain ⟨k, b⟩ := p
    rw [get?_cons] at h
    split at h
    · rename_i hk; cases h; simp [hk]
    · exact List.mem_cons_of_mem _ (ih h)

theorem mem_keys_of_get? {t : Table α} {key : String} {a : α} (h : t.get? key = some a) :
    key ∈ t.keys :=
  List.mem_map.2 ⟨_, mem_of_get? h, rfl⟩

/-- Where no key occurs twice, what stands in the table is what is found. -/
theorem get?_of_mem {t : Table α} (hd : t.keys.Nodup) {key : String} {a : α} (h : (key, a) ∈ t) :
    t.get? key = some a := by
  induction t with
  | nil => simp at h
  | cons p t ih =>
    obtain ⟨k, b⟩ := p
    simp only [keys, List.map_cons, List.nodup_cons] at hd
    rw [get?_cons]
    rcases List.mem_cons.1 h with h | h
    · cases h; simp
    · have hk : key ≠ k := fun he => hd.1 (List.mem_map.2 ⟨_, h, he⟩)
      rw [if_neg hk]
      exact ih hd.2 h

theorem get?_insert (t : Table α) (k : String) (a : α) (key : String) :
    (t.insert k a).get? key = if key = k then some a else t.get? key := by
  induction t with
  | nil => simp [insert, get?_cons]
  | cons p t ih =>
    obtain ⟨k', b⟩ := p
    by_cases h : k' = k
    · by_cases hk : key = k <;> simp [insert, h, get?_cons, hk]
    · simp only [insert, h, if_false, get?_cons, ih]
      by_cases hk : key = k'
      · have hne : key ≠ k := by rw [hk]; exact h
        simp [hk, h]
      · simp [hk]

theorem get?_insertIfNew (t : Table α) (k : String) (a : α) (key : String) :
    (t.insertIfNew k a).get? key = if key = k then some ((t.get? k).getD a) else t.get? key := by
  unfold insertIfNew
  by_cases h : (t.get? k).isSome
  · obtain ⟨b, hb⟩ := Option.isSome_iff_exists.1 h
    by_cases hk : key = k <;> simp [hb, hk]
  · have hn : t.get? k = none := by simpa using h
    rw [if_neg h]
    clear h
    induction t with
    | nil => simp [get?_cons, hn]
    | cons p t ih =>
      obtain ⟨k', b⟩ := p
      rw [get?_cons] at hn
      split at hn
      · cases hn
      · rename_i hne
        simp only [List.cons_append, get?_cons, ih hn, if_neg hne]
        by_cases hk : key = k
        · simp [hk, hne]
        · simp [hk]

theorem get?_append (t : Table (List α)) (k : String) (a : α) (key : String) :
    (t.append k a).get? key = if key = k then some ((t.get? k).getD [] ++ [a]) else t.get? key := by
  induction t with
  | nil => simp [append, get?_cons]
  | cons p t ih =>
    obtain ⟨k', l⟩ := p
    by_cases h : k' = k
    · by_cases hk : key = k <;> simp [append, h, get?_cons, hk]
    · simp only [append, h, if_false, get?_cons, ih]
      by_cases hk : key = k'
      · simp [hk, h]
      · simp [hk, Ne.symm h]

theorem get?_erase (t : Table α) (k key : String) :
    (t.erase k).get? key = if key = k then none else t.get? key := by
  induction t with
  | nil => simp [erase]
  | cons p t ih =>
    obtain ⟨k', b⟩ := p
    unfold erase at ih ⊢
    rw [List.filter_cons]
    by_cases h : k' = k
    · subst h
      simp only [bne_self_eq_false, Bool.false_eq_true, if_false, ih, get?_cons]
      by_cases hk : key = k' <;> simp [hk]
    · simp only [bne_iff_ne, ne_eq, h, not_false_eq_true, if_true, get?_cons, ih]
      by_cases hk : key = k'
      · simp [hk, h]
      · simp [hk]

/-- The later of two values for one key stays. -/
theorem insert_insert (t : Table α) (k : String) (a b : α) :
    (t.insert k a).insert k b = t.insert k b := by
  induction t with
  | nil => simp [insert]
  | cons p t ih =>
    obtain ⟨k', c⟩ := p
    by_cases h : k' = k <;> simp [insert, h, ih]

theorem mem_insert {t : Table α} {k : String} {a : α} {p : String × α} (h : p ∈ t.insert k a) :
    p = (k, a) ∨ p ∈ t := by
  induction t with
  | nil => exact .inl (by simpa [insert] using h)
  | cons q t ih =>
    obtain ⟨k', b⟩ := q
    by_cases hk : k' = k
    · simp only [insert, hk, if_true, List.mem_cons] at h
      exact h.imp id (List.mem_cons_of_mem _)
    · simp only [insert, hk, if_false, List.mem_cons] at h ⊢
      rcases h with h | h
      · exact .inr (.inl h)
      · exact (ih h).imp id .inr

theorem mem_keys_insert {t : Table α} {k : String} {a : α} {key : String}
    (h : key ∈ (t.insert k a).keys) : key = k ∨ key ∈ t.keys := by
  obtain ⟨p, hp, rfl⟩ := List.mem_map.1 h
  rcases mem_insert hp with rfl | hp
  · exact .inl rfl
  · exact .inr (List.mem_map.2 ⟨p, hp, rfl⟩)

theorem nodup_keys_insert {t : Table α} (h : t.keys.Nodup) (k : String) (a : α) :
    (t.insert k a).keys.Nodup := by
  induction t with
  | nil => simp [insert, keys]
  | cons p t ih =>
    obtain ⟨k', b⟩ := p
    obtain ⟨hn, ht⟩ := List.nodup_cons.1 h
    by_cases hk : k' = k
    · simp only [insert, hk, if_true]
      exact List.nodup_cons.2 ⟨hk ▸ hn, ht⟩
    · simp only [insert, hk, if_false]
      refine List.nodup_cons.2 ⟨fun hm => ?_, ih ht⟩
      exact (mem_keys_insert hm).elim hk hn

theorem nodup_keys_erase {t : Table α} (h : t.keys.Nodup) (k : String) : (t.erase k).keys.Nodup :=
  h.sublist (List.filter_sublist.map _)

end Table

/-! ## What a search has still before it -/

/-- The ids that were not met yet. -/
def fresh (ids visited : List String) : List String :=
  ids.filter fun id => id ∉ visited

theorem fresh_cons (ids visited : List String) (id : String) :
    fresh ids (id :: visited) = (fresh ids visited).filter fun x => x ≠ id := by
  simp [fresh, List.filter_filter]

theorem length_fresh_cons_le (ids visited : List String) (id : String) :
    (fresh ids (id :: visited)).length ≤ (fresh ids visited).length := by
  rw [fresh_cons]
  exact List.length_filter_le _ _

theorem length_fresh_cons_lt {ids visited : List String} {id : String} (hi : id ∈ ids)
    (hv : id ∉ visited) : (fresh ids (id :: visited)).length < (fresh ids visited).length := by
  rw [fresh_cons, List.length_filter_lt_length_iff_exists]
  exact ⟨id, by simp [fresh, hi, hv], by simp⟩

end Dialogue
