/-
JSON text reads back. What the printer writes for a value of texts, truth values and whole numbers of
64 bits is read as that value, with nothing left over (`readDoc_chars`): strings through their escapes,
numbers up to what follows them, collections through the blanks between their parts. The layout over
several lines and the one without any space differ only in where they put blanks (`Spacing`).
-/
import Dialogue.Proofs.Document.Reading
import Dialogue.Proofs.Json.Numeral
import Dialogue.Proofs.Json.Spacing

namespace Dialogue.Json

/-! ## Strings -/

theorem hexValue_hexDigit : ∀ n < 16, hexValue? (Text.hexDigit n) = some n := by
  decide

/-- A character that needs no escape is a piece by itself. -/
theorem pieces_plain {c : Char} (hq : c ≠ '"') (hb : c ≠ '\\') (hc : ¬ c.toNat < 0x20)
    (rest : List Char) : pieces (c :: rest) = (.char c :: (pieces rest).1, (pieces rest).2) := by
  rw [pieces.eq_def]
  split <;> simp_all

/-- The code of a control character in two hexadecimal digits stands for it. -/
theorem pieces_code {c : Char} (hc : c.toNat < 0x20) (rest : List Char) :
    pieces ('\\' :: 'u' :: '0' :: '0' :: Text.hexDigit (c.toNat / 16) ::
        Text.hexDigit (c.toNat % 16) :: rest) =
      (.char c :: (pieces rest).1, (pieces rest).2) := by
  have h0 : hexValue? '0' = some 0 := rfl
  have hhigh := hexValue_hexDigit (c.toNat / 16) (by omega)
  have hlow := hexValue_hexDigit (c.toNat % 16) (by omega)
  have hcode : ((0 * 16 + 0) * 16 + c.toNat / 16) * 16 + c.toNat % 16 = c.toNat := by omega
  have hpiece : Piece.ofCode c.toNat = .char c := by
    simp only [Piece.ofCode, Char.ofNat_toNat]
    rw [if_neg (by omega), if_neg (by omega)]
  rw [pieces]
  simp only [h0, hhigh, hlow, hcode, hpiece]

/-- However a character is written, it is read as itself. -/
theorem pieces_escapeChar (c : Char) (rest : List Char) :
    pieces (escapeChar c ++ rest) = (.char c :: (pieces rest).1, (pieces rest).2) := by
  unfold escapeChar
  split
  · next h => subst h; rfl
  split
  · next h => subst h; rfl
  split
  · next h => subst h; rfl
  split
  · next h => subst h; rfl
  split
  · next h => subst h; rfl
  split
  · next h => subst h; rfl
  split
  · next h => subst h; rfl
  split
  · next h => exact pieces_code h rest
  · next hq hb _ _ _ _ _ hc => exact pieces_plain hq hb hc rest

theorem pieces_escaped (cs rest : List Char) :
    pieces (cs.flatMap escapeChar ++ '"' :: rest) = (cs.map .char, .closed rest) := by
  induction cs with
  | nil => rfl
  | cons c cs ih => rw [List.flatMap_cons, List.append_assoc, pieces_escapeChar, ih, List.map_cons]

theorem joinPieces_chars (cs : List Char) : joinPieces? (cs.map .char) = some cs := by
  induction cs with
  | nil => rfl
  | cons c cs ih => simp [joinPieces?, ih]

/-- A string is read up to its closing quote. -/
theorem stringDoc_escaped (s : String) (rest : List Char) :
    stringDoc (s.toList.flatMap escapeChar ++ '"' :: rest) = (.text s, some rest) := by
  simp [stringDoc, pieces_escaped, joinPieces_chars]

/-! ## Blanks -/

theorem skipSpaces_cons {c : Char} (h : isSpace c = false) (cs : List Char) :
    skipSpaces (c :: cs) = c :: cs := by
  simp [skipSpaces, h]

theorem skipSpaces_append {blanks : List Char} (h : ∀ c ∈ blanks, isSpace c) (cs : List Char) :
    skipSpaces (blanks ++ cs) = skipSpaces cs :=
  List.dropWhile_append_of_pos h

/-- Blanks in front of a value do not count. -/
theorem valueDoc_of_skipSpaces {fuel depth : Nat} {cs cs' : List Char}
    (h : skipSpaces cs = skipSpaces cs') : valueDoc fuel depth cs = valueDoc fuel depth cs' := by
  cases fuel with
  | zero => rfl
  | succ fuel => simp only [valueDoc, h]

/-- A number ends in front of blanks as it would behind them. -/
theorem endsNumber_append {blanks : List Char} (h : ∀ c ∈ blanks, isSpace c) {cs : List Char}
    (hcs : EndsNumber cs) : EndsNumber (blanks ++ cs) := by
  cases blanks with
  | nil => exact hcs
  | cons c blanks =>
    refine endsNumber_cons _ ?_
    have hc := h c List.mem_cons_self
    simp only [isSpace, Bool.or_eq_true, beq_iff_eq] at hc
    rcases hc with ((rfl | rfl) | rfl) | rfl <;> decide

/-! ## Values -/

/-- Values made of texts, truth values and whole numbers of 64 bits, in at most `n` levels of arrays
and objects. -/
inductive Legible : Nat → Json → Prop
  | text {n : Nat} (s : String) : Legible n (.text s)
  | bool {n : Nat} (b : Bool) : Legible n (.bool b)
  | count {n k : Nat} (h : k < Number.wordLimit) : Legible n (.ofNat k)
  | array {n : Nat} {items : List Json} (h : ∀ j ∈ items, Legible n j) :
    Legible (n + 1) (.array items)
  | object {n : Nat} {members : List (String × Json)} (h : ∀ m ∈ members, Legible n m.2) :
    Legible (n + 1) (.object members)

theorem Simple.legible {n : Nat} {j : Json} (h : j.Simple n) : j.Legible n := by
  induction h with
  | text s => exact .text s
  | bool b => exact .bool b
  | array _ ih => exact .array ih
  | object _ _ ih => exact .object ih

theorem Legible.mono {n m : Nat} {j : Json} (h : j.Legible n) (hm : n ≤ m) : j.Legible m := by
  induction h generalizing m with
  | text s => exact .text s
  | bool b => exact .bool b
  | count hk => exact .count hk
  | array _ ih =>
    obtain ⟨m, rfl⟩ : ∃ k, m = k + 1 := ⟨m - 1, by omega⟩
    exact .array fun j hj => ih j hj (by omega)
  | object _ ih =>
    obtain ⟨m, rfl⟩ : ∃ k, m = k + 1 := ⟨m - 1, by omega⟩
    exact .object fun j hj => ih j hj (by omega)

theorem atDepth_of_lt {depth : Nat} (h : depth < depthLimit) (d : Doc) : atDepth depth d = d :=
  if_pos h

/-- A whole number is written as its digits. -/
theorem chars_ofNat (p : Spacing) (level k : Nat) :
    p.chars level (.ofNat k) = Nat.toDigits 10 k := by
  show (toString k).toList = _
  rw [Nat.toString_eq_ofList_toDigits, String.toList_ofList]

theorem isSpace_of_isDigit {c : Char} (h : c.isDigit) : isSpace c = false := by
  by_contra hspace
  simp only [isSpace, Bool.or_eq_true, beq_iff_eq, Bool.not_eq_false] at hspace
  rcases hspace with ((rfl | rfl) | rfl) | rfl <;> cases h

/-- Whether a value begins with this character and no blank, and is no closing mark. -/
theorem chars_head {n : Nat} {j : Json} (hj : j.Legible n) (p : Spacing) (level : Nat) :
    ∃ c cs, p.chars level j = c :: cs ∧ isSpace c = false ∧ c ≠ ']' := by
  cases hj with
  | text s => exact ⟨_, _, rfl, rfl, by decide⟩
  | bool b => cases b <;> exact ⟨_, _, rfl, rfl, by decide⟩
  | @count _ k _ =>
    obtain ⟨d, ds, hd, hdigit⟩ := toDigits_cons k
    refine ⟨d, ds, by rw [chars_ofNat, hd], isSpace_of_isDigit hdigit, ?_⟩
    rintro rfl
    cases hdigit
  | @array _ items _ => cases items <;> exact ⟨_, _, rfl, rfl, by decide⟩
  | @object _ members _ => cases members <;> exact ⟨_, _, rfl, rfl, by decide⟩

/-! ## Reading what was written -/

section

variable {p : Spacing} {level depth : Nat}

/-- Whether reading the value with enough fuel gives it back, in front of whatever ends a number. -/
def ReadsAt (p : Spacing) (level depth : Nat) (j : Json) : Prop :=
  ∀ (fuel : Nat) (rest : List Char), EndsNumber rest → (p.chars level j).length ≤ fuel →
    valueDoc fuel depth (p.chars level j ++ rest) = (.ofJson j, some rest)

theorem text_readsAt (s : String) : ReadsAt p level depth (.text s) := by
  intro fuel rest _ hf
  cases fuel with
  | zero => simp [Spacing.chars, atomChars, stringChars] at hf
  | succ fuel =>
    have hcs : p.chars level (.text s) ++ rest =
        '"' :: (s.toList.flatMap escapeChar ++ '"' :: rest) := by
      simp [Spacing.chars, atomChars, stringChars]
    rw [hcs, valueDoc, skipSpaces_cons rfl]
    exact stringDoc_escaped s rest

theorem bool_readsAt (b : Bool) : ReadsAt p level depth (.bool b) := by
  intro fuel rest _ hf
  cases fuel with
  | zero => cases b <;> simp [Spacing.chars, atomChars] at hf
  | succ fuel => cases b <;> rfl

/-- A digit is the mark of no other kind of value. -/
theorem valueDoc_digit {c : Char} (h : c.isDigit) (fuel : Nat) (cs : List Char) :
    valueDoc (fuel + 1) depth (c :: cs) = numberDoc (c :: cs) := by
  rw [valueDoc, skipSpaces_cons (isSpace_of_isDigit h)]
  split
  · next he => cases he
  · next he => cases he; cases h
  · next he => cases he; cases h
  · next he => cases he; cases h
  · next he => cases he; cases h
  · next he => cases he; cases h
  · next he => cases he; cases h
  · next he => cases he; exact if_pos (.inr h)

theorem count_readsAt {k : Nat} (hk : k < Number.wordLimit) :
    ReadsAt p level depth (.ofNat k) := by
  intro fuel rest hrest hf
  obtain ⟨d, ds, hd, hdigit⟩ := toDigits_cons k
  have hnumber := numberDoc_digits hk hrest
  rw [chars_ofNat] at hf ⊢
  rw [hd] at hf hnumber ⊢
  cases fuel with
  | zero => simp at hf
  | succ fuel =>
    rw [List.cons_append] at hnumber ⊢
    rw [valueDoc_digit hdigit]
    exact hnumber

/-- A number ends where the part of a collection that it is ends. -/
theorem endsNumber_item (items : List Json) (outer : Nat) (rest : List Char) :
    EndsNumber (p.itemChars level items ++ (p.gap outer ++ ']' :: rest)) := by
  cases items with
  | nil => exact endsNumber_append (p.gap_blank outer) (endsNumber_cons rest (by decide))
  | cons item items => exact endsNumber_cons _ (by decide)

theorem endsNumber_member (members : List (String × Json)) (outer : Nat) (rest : List Char) :
    EndsNumber (p.memberChars level members ++ (p.gap outer ++ '\x7d' :: rest)) := by
  cases members with
  | nil => exact endsNumber_append (p.gap_blank outer) (endsNumber_cons rest (by decide))
  | cons m members => exact endsNumber_cons _ (by decide)

/-- Items are read up to the closing bracket. -/
theorem itemDocs_chars {n : Nat} {item : Json} {items : List Json}
    (hj : ∀ j ∈ item :: items, j.Legible n) (hr : ∀ j ∈ item :: items, ReadsAt p level depth j)
    (fuel outer : Nat) (rest : List Char)
    (hf : (p.chars level item).length + (p.itemChars level items).length < fuel) :
    itemDocs fuel depth
        (p.chars level item ++ (p.itemChars level items ++ (p.gap outer ++ ']' :: rest))) =
      (Doc.ofItems (item :: items), none, some rest) := by
  induction items generalizing item fuel with
  | nil =>
    obtain ⟨fuel, rfl⟩ : ∃ k, fuel = k + 1 := ⟨fuel - 1, by omega⟩
    rw [List.forall_mem_singleton] at hr
    rw [itemDocs, hr fuel _ (endsNumber_item [] outer rest) (by omega)]
    simp only [Spacing.itemChars, List.nil_append, skipSpaces_append (p.gap_blank _),
      skipSpaces_cons (by rfl : isSpace ']' = false)]
    rfl
  | cons next items ih =>
    obtain ⟨fuel, rfl⟩ : ∃ k, fuel = k + 1 := ⟨fuel - 1, by omega⟩
    rw [List.forall_mem_cons] at hj hr
    obtain ⟨c, cs, hc, hspace, hclose⟩ := chars_head (hj.2 next List.mem_cons_self) p level
    have hnext := ih hj.2 hr.2 fuel (by simp [Spacing.itemChars] at hf; omega)
    rw [itemDocs, hr.1 fuel _ (endsNumber_item (next :: items) outer rest) (by omega)]
    simp only [Spacing.itemChars, List.cons_append, List.append_assoc,
      skipSpaces_append (p.gap_blank _), skipSpaces_cons (by rfl : isSpace ',' = false)]
    -- behind a comma the reader first looks for a bracket that closes the list
    rw [hc, List.cons_append] at hnext ⊢
    rw [skipSpaces_cons hspace]
    split
    · next h => cases h
    · next h => cases h; exact absurd rfl hclose
    · rw [hnext]
      rfl

/-- Members are read up to the closing brace. -/
theorem memberDocs_chars {name : String} {value : Json} {members : List (String × Json)}
    (hr : ∀ m ∈ (name, value) :: members, ReadsAt p level depth m.2) (fuel outer : Nat)
    (rest : List Char)
    (hf : (p.chars level value).length + (p.memberChars level members).length < fuel) :
    memberDocs fuel depth
        (name.toList.flatMap escapeChar ++ '"' :: ':' :: (p.afterColon ++ (p.chars level value ++
          (p.memberChars level members ++ (p.gap outer ++ '\x7d' :: rest))))) =
      (Doc.ofMembers ((name, value) :: members), none, some rest) := by
  induction members generalizing name value fuel with
  | nil =>
    obtain ⟨fuel, rfl⟩ : ∃ k, fuel = k + 1 := ⟨fuel - 1, by omega⟩
    rw [List.forall_mem_singleton] at hr
    rw [memberDocs, stringDoc_escaped]
    simp only [skipSpaces_cons (by rfl : isSpace ':' = false)]
    rw [valueDoc_of_skipSpaces (skipSpaces_append p.afterColon_blank _),
      hr fuel _ (endsNumber_member [] outer rest) (by simp at hf ⊢; omega)]
    simp only [Spacing.memberChars, List.nil_append, skipSpaces_append (p.gap_blank _),
      skipSpaces_cons (by rfl : isSpace '\x7d' = false)]
    rfl
  | cons next members ih =>
    obtain ⟨nextName, nextValue⟩ := next
    obtain ⟨fuel, rfl⟩ : ∃ k, fuel = k + 1 := ⟨fuel - 1, by omega⟩
    rw [List.forall_mem_cons] at hr
    have hnext := ih hr.2 fuel (by simp [Spacing.memberChars] at hf; omega)
    rw [memberDocs, stringDoc_escaped]
    simp only [skipSpaces_cons (by rfl : isSpace ':' = false)]
    rw [valueDoc_of_skipSpaces (skipSpaces_append p.afterColon_blank _),
      hr.1 fuel _ (endsNumber_member (_ :: members) outer rest) (by simp at hf ⊢; omega)]
    simp only [Spacing.memberChars, stringChars, List.cons_append, List.nil_append,
      List.append_assoc, skipSpaces_append (p.gap_blank _),
      skipSpaces_cons (by rfl : isSpace ',' = false),
      skipSpaces_cons (by rfl : isSpace '"' = false), hnext]
    rfl

/-- A value that is nested no deeper than the limit is read back. -/
theorem readsAt_of_legible {n : Nat} {j : Json} (hj : j.Legible n)
    (hd : depth + n ≤ depthLimit) : ReadsAt p level depth j := by
  induction hj generalizing level depth with
  | text s => exact text_readsAt s
  | bool b => exact bool_readsAt b
  | count hk => exact count_readsAt hk
  | @array n items hj ih =>
    intro fuel rest _ hf
    obtain ⟨fuel, rfl⟩ : ∃ k, fuel = k + 1 :=
      ⟨fuel - 1, by cases items <;> simp [Spacing.chars] at hf <;> omega⟩
    have hdepth : depth < depthLimit := by omega
    cases items with
    | nil => simp [Spacing.chars, valueDoc, skipSpaces, isSpace, atDepth, hdepth]; rfl
    | cons item items =>
      obtain ⟨c, cs, hc, hspace, hclose⟩ := chars_head (hj item List.mem_cons_self) p (level + 1)
      have hread : ∀ j ∈ item :: items, ReadsAt p (level + 1) (depth + 1) j :=
        fun j hj => ih j hj (by omega)
      have hitems := itemDocs_chars hj hread fuel level rest
        (by simp [Spacing.chars] at hf; omega)
      simp only [Spacing.chars, List.cons_append, List.append_assoc, List.nil_append, valueDoc,
        skipSpaces_cons (by rfl : isSpace '[' = false), skipSpaces_append (p.gap_blank _)]
      rw [hc, List.cons_append] at hitems ⊢
      rw [skipSpaces_cons hspace]
      split
      · next h => cases h; exact absurd rfl hclose
      · next h => cases h
      · rw [hitems]
        simp only [atDepth_of_lt hdepth]
        rfl
  | @object n members hj ih =>
    intro fuel rest _ hf
    obtain ⟨fuel, rfl⟩ : ∃ k, fuel = k + 1 :=
      ⟨fuel - 1, by cases members <;> simp [Spacing.chars] at hf <;> omega⟩
    have hdepth : depth < depthLimit := by omega
    cases members with
    | nil => simp [Spacing.chars, valueDoc, skipSpaces, isSpace, atDepth, hdepth]; rfl
    | cons m members =>
      obtain ⟨name, value⟩ := m
      have hread : ∀ m ∈ (name, value) :: members, ReadsAt p (level + 1) (depth + 1) m.2 :=
        fun m hm => ih m hm (by omega)
      have hmembers := memberDocs_chars hread fuel level rest
        (by simp [Spacing.chars] at hf; omega)
      simp only [Spacing.chars, stringChars, List.cons_append, List.append_assoc, List.nil_append,
        valueDoc, skipSpaces_cons (by rfl : isSpace '\x7b' = false),
        skipSpaces_append (p.gap_blank _), skipSpaces_cons (by rfl : isSpace '"' = false),
        hmembers, atDepth_of_lt hdepth]
      rfl

end

variable {n : Nat} {j : Json}

/-- The text of a value in any layout is read back, and nothing is left over. -/
theorem readDoc_chars (p : Spacing) (hj : j.Legible n) (hn : n ≤ depthLimit) :
    readDoc (String.ofList (p.chars 0 j)) = (.ofJson j, some []) := by
  have hread : ReadsAt p 0 0 j := readsAt_of_legible hj (by omega)
  have h := hread (2 * (String.ofList (p.chars 0 j)).length + 2) [] endsNumber_nil
    (by simp; omega)
  rw [List.append_nil] at h
  simpa [readDoc] using h

/-- Decoding the text of a value comes to the same as decoding the value. -/
theorem decodeText_chars {α : Type} (p : Spacing) (hj : j.Legible n) (hn : n ≤ depthLimit)
    (f : Decoder α) : decodeText f (String.ofList (p.chars 0 j)) = f .text (.ofJson j) := by
  simp only [decodeText, readDoc_chars p hj hn]
  cases f .text (.ofJson j) <;> rfl

theorem decodeText_pretty {α : Type} (hj : j.Legible n) (hn : n ≤ depthLimit) (f : Decoder α) :
    decodeText f j.pretty = f .text (.ofJson j) := by
  rw [← decodeText_chars .lines hj hn f, Spacing.chars_lines, pretty]

theorem decodeText_compact {α : Type} (hj : j.Legible n) (hn : n ≤ depthLimit) (f : Decoder α) :
    decodeText f j.compact = f .text (.ofJson j) := by
  rw [← decodeText_chars .tight hj hn f, Spacing.chars_tight, compact]

end Dialogue.Json
