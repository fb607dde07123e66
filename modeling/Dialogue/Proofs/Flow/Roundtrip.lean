/-
Flow files round-trip. The value of a flow decodes to the flow again, and so does each text that is
written for it: the one in JSON always, the one in YAML wherever YAML reads back the value that it
writes (`Yaml.ReadsBack`). A file to which a flow was saved is therefore loaded as that flow
(`files_roundtrip`). The extension that tells the format may have any letter case
(`extensionOf_name`).
-/
import Dialogue.Flow.File
import Dialogue.Proofs.Files.Tree
import Dialogue.Proofs.Flow.Reading
import Dialogue.Proofs.Json.Readback

namespace Dialogue

/-! ## Extensions -/

theorem Text.cut_of_not_mem {mark : Char} {piece : List Char} (h : mark ∉ piece) :
    Text.cut mark piece = [piece] := by
  induction piece with
  | nil => rfl
  | cons c piece ih =>
    simp only [List.mem_cons, not_or] at h
    simp [Text.cut, Ne.symm h.1, ih h.2]

/-- What stands behind the last mark is the last piece, whatever stands in front of it. -/
theorem Text.cut_last {mark : Char} {piece : List Char} (h : mark ∉ piece) (front : List Char) :
    ∃ first pieces, Text.cut mark (front ++ mark :: piece) = first :: (pieces ++ [piece]) := by
  induction front with
  | nil => exact ⟨[], [], by simp [Text.cut, Text.cut_of_not_mem h]⟩
  | cons c front ih =>
    obtain ⟨first, pieces, hp⟩ := ih
    rw [List.cons_append, Text.cut, hp]
    split
    · exact ⟨[], first :: pieces, rfl⟩
    · exact ⟨c :: first, pieces, rfl⟩

theorem afterDot_name {stem ext : List Char} (hstem : stem ≠ []) (hdot : '.' ∉ ext) :
    afterDot (stem ++ '.' :: ext) = ext := by
  have hext : ∀ c ∈ ext.reverse, decide (c ≠ '.') = true := by
    intro c hc
    exact decide_eq_true fun h => hdot (h ▸ List.mem_reverse.mp hc)
  have htake : (stem ++ '.' :: ext).reverse.takeWhile (· ≠ '.') = ext.reverse := by
    rw [List.reverse_append, List.reverse_cons, List.append_assoc,
      List.takeWhile_append_of_pos hext]
    simp
  have hlen : 0 < stem.length := List.length_pos_iff.mpr hstem
  rw [afterDot, htake, List.reverse_reverse, if_pos (by simp; omega)]

/-- The extension is what stands behind the last dot of the last name, in lower case. -/
theorem extensionOf_name {front stem ext : List Char}
    (hfront : front = [] ∨ ∃ folder, front = folder ++ ['/']) (hstem : stem ≠ [])
    (hslash : '/' ∉ stem ++ '.' :: ext) (hdot : '.' ∉ ext) :
    extensionOf (String.ofList (front ++ (stem ++ '.' :: ext))) =
      Text.lowercase (String.ofList ext) := by
  have hlast : ∃ pieces, Text.cut '/' (front ++ (stem ++ '.' :: ext)) =
      pieces ++ [stem ++ '.' :: ext] := by
    obtain rfl | ⟨folder, rfl⟩ := hfront
    · exact ⟨[], Text.cut_of_not_mem hslash⟩
    · obtain ⟨first, pieces, hp⟩ := Text.cut_last hslash folder
      exact ⟨first :: pieces, by rw [List.append_assoc]; exact hp⟩
  obtain ⟨pieces, hp⟩ := hlast
  have hname : decide (stem ++ '.' :: ext ≠ [] ∧ stem ++ '.' :: ext ≠ ['.']) = true := by
    cases stem <;> simp_all
  -- the name of the parent folder is told apart, but nothing stands behind its last dot either
  have hparent : stem ++ '.' :: ext = ['.', '.'] → ext = [] := by
    intro h
    have := congrArg List.length h
    have := List.length_pos_iff.mpr hstem
    simp at *
    exact List.length_eq_zero_iff.mp (by omega)
  simp only [extensionOf, String.toList_ofList, hp, List.filter_append, List.filter_singleton,
    hname, cond_true, List.getLast?_append, List.getLast?_singleton, Option.some_or,
    afterDot_name hstem hdot]
  split
  · next h => rw [hparent h]; rfl
  · rfl

example : extensionOf "flows.old/Welcome.YmL" = "yml" := by
  decide

/-! ## Texts -/

/-- Whether the YAML text of a value is read as a document that stands for the value. This cannot be
said of all values: the writer leaves a text without quotes that looks like a whole number of more
than 64 bits, and where any value may stand, the reader refuses such a number. -/
def Yaml.ReadsBack (j : Json) : Prop :=
  (Yaml.readDoc (Yaml.print j)).any (Doc.stands · j) = true

example : Yaml.styleOf "18446744073709551616" = .plain ∧
    (Yaml.resolve? "18446744073709551616").isNone := by
  decide +kernel

namespace Flow

variable {f : Flow}

/-- The value of a flow is decoded as the flow, unless it has a condition for which no name
stands. -/
theorem decodeValue_toJson_iff (now : Instant) :
    Json.decodeValue (Flow.decode now) f.toJson = .ok f ↔ f.Recognized :=
  ⟨decode_recognized, fun h => Flow.decode_reads h now _ (Doc.stands_ofJson f.toJson_simple)⟩

/-- The text of a flow is read as the flow, in YAML if the value is read back. -/
theorem ofText_toText (h : f.Recognized) (now : Instant) {format : FileFormat}
    (hyaml : format = .yaml → Yaml.ReadsBack f.toJson) :
    ofText now format (f.toText format) = .ok f := by
  cases format with
  | json =>
    have hread : Flow.decode now .text (.ofJson f.toJson) = .ok f :=
      Flow.decode_reads h now _ (Doc.stands_ofJson f.toJson_simple)
    simp only [ofText, toText, Json.decodeText_pretty f.toJson_simple.legible (by decide), hread]
  | yaml =>
    obtain ⟨d, hd, hstands⟩ := (Option.any_eq_true _ _).mp (hyaml rfl)
    simp only [ofText, toText, Yaml.decodeText, hd, Option.bind_some,
      Flow.decode_reads h now d hstands, Except.toOption]

/-! ## Files -/

/-- A flow can be saved wherever its extension is supported and the path can be written. -/
theorem save_isOk_iff {t : FileTree} {path : String} {format : FileFormat}
    (hf : FileFormat.ofPath? path = some format) :
    (∃ t', f.save t path = .ok t') ↔ t.Writable path := by
  rw [← FileTree.write_isOk_iff (.text (f.toText format))]
  simp only [save, hf]
  cases t.write path (.text (f.toText format)) <;> simp

theorem write_of_save {t t' : FileTree} {path : String} {format : FileFormat}
    (hf : FileFormat.ofPath? path = some format) (h : f.save t path = .ok t') :
    t.write path (.text (f.toText format)) = .ok t' := by
  rw [save, hf] at h
  cases hw : t.write path (.text (f.toText format)) with
  | error e => simp [hw] at h
  | ok t₁ => simpa [hw] using h

theorem ofPath?_of_mem {path : String} (h : extensionOf path ∈ ["json", "yaml", "yml"]) :
    ∃ format, FileFormat.ofPath? path = some format ∧
      (format = .yaml → extensionOf path ≠ "json") := by
  simp only [List.mem_cons, List.not_mem_nil, or_false] at h
  unfold FileFormat.ofPath?
  rcases h with h | h | h <;> rw [h]
  · exact ⟨.json, by decide, by simp⟩
  · exact ⟨.yaml, by decide, by simp⟩
  · exact ⟨.yaml, by decide, by simp⟩

/-- Every flow that was decoded or built is read back from its value, so that decoding a value that
was written, and writing it again, changes nothing. It can be saved wherever a file can be written,
under any extension that tells a format, and is loaded from there as it was saved. In a YAML file
this takes that YAML reads back the value that it writes. -/
theorem files_roundtrip (hf : f.Made) (now : Instant) :
    Json.decodeValue (Flow.decode now) f.toJson = .ok f ∧
    (Json.decodeValue (Flow.decode now) f.toJson).map Flow.toJson = .ok f.toJson ∧
    ∀ (t : FileTree) (path : String), extensionOf path ∈ ["json", "yaml", "yml"] →
      (extensionOf path ≠ "json" → Yaml.ReadsBack f.toJson) →
        ((∃ t', f.save t path = .ok t') ↔ t.Writable path) ∧
        ∀ t', f.save t path = .ok t' → Flow.load now t' path = .ok f := by
  have hvalue := (decodeValue_toJson_iff now).mpr hf.recognized
  refine ⟨hvalue, by rw [hvalue]; rfl, ?_⟩
  intro t path hext hyaml
  obtain ⟨format, hformat, hne⟩ := ofPath?_of_mem hext
  refine ⟨save_isOk_iff hformat, ?_⟩
  intro t' hsave
  have hread := FileTree.read_of_write (write_of_save hformat hsave)
  simp only [load, ofFile, hread, hformat]
  exact ofText_toText hf.recognized now fun h => hyaml (hne h)

/-- A flow with an unknown condition and a blank label. -/
def blankBranch : Flow :=
  ((Flow.empty "b" "ü: 1" "" .epoch).addNode (.logic "1" " is_vip ")).addEdge
    { id := "e", source := "1", target := "1", label := some " " }

theorem blankBranch_made : blankBranch.Made :=
  .addEdge (.addNode (.empty _ _ _ _) (.logic _ _)) _

theorem blankBranch_roundtrip :
    ∃ t', blankBranch.save {} "Branch.YmL" = .ok t' ∧
      Flow.load .epoch t' "Branch.YmL" = .ok blankBranch := by
  obtain ⟨-, -, hfiles⟩ := files_roundtrip blankBranch_made .epoch
  have hyaml : Yaml.ReadsBack blankBranch.toJson := by
    unfold Yaml.ReadsBack
    decide +kernel
  obtain ⟨hsave, hload⟩ := hfiles {} "Branch.YmL" (by decide) fun _ => hyaml
  obtain ⟨t', ht⟩ := hsave.mpr ⟨["Branch.YmL"], by decide +kernel, by decide, by decide⟩
  exact ⟨t', ht, hload t' ht⟩

end Flow

end Dialogue
