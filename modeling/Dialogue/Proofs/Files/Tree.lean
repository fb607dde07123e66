/-
Files keep what is written to them. A path can be written where it leads into a folder and not to
one (`write_isOk_iff`), whatever is written, and reading it afterwards gives just that
(`read_of_write`).
-/
import Dialogue.Files.Tree

namespace Dialogue.FileTree

/-- The file that was put at a place is found there. -/
theorem lookup_put (place : FilePlace) (content : FileContent)
    (files : List (FilePlace × FileContent)) :
    (put place content files).lookup place = some content := by
  induction files with
  | nil => simp [put]
  | cons file files ih =>
    obtain ⟨p, c⟩ := file
    by_cases h : p = place
    · simp [put, h]
    · simp [put, h, List.lookup_cons, beq_false_of_ne (Ne.symm h), ih]

/-- Files do not matter for where a path leads. -/
theorem follow_of_files {t : FileTree} {place target : FilePlace} {names : List String}
    (h : t.follow place names = .ok target) (files : List (FilePlace × FileContent)) :
    { t with files }.follow place names = .ok target := by
  induction names generalizing place with
  | nil => exact h
  | cons name names ih =>
    by_cases hfolder : t.hasFolder place
    · rw [follow, if_pos hfolder] at h
      rw [follow, if_pos (by exact hfolder), ih h]
    · rw [follow, if_neg hfolder] at h
      split at h <;> cases h

theorem locate_of_files {t : FileTree} {path : String} {target : FilePlace}
    (h : t.locate path = .ok target) (files : List (FilePlace × FileContent)) :
    { t with files }.locate path = .ok target := by
  unfold locate at h ⊢
  split at h
  · cases h
  · next hne => rw [if_neg hne]; exact follow_of_files h files

/-- Whether a file can be written at a path: the path leads into a folder, and not to one. -/
def Writable (t : FileTree) (path : String) : Prop :=
  ∃ place, t.locate path = .ok place ∧ t.hasFolder place = false ∧ t.hasFolder place.dropLast = true

theorem write_eq_ok {t t' : FileTree} {path : String} {content : FileContent}
    (h : t.write path content = .ok t') :
    ∃ place, t.locate path = .ok place ∧ t.hasFolder place = false ∧
      t.hasFolder place.dropLast = true ∧ t' = { t with files := put place content t.files } := by
  unfold write at h
  cases hl : t.locate path with
  | error e => simp [hl, bind, Except.bind] at h
  | ok place =>
    simp only [hl, bind, Except.bind] at h
    split at h
    · cases h
    split at h
    · cases h
    · next hn hd => exact ⟨place, rfl, by simpa using hn, by simpa using hd, (Except.ok.inj h).symm⟩

/-- Whether a file can be written does not depend on what is written. -/
theorem write_isOk_iff {t : FileTree} {path : String} (content : FileContent) :
    (∃ t', t.write path content = .ok t') ↔ t.Writable path := by
  constructor
  · rintro ⟨t', h⟩
    obtain ⟨place, hl, hn, hd, -⟩ := write_eq_ok h
    exact ⟨place, hl, hn, hd⟩
  · rintro ⟨place, hl, hn, hd⟩
    exact ⟨_, by simp [write, hl, hn, hd, bind, Except.bind]; rfl⟩

/-- What was written to a path is read from it. -/
theorem read_of_write {t t' : FileTree} {path s : String} (h : t.write path (.text s) = .ok t') :
    t'.read path = .ok s := by
  obtain ⟨place, hl, -, -, rfl⟩ := write_eq_ok h
  have hl' := locate_of_files hl (put place (.text s) t.files)
  simp [read, hl', textAt, contentAt, file?, lookup_put, bind, Except.bind]

end Dialogue.FileTree
