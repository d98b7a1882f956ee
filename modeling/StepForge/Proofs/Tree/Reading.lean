import StepForge.Proofs.Text.Utf8
import StepForge.Proofs.Tree.Writing

/-!
# `StepForge.Proofs.Tree.Reading` — files that stay readable

What `locate` finds at a path is at the place of the path, behind directories. So a file is found again in
every tree that keeps it and has no fewer directories, and looking at it and reading it give the same.

## Contents
- `Tree.DirsKept`, `Tree.Grows` — one tree has all directories of another one, and its files elsewhere.
- `readBytes_kept`, `readText_kept` — reading, in a tree that keeps the file.
-/

namespace StepForge

/-- All directories of one tree are directories of another one. -/
def Tree.DirsKept (t u : Tree) : Prop := ∀ l, t.at? l = some .dir → u.at? l = some .dir

theorem Tree.DirsKept.refl (t : Tree) : t.DirsKept t := fun _ h => h

/-- A tree that has the directories of another one, and its files except at some places. -/
structure Tree.Grows (places : List Location) (t u : Tree) : Prop where
  dirs : t.DirsKept u
  files : ∀ l, l ∉ places → ∀ bytes, t.at? l = some (.file bytes) → u.at? l = some (.file bytes)

/-- More directories keep those that are there. -/
theorem Tree.DirsKept.of_withDirs {t u : Tree} {ls : List Location} (h : u.at? = withDirs ls t.at?) :
    t.DirsKept u := by
  intro l hl
  rw [h]
  unfold withDirs
  split
  · rfl
  · exact hl

/-- A file that is put where no directory stands keeps the directories. -/
theorem Tree.DirsKept.of_withFile {t u : Tree} {l : Location} {bytes : List UInt8}
    (h : u.at? = withFile l bytes t.at?) (hl : t.at? l ≠ some .dir) : t.DirsKept u := by
  intro k hk
  have hne : k ≠ l := by
    rintro rfl
    exact hl hk
  rw [h, withFile_of_ne hne]
  exact hk

namespace Tree

/-- A path that leads to something leads there too where the directories and its end are kept. -/
theorem locate_kept {t u : Tree} {p : Path} {l : Location} {e : Entry} {there : t.at? l = some e}
    (h : t.locate p = .ok (.present l e there)) (hdirs : t.DirsKept u)
    (hend : t.at? p.place = some e → u.at? p.place = some e) :
    ∃ k there, u.locate p = .ok (.present k e there) := by
  obtain ⟨hlegal, hreach, hplace⟩ := locate_present_iff.1 ⟨l, there, h⟩
  exact locate_present_iff.2 ⟨hlegal, fun l hl => hdirs l (hreach l hl), hend hplace⟩

/-! ## Files -/

variable {t u : Tree} {p : Path} {bytes : List UInt8}

/-- A file that holds the bytes of a text is read as that text, with line feeds for all line ends. -/
theorem readText_of_present {text : Text}
    (h : ∃ l there, t.locate p = .ok (.present l (.file bytes) there))
    (hbytes : Utf8.encode text = .ok bytes) : t.readText p = .ok (Utf8.universalLines text) := by
  obtain ⟨l, there, hloc⟩ := h
  simp only [readText, readBytes, hloc, Utf8.decode_encode hbytes]

/-- A file that can be read is read where it is kept. -/
theorem readBytes_kept (h : t.readBytes p = .ok bytes) (hdirs : t.DirsKept u)
    (hend : ∀ bytes, t.at? p.place = some (.file bytes) → u.at? p.place = some (.file bytes)) :
    u.readBytes p = .ok bytes := by
  unfold readBytes at h
  split at h
  · next hloc =>
      cases h
      obtain ⟨k, there, hu⟩ := locate_kept hloc hdirs (hend bytes)
      rw [readBytes, hu]
  all_goals cases h

/-- **A text that can be read is read where its file is kept.** -/
theorem readText_kept {text : Text} (h : t.readText p = .ok text) (hdirs : t.DirsKept u)
    (hend : ∀ bytes, t.at? p.place = some (.file bytes) → u.at? p.place = some (.file bytes)) :
    u.readText p = .ok text := by
  unfold readText at h
  split at h
  · cases h
  · next bytes hread =>
      rw [readText, readBytes_kept hread hdirs hend]
      exact h

end Tree
end StepForge
