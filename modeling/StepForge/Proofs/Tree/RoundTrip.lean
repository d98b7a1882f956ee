import StepForge.Proofs.Text.LineEnds
import StepForge.Proofs.Text.Literal
import StepForge.Proofs.Tree.Looking

/-!
# `StepForge.Proofs.Tree.RoundTrip` — texts that are written and read

A text is written as it is and read with a line feed for each line end. So it is read as it was written unless it has a
carriage return, and what was read once stays as it is however often it is written and read again.

## Contents
- `canWrite_of_writeText`, `writeText_eq_ok_iff` — which texts are written, and where.
- `CanWrite.holds`, `Holds.canWrite` — a file that was written is there, and a file that is there can be written.
- `HoldsText.keeps` — a text that is read is read again.
- `text_written_and_read` — all of it, for every string and every path.
-/

namespace StepForge.Tree

variable {t : Tree} {p : Path} {text : Text}

/-! ## What is written -/

/-- A text that is put into a file has bytes, directories lead to the file, and none stands at its place. -/
theorem of_putText (h : (t.putText p text).result = .ok ()) :
    p.IsLegal ∧ t.Reached p ∧ t.at? p.place ≠ some .dir ∧ ∃ bytes, Utf8.encode text = .ok bytes := by
  unfold putText at h
  split at h
  · cases h
  · next emptied hemptied =>
      split at h
      · cases h
      · next bytes hbytes =>
          obtain ⟨hlegal, hreach, hdir, -⟩ := at?_of_writeBytes hemptied
          exact ⟨hlegal, hreach, hdir, bytes, hbytes⟩

/-- Where a text was written, no file was on the way, and no directory at the place. -/
theorem canWrite_of_writeText (h : (t.writeText p text).result = .ok ()) :
    t.CanWrite p ∧ ∃ bytes, Utf8.encode text = .ok bytes := by
  unfold writeText at h
  dsimp only at h
  split at h
  · cases h
  · obtain ⟨hlegal, hreach, hdir, hbytes⟩ := of_putText h
    refine ⟨⟨hlegal, ?_, ?_, ?_⟩, hbytes⟩
    · -- What stood on the way before the directories were made stands there behind it, and is a directory then.
      intro l hl
      cases he : t.at? l with
      | none => exact Or.inl rfl
      | some e =>
          have hkept := at?_makeDirs_of_some he p.parent
          rw [hreach l hl] at hkept
          exact Or.inr hkept.symm
    · intro hplace
      exact hdir (at?_makeDirs_of_some hplace p.parent)
    · intro hmem
      exact hdir (hreach p.place hmem)

/-- **A text is written** exactly if it is a string and its path can be written. -/
theorem writeText_eq_ok_iff :
    (t.writeText p text).result = .ok () ↔ t.CanWrite p ∧ ∃ s : String, text = Text.ofString s := by
  rw [← Utf8.exists_encode_iff]
  constructor
  · exact canWrite_of_writeText
  · rintro ⟨hpath, bytes, hbytes⟩
    exact (hpath.writeText hbytes).1

/-! ## Files that are there -/

/-- **A file that was written** holds the bytes of its text. -/
theorem CanWrite.holds {bytes : List UInt8} (h : t.CanWrite p) (hbytes : Utf8.encode text = .ok bytes) :
    (t.writeText p text).tree.Holds p (.file bytes) := by
  obtain ⟨-, hview⟩ := h.writeText hbytes
  refine ⟨h.legal, ?_, ?_⟩
  · intro l hl
    have hne : l ≠ p.place := fun heq => h.outside (heq ▸ hl)
    rw [hview, withFile_of_ne hne, withDirs_of_mem hl]
  · rw [hview, withFile_self]

/-- **A file that is there** can be written. -/
theorem Holds.canWrite {bytes : List UInt8} (h : t.Holds p (.file bytes)) : t.CanWrite p := by
  obtain ⟨hlegal, hreach, hplace⟩ := h
  have hdir : t.at? p.place ≠ some .dir := by simp [hplace]
  refine ⟨hlegal, ?_, hdir, ?_⟩
  · intro l hl
    exact Or.inr (hreach l hl)
  · intro hmem
    exact hdir (hreach p.place hmem)

/-- A file that was written is read as its text, with a line feed for each line end. -/
theorem CanWrite.holdsText {bytes : List UInt8} (h : t.CanWrite p) (hbytes : Utf8.encode text = .ok bytes) :
    (t.writeText p text).tree.HoldsText p (Utf8.universalLines text) :=
  ⟨bytes, text, h.holds hbytes, hbytes, rfl⟩

/-- **What was read is read again** when it is written where it was read. -/
theorem HoldsText.keeps (h : t.HoldsText p text) :
    (t.writeText p text).result = .ok () ∧ (t.writeText p text).tree.HoldsText p text := by
  obtain ⟨bytes, source, hfile, hsource, rfl⟩ := h
  have hpoints : ∀ c ∈ Utf8.universalLines source, (Utf8.encodePoint? c).isSome := by
    intro c hc
    rcases Utf8.mem_universalLines hc with rfl | ⟨hmem, -⟩
    · rfl
    · exact Utf8.encodePoint?_of_encode hsource hmem
  obtain ⟨again, hagain⟩ := Utf8.exists_encode hpoints
  have hread := hfile.canWrite.holdsText hagain
  rw [Utf8.universalLines_universalLines] at hread
  exact ⟨(hfile.canWrite.writeText hagain).1, hread⟩

/-! ## Written and read -/

/-- **A text that is written is read with a line feed for each line end.** A string is written exactly if its path can
be. Then its file holds the bytes of the string in UTF-8 and is read as the string with each pair of a carriage return
and a line feed, and each carriage return that is left, as one line feed: so as the string itself exactly if that has no
carriage return. What is read at a path, whoever wrote it, can be written there and is read again. -/
theorem text_written_and_read (t : Tree) (p : Path) (s : String) :
    ((t.writeText p (Text.ofString s)).result = .ok () ↔ t.CanWrite p) ∧
      (t.CanWrite p →
        (t.writeText p (Text.ofString s)).tree.readBytes p = .ok s.toUTF8.data.toList ∧
          (t.writeText p (Text.ofString s)).tree.readText p =
            .ok (Text.replaceAll "\r" "\n" (Text.replaceAll "\r\n" "\n" (Text.ofString s))) ∧
          ((t.writeText p (Text.ofString s)).tree.readText p = .ok (Text.ofString s) ↔ '\r' ∉ s.toList)) ∧
      ∀ u text, readText u p = .ok text →
        (u.writeText p text).result = .ok () ∧ (u.writeText p text).tree.readText p = .ok text := by
  have hbytes := Utf8.encode_ofString s
  refine ⟨?_, ?_, ?_⟩
  · rw [writeText_eq_ok_iff]
    exact and_iff_left ⟨s, rfl⟩
  · intro hpath
    have hread := readText_eq_ok_iff.2 (hpath.holdsText hbytes)
    refine ⟨readBytes_eq_ok_iff.2 (hpath.holds hbytes), ?_, ?_⟩
    · rw [hread, Utf8.universalLines_eq_replaceAll]
    · have hreturn : 13 ∈ Text.ofString s ↔ '\r' ∈ s.toList := Text.toNat_mem_ofString (c := '\r')
      rw [hread, Except.ok.injEq, Utf8.universalLines_eq_self_iff, hreturn]
  · intro u text htext
    obtain ⟨hwritten, hagain⟩ := (readText_eq_ok_iff.1 htext).keeps
    exact ⟨hwritten, readText_eq_ok_iff.2 hagain⟩

/-- A lone carriage return in front of a pair, in a directory that is made for the file. -/
theorem mixedEnds_written_and_read :
    empty.CanWrite (.ofText "notes/a.txt") ∧
      ∃ t, empty.writeText (.ofText "notes/a.txt") "é\r\r\n😀" = ⟨t, .ok ()⟩ ∧
        t.readBytes (.ofText "notes/a.txt") = .ok [0xC3, 0xA9, 13, 13, 10, 0xF0, 0x9F, 0x98, 0x80] ∧
        t.readText (.ofText "notes/a.txt") = .ok "é\n\n😀" ∧
        (t.writeText (.ofText "notes/a.txt") "é\n\n😀").tree.readText (.ofText "notes/a.txt") = .ok "é\n\n😀" := by
  have hpath : empty.CanWrite (.ofText "notes/a.txt") := by decide
  obtain ⟨hwritten, hread, hkept⟩ := text_written_and_read empty (.ofText "notes/a.txt") "é\r\r\n😀"
  obtain ⟨hbytes, htext, -⟩ := hread hpath
  have hutf8 : "é\r\r\n😀".toUTF8.data.toList = [0xC3, 0xA9, 13, 13, 10, 0xF0, 0x9F, 0x98, 0x80] := by decide
  have hlines : Text.replaceAll "\r" "\n" (Text.replaceAll "\r\n" "\n" "é\r\r\n😀") = "é\n\n😀" := by decide
  rw [hutf8] at hbytes
  rw [hlines] at htext
  refine ⟨hpath, _, ?_, hbytes, htext, (hkept _ _ htext).2⟩
  rw [← hwritten.2 hpath]

end StepForge.Tree
