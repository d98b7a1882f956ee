import StepForge.Proofs.Text.Decoding
import StepForge.Proofs.Tree.Reading

/-!
# `StepForge.Proofs.Tree.Looking` — what can be found at a path

A path is looked at without a fault unless it is too long: the path as a whole, or a name in it that
directories lead to. A file is read unless nothing is there, or a directory, and its text is read unless its
bytes are not those of a text. A path without bytes is one at which nothing is seen and nothing can be read.

## Contents
- `Tree.Holds`, `Tree.TooLong` — something stands at a path, and a path that cannot be looked at.
- `follow_nameTooLong_iff`, `locate_cases` — names that are too long.
- `stat?_eq_some_iff`, `stat?_eq_error_iff` — looking.
- `readBytes_eq_ok_iff`, `readBytes_eq_error` — reading bytes.
- `Tree.HoldsText`, `readText_eq_ok_iff`, `readText_eq_decoding_iff`, `readText_cases` — reading a text.
-/

namespace StepForge

namespace Tree

/-- Something stands at a path that can be followed there. -/
def Holds (t : Tree) (p : Path) (e : Entry) : Prop := p.IsLegal ∧ t.Reached p ∧ t.at? p.place = some e

/-- A path is too long, or has a name that is too long and to which directories lead. -/
def TooLong (t : Tree) (p : Path) : Prop :=
  pathLimit ≤ nameSize p.text ∨
    ∃ k n, p.names[k]? = some n ∧ n ≠ back ∧ nameLimit < nameSize n ∧ ∀ j ≤ k, t.at? (p.upTo j).place = some .dir

/-- A path is short enough if it is so as a whole and in each of its names. -/
theorem not_tooLong {t : Tree} {p : Path} (hpath : nameSize p.text < pathLimit)
    (hnames : ∀ n ∈ p.names, nameSize n ≤ nameLimit) : ¬ t.TooLong p := by
  rintro (hlong | ⟨k, n, hn, -, hlong, -⟩)
  · exact absurd hpath (Nat.not_lt.2 hlong)
  · exact absurd (hnames n (List.mem_of_getElem? hn)) (Nat.not_le.2 hlong)

theorem Holds.unique {t : Tree} {p : Path} {d e : Entry} (hd : t.Holds p d) (he : t.Holds p e) : d = e :=
  Option.some.inj (hd.2.2.symm.trans he.2.2)

/-! ## Names that are too long -/

theorem follow_tooLong {t : Tree} {l : Location} {n : Text} (names : List Text) (there : t.at? l = some .dir)
    (hn : n ≠ back) (hlong : nameLimit < nameSize n) :
    t.follow l .dir there (n :: names) = .error .nameTooLong := by
  rw [follow, if_neg hn, if_pos hlong]

/-- **Names are too long** exactly if one of them is, and directories lead to it. -/
theorem follow_nameTooLong_iff {t : Tree} {names : List Text} {l : Location} (there : t.at? l = some .dir) :
    t.follow l .dir there names = .error .nameTooLong ↔
      ∃ k n, names[k]? = some n ∧ n ≠ back ∧ nameLimit < nameSize n ∧
        ∀ j ≤ k, t.at? (walk l (names.take j)) = some .dir := by
  induction names generalizing l with
  | nil => simp [follow]
  | cons n names ih =>
      by_cases hlong : n ≠ back ∧ nameLimit < nameSize n
      · -- The first name is too long itself.
        rw [follow_tooLong names there hlong.1 hlong.2]
        refine iff_of_true rfl ⟨0, n, rfl, hlong.1, hlong.2, ?_⟩
        intro j hj
        rw [Nat.le_zero.1 hj]
        exact there
      · have hshort : n = back ∨ nameSize n ≤ nameLimit := by
          by_cases hn : n = back
          · exact Or.inl hn
          · exact Or.inr (Nat.le_of_not_lt fun hlt => hlong ⟨hn, hlt⟩)
        -- A later name is met only if the first one leads to a directory.
        have hnext : (∃ k m, (n :: names)[k]? = some m ∧ m ≠ back ∧ nameLimit < nameSize m ∧
              ∀ j ≤ k, t.at? (walk l ((n :: names).take j)) = some .dir) ↔
            ∃ k m, names[k]? = some m ∧ m ≠ back ∧ nameLimit < nameSize m ∧
              ∀ j ≤ k, t.at? (walk (nextTo l n) (names.take j)) = some .dir := by
          constructor
          · rintro ⟨k, m, hm, hback, hsize, hdirs⟩
            cases k with
            | zero =>
                cases hm
                exact absurd ⟨hback, hsize⟩ hlong
            | succ k =>
                refine ⟨k, m, by simpa using hm, hback, hsize, ?_⟩
                intro j hj
                simpa using hdirs (j + 1) (by omega)
          · rintro ⟨k, m, hm, hback, hsize, hdirs⟩
            refine ⟨k + 1, m, by simpa using hm, hback, hsize, ?_⟩
            intro j hj
            cases j with
            | zero => exact there
            | succ j => simpa using hdirs j (by omega)
        rw [hnext]
        have hnone : t.at? (nextTo l n) ≠ some .dir → ¬ ∃ k m, names[k]? = some m ∧ m ≠ back ∧
            nameLimit < nameSize m ∧ ∀ j ≤ k, t.at? (walk (nextTo l n) (names.take j)) = some .dir := by
          rintro hdir ⟨k, m, _, _, _, hdirs⟩
          exact hdir (hdirs 0 (Nat.zero_le k))
        cases hd : t.at? (nextTo l n) with
        | none =>
            refine iff_of_false ?_ (hnone (by simp [hd]))
            cases names with
            | nil =>
                obtain ⟨free, _, hfollow⟩ := follow_free there hshort hd
                rw [hfollow]
                simp
            | cons m names =>
                rw [follow_gap there hshort hd (by simp)]
                simp
        | some e =>
            rw [follow_next names there hshort hd]
            cases e with
            | dir => exact ih hd
            | file bytes =>
                refine iff_of_false ?_ (hnone (by simp [hd]))
                cases names with
                | nil => simp [follow]
                | cons m names => simp [follow]

/-- **Where a path can lead**: to something, to a free name, or nowhere, and the last as it is too long exactly
if it is. -/
theorem locate_cases {t : Tree} {p : Path} (hask : p.Askable) :
    (∃ spot, t.locate p = .ok spot) ∧ ¬ t.TooLong p ∨
      t.locate p = .error (.system .nameTooLong p) ∧ t.TooLong p ∨
      (∃ cause, cause ≠ .nameTooLong ∧ t.locate p = .error (.system cause p)) ∧ ¬ t.TooLong p := by
  by_cases hshort : nameSize p.text < pathLimit
  · have htoo : t.TooLong p ↔ t.follow p.start .dir (t.at?_start p) p.names = .error .nameTooLong := by
      rw [follow_nameTooLong_iff]
      exact or_iff_right (Nat.not_le.2 hshort)
    rw [locate_of_askable hask hshort, htoo]
    cases hfollow : t.follow p.start .dir (t.at?_start p) p.names with
    | ok spot => exact Or.inl ⟨⟨spot, rfl⟩, by simp⟩
    | error cause =>
        by_cases hcause : cause = .nameTooLong
        · subst hcause
          exact Or.inr (Or.inl ⟨rfl, rfl⟩)
        · exact Or.inr (Or.inr ⟨⟨cause, hcause, rfl⟩, by simpa using hcause⟩)
  · have hlong : pathLimit ≤ nameSize p.text := Nat.le_of_not_lt hshort
    exact Or.inr (Or.inl ⟨locate_of_long hask hlong, Or.inl hlong⟩)

/-! ## Looking -/

section

variable {t : Tree} {p : Path}

/-- **Something is seen** at a path exactly if it stands there. -/
theorem stat?_eq_some_iff {e : Entry} : t.stat? p = .ok (some e) ↔ t.Holds p e := by
  unfold Holds
  rw [← locate_present_iff, stat?]
  constructor
  · intro h
    split at h
    · next l d there hloc =>
        cases h
        exact ⟨l, there, hloc⟩
    · cases h
    · cases h
    · cases h
  · rintro ⟨l, there, hloc⟩
    rw [hloc]

/-- **Looking fails** exactly at a path that is too long. At one that the system cannot be asked for, nothing is
seen. -/
theorem stat?_eq_error_iff {f : FileFault} :
    t.stat? p = .error f ↔ f = .system .nameTooLong p ∧ p.Askable ∧ t.TooLong p := by
  rw [stat?]
  by_cases hask : p.Askable
  · rcases locate_cases (t := t) hask with ⟨⟨spot, hloc⟩, hshort⟩ | ⟨hloc, hlong⟩ | ⟨⟨cause, hcause, hloc⟩, hshort⟩
    · rw [hloc]
      cases spot <;> simp [hshort]
    · rw [hloc]
      simp only [Except.error.injEq, hlong, and_true]
      exact ⟨fun h => ⟨h.symm, hask⟩, fun h => h.1.symm⟩
    · rw [hloc]
      cases cause <;> first | exact absurd rfl hcause | simp [hshort]
  · rw [locate_of_not_askable hask]
    exact iff_of_false (by simp) fun h => hask h.2.1

/-! ## Reading -/

/-- **Bytes are read** exactly if a file with these bytes stands there. -/
theorem readBytes_eq_ok_iff {bytes : List UInt8} : t.readBytes p = .ok bytes ↔ t.Holds p (.file bytes) := by
  unfold Holds
  rw [← locate_present_iff, readBytes]
  constructor
  · intro h
    split at h
    · next l bytes there hloc =>
        cases h
        exact ⟨l, there, hloc⟩
    · cases h
    · cases h
    · cases h
  · rintro ⟨l, there, hloc⟩
    rw [hloc]

theorem readBytes_of_dir (h : t.Holds p .dir) : t.readBytes p = .error (.system .isDirectory p) := by
  obtain ⟨l, there, hloc⟩ := locate_present_iff.2 h
  rw [readBytes, hloc]

/-- Reading fails with a cause at the path itself. -/
theorem readBytes_eq_error (hask : p.Askable) {f : FileFault} (h : t.readBytes p = .error f) :
    ∃ cause, f = .system cause p := by
  rw [readBytes] at h
  rcases locate_cases (t := t) hask with ⟨⟨spot, hloc⟩, -⟩ | ⟨hloc, -⟩ | ⟨⟨cause, -, hloc⟩, -⟩
  · rw [hloc] at h
    cases spot with
    | vacant l n free =>
        cases h
        exact ⟨_, rfl⟩
    | present l e there =>
        cases e with
        | file bytes => cases h
        | dir =>
            cases h
            exact ⟨_, rfl⟩
  · rw [hloc] at h
    cases h
    exact ⟨_, rfl⟩
  · rw [hloc] at h
    cases h
    exact ⟨_, rfl⟩

theorem readText_of_bytes {bytes : List UInt8} (h : t.readBytes p = .ok bytes) :
    t.readText p = ((Utf8.decode bytes).map Utf8.universalLines).mapError .decoding := by
  simp only [readText, h]
  cases Utf8.decode bytes with
  | error fault => rfl
  | ok source => rfl

theorem readText_of_fault {f : FileFault} (h : t.readBytes p = .error f) : t.readText p = .error (p.textFault f) := by
  rw [readText, h]

/-- A path that has bytes says nothing of its own. -/
theorem textFault_of_coded (h : p.encodeFault? = none) (f : FileFault) : p.textFault f = .file f := by
  rw [Path.textFault, h]

/-- Of a path without bytes it is said where they are missing, whatever else is the matter. -/
theorem readText_of_uncoded {g : Utf8.EncodeFault} (h : p.encodeFault? = some g) :
    t.readText p = .error (.encoding g) := by
  have hask : ¬ p.Askable := fun hask => by
    rw [hask.coded] at h
    cases h
  have hread : t.readBytes p = .error .nullCharacter := by rw [readBytes, locate_of_not_askable hask]
  rw [readText_of_fault hread, Path.textFault, h]

/-- No bytes are read at a path at which a text cannot be read for another reason. -/
theorem textFault_ne_decoding (f : FileFault) (g : Utf8.DecodeFault) : p.textFault f ≠ .decoding g := by
  unfold Path.textFault
  split
  · simp
  · simp

/-- A file stands at a path whose bytes are those of a text; its line ends are read as line feeds. -/
def HoldsText (t : Tree) (p : Path) (text : Text) : Prop :=
  ∃ bytes source, t.Holds p (.file bytes) ∧ Utf8.encode source = .ok bytes ∧ text = Utf8.universalLines source

/-- A path without bytes holds nothing. -/
theorem HoldsText.coded {text : Text} (h : t.HoldsText p text) : p.encodeFault? = none := by
  obtain ⟨bytes, source, ⟨hlegal, -⟩, -⟩ := h
  exact hlegal.coded

/-- **A text is read** exactly if a file with the bytes of a text stands there. -/
theorem readText_eq_ok_iff {text : Text} : t.readText p = .ok text ↔ t.HoldsText p text := by
  constructor
  · intro h
    cases hread : t.readBytes p with
    | error fault =>
        rw [readText_of_fault hread] at h
        cases h
    | ok bytes =>
        rw [readText_of_bytes hread] at h
        cases hdecode : Utf8.decode bytes with
        | error fault =>
            rw [hdecode] at h
            cases h
        | ok source =>
            rw [hdecode] at h
            cases h
            exact ⟨bytes, source, readBytes_eq_ok_iff.1 hread, Utf8.decode_eq_ok_iff.1 hdecode, rfl⟩
  · rintro ⟨bytes, source, hfile, hsource, rfl⟩
    rw [readText_of_bytes (readBytes_eq_ok_iff.2 hfile), Utf8.decode_encode hsource]
    rfl

theorem HoldsText.unique {text other : Text} (h : t.HoldsText p text) (hother : t.HoldsText p other) :
    text = other := by
  have heq := (readText_eq_ok_iff.2 h).symm.trans (readText_eq_ok_iff.2 hother)
  cases heq
  rfl

/-- **A text cannot be decoded** exactly if a file stands there whose bytes are those of no text. -/
theorem readText_eq_decoding_iff {f : Utf8.DecodeFault} :
    t.readText p = .error (.decoding f) ↔ ∃ bytes, t.Holds p (.file bytes) ∧ Utf8.decode bytes = .error f := by
  constructor
  · intro h
    cases hread : t.readBytes p with
    | error fault =>
        rw [readText_of_fault hread, Except.error.injEq] at h
        exact absurd h (textFault_ne_decoding fault f)
    | ok bytes =>
        rw [readText_of_bytes hread] at h
        refine ⟨bytes, readBytes_eq_ok_iff.1 hread, ?_⟩
        cases hdecode : Utf8.decode bytes with
        | error fault =>
            rw [hdecode] at h
            cases h
            rfl
        | ok source =>
            rw [hdecode] at h
            cases h
  · rintro ⟨bytes, hfile, hdecode⟩
    rw [readText_of_bytes (readBytes_eq_ok_iff.2 hfile), hdecode]
    rfl

/-- **Reading a text ends** with a text, or with a fault of the path, of the file or of its bytes: nothing is
written. -/
theorem readText_cases (t : Tree) (p : Path) :
    (∃ text, t.readText p = .ok text) ∨
      (∃ g, t.readText p = .error (.encoding g) ∧ p.encodeFault? = some g) ∨
      (∃ f, t.readText p = .error (.file f) ∧ p.encodeFault? = none ∧ t.readBytes p = .error f) ∨
      ∃ f, t.readText p = .error (.decoding f) := by
  cases hread : t.readBytes p with
  | error fault =>
      cases hcode : p.encodeFault? with
      | some g => exact Or.inr (Or.inl ⟨g, readText_of_uncoded hcode, rfl⟩)
      | none =>
          refine Or.inr (Or.inr (Or.inl ⟨fault, ?_, rfl, rfl⟩))
          rw [readText_of_fault hread, textFault_of_coded hcode]
  | ok bytes =>
      have htext := readText_of_bytes hread
      cases hdecode : Utf8.decode bytes with
      | error fault =>
          rw [hdecode] at htext
          exact Or.inr (Or.inr (Or.inr ⟨fault, htext⟩))
      | ok source =>
          rw [hdecode] at htext
          exact Or.inl ⟨_, htext⟩

end

end Tree
end StepForge
