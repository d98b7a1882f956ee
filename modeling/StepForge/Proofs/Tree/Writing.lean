import StepForge.Proofs.Tree.Place

/-!
# `StepForge.Proofs.Tree.Writing` — what writing does to a tree

Every change of a tree is stated as a change of its view `Tree.at?`: a directory made with its parents
puts directories along a trail, a file written puts its bytes at a place, and all other entries are as
before. A path can be written when no file stands on its way and no directory stands at its place.

## Contents
- `withDirs`, `withFile` — views with directories or a file put in.
- `makeDirsWithin_spec`, `makeDirs_spec`, `writeBytes_spec` — the two kinds of changes.
- `at?_of_makeDir`, `at?_of_writeBytes` — the same of any tree in which a change was possible.
- `makeDirsWithin_keeps`, `at?_makeDirs_of_some` — what directories that are made leave as it is.
- `CanWrite`, `CanWrite.writeText` — a text written to a file, with the directories that lead to it.
-/

namespace StepForge

/-- The view of a tree with directories at some places. -/
def withDirs (ls : List Location) (view : Location → Option Entry) : Location → Option Entry :=
  fun l => if l ∈ ls then some .dir else view l

/-- The view of a tree with a file at a place. -/
def withFile (l : Location) (bytes : List UInt8) (view : Location → Option Entry) :
    Location → Option Entry :=
  fun k => if k = l then some (.file bytes) else view k

theorem withDirs_of_mem {ls : List Location} {view : Location → Option Entry} {l : Location}
    (h : l ∈ ls) : withDirs ls view l = some .dir := if_pos h

theorem withDirs_of_notMem {ls : List Location} {view : Location → Option Entry} {l : Location}
    (h : l ∉ ls) : withDirs ls view l = view l := if_neg h

/-- Directories that are there already are not put in. -/
theorem withDirs_eq_self {ls : List Location} {view : Location → Option Entry}
    (h : ∀ l ∈ ls, view l = some .dir) : withDirs ls view = view := by
  funext l
  unfold withDirs
  split
  · next hl => exact (h l hl).symm
  · rfl

theorem withFile_self (l : Location) (bytes : List UInt8) (view : Location → Option Entry) :
    withFile l bytes view l = some (.file bytes) := if_pos rfl

theorem withFile_of_ne {l k : Location} {bytes : List UInt8} {view : Location → Option Entry}
    (h : k ≠ l) : withFile l bytes view k = view k := if_neg h

/-- Of two files put at one place the later one stays. -/
theorem withFile_withFile (l : Location) (old new : List UInt8) (view : Location → Option Entry) :
    withFile l new (withFile l old view) = withFile l new view := by
  funext k
  unfold withFile
  split
  · rfl
  · rfl

namespace Tree

/-! ## Directories -/

/-- A path with no file on its way nor at its place. -/
def Open (t : Tree) (p : Path) : Prop := ∀ l ∈ p.trail, t.at? l = none ∨ t.at? l = some .dir

theorem Open.passable {t : Tree} {p : Path} (h : t.Open p) : t.Passable p := by
  intro l hl
  exact h l (by rw [p.trail_eq]; exact List.mem_append_left _ hl)

/-- Behind directories a directory is made where nothing stands. -/
theorem makeDir_vacant {t : Tree} {p : Path} (h : p.IsLegal) (hreach : t.Reached p)
    (hend : t.at? p.place = none) :
    ∃ made, t.makeDir p = .ok made ∧ made.at? = withDirs [p.place] t.at? := by
  obtain ⟨l, n, free, hplace, hloc⟩ := locate_vacant h hreach hend
  refine ⟨t.place l n .dir free, ?_, ?_⟩
  · rw [makeDir, hloc]
  · funext k
    rw [at?_place, ← hplace]
    simp [withDirs]

/-- Behind directories nothing is made where something stands. -/
theorem makeDir_present {t : Tree} {p : Path} {e : Entry} (h : p.IsLegal) (hreach : t.Reached p)
    (hend : t.at? p.place = some e) : t.makeDir p = .error (.system .taken p) := by
  rw [makeDir, locate_present h hreach hend]

/-- Behind a gap nothing is made. -/
theorem makeDir_missing {t : Tree} {p : Path} (h : p.IsLegal) (hpass : t.Passable p)
    (hreach : ¬ t.Reached p) : t.makeDir p = .error (.system .missing p) := by
  rw [makeDir, locate_missing h hpass hreach]

theorem isDir_of_reached {t : Tree} {p : Path} (h : p.IsLegal) (hreach : t.Reached p)
    (hend : t.at? p.place = some .dir) : t.isDir p = true := by
  rw [isDir, locate_present h hreach hend]

/-- A directory at the end of a trail of directories changes nothing, and a new one only its place. -/
theorem withDirs_trail {t : Tree} {p : Path} (hreach : t.Reached p) :
    withDirs p.trail t.at? = withDirs [p.place] t.at? := by
  funext l
  by_cases hl : l = p.place
  · rw [withDirs_of_mem (hl ▸ p.place_mem_trail), withDirs_of_mem (by simp [hl])]
  · have hsingle : l ∉ [p.place] := by simpa using hl
    rw [withDirs_of_notMem hsingle]
    by_cases hanc : l ∈ p.ancestors
    · rw [withDirs_of_mem (by rw [p.trail_eq]; exact List.mem_append_left _ hanc), hreach l hanc]
    · rw [withDirs_of_notMem (by rw [p.trail_eq]; simp [hanc, hl])]

/-- Behind directories no parent is made, and a directory that is there already is no fault. -/
theorem makeDirsWithin_of_reached {t : Tree} {p : Path} (h : p.IsLegal) (hreach : t.Reached p)
    (hend : t.at? p.place = none ∨ t.at? p.place = some .dir) (k : Nat) :
    (makeDirsWithin k t p).result = .ok () ∧
      (makeDirsWithin k t p).tree.at? = withDirs [p.place] t.at? := by
  rcases hend with hend | hend
  · obtain ⟨made, hmade, hview⟩ := makeDir_vacant h hreach hend
    unfold makeDirsWithin
    rw [hmade]
    exact ⟨rfl, hview⟩
  · unfold makeDirsWithin
    rw [makeDir_present h hreach hend]
    refine ⟨by simp [isDir_of_reached h hreach hend], ?_⟩
    rw [withDirs_eq_self (by simpa using hend)]

/-- The directories along a longer path are those along the shorter one, and one more. -/
theorem withDirs_trail_succ {p : Path} {k : Nat} (hk : k < p.names.length) (view : Location → Option Entry) :
    withDirs (p.upTo (k + 1)).trail view =
      withDirs [(p.upTo (k + 1)).place] (withDirs (p.upTo k).trail view) := by
  have hanc : (p.upTo (k + 1)).ancestors = (p.upTo k).trail := Path.ancestors_upTo_succ hk
  funext l
  by_cases hplace : l = (p.upTo (k + 1)).place
  · have hmem : l ∈ [(p.upTo (k + 1)).place] := by simp [hplace]
    rw [withDirs_of_mem (hplace ▸ Path.place_mem_trail _), withDirs_of_mem hmem]
  · have hnot : l ∉ [(p.upTo (k + 1)).place] := by simpa using hplace
    rw [withDirs_of_notMem hnot]
    by_cases hl : l ∈ (p.upTo k).trail
    · have hlonger : l ∈ (p.upTo (k + 1)).trail := by
        rw [Path.trail_eq, hanc]
        exact List.mem_append_left _ hl
      rw [withDirs_of_mem hl, withDirs_of_mem hlonger]
    · have hlonger : l ∉ (p.upTo (k + 1)).trail := by
        rw [Path.trail_eq, hanc, List.mem_append, not_or]
        exact ⟨hl, hnot⟩
      rw [withDirs_of_notMem hl, withDirs_of_notMem hlonger]

/-- **The parents of a path are made one after another**, the outermost first. -/
theorem makeDirsWithin_spec {p : Path} (h : p.IsLegal) (k : Nat) (hk : k ≤ p.names.length) {t : Tree}
    (hopen : t.Open (p.upTo k)) :
    (makeDirsWithin k t (p.upTo k)).result = .ok () ∧
      (makeDirsWithin k t (p.upTo k)).tree.at? = withDirs (p.upTo k).trail t.at? := by
  have hend := hopen _ (p.upTo k).place_mem_trail
  induction k with
  | zero =>
      have hreach : t.Reached (p.upTo 0) := by
        intro l hl
        simp [Path.ancestors, Path.upTo] at hl
      rw [withDirs_trail hreach]
      exact makeDirsWithin_of_reached (h.upTo 0) hreach hend 0
  | succ k ih =>
      have hlegal := h.upTo (k + 1)
      by_cases hreach : t.Reached (p.upTo (k + 1))
      · rw [withDirs_trail hreach]
        exact makeDirsWithin_of_reached hlegal hreach hend (k + 1)
      · -- The parents are made first; behind them the directory is made or there already.
        have hparent : (p.upTo (k + 1)).parent = p.upTo k := Path.parent_upTo hk
        have hanc : (p.upTo (k + 1)).ancestors = (p.upTo k).trail := Path.ancestors_upTo_succ hk
        have hopenk : t.Open (p.upTo k) := fun l hl => hopen.passable l (hanc ▸ hl)
        obtain ⟨hok, hview⟩ := ih (by omega) hopenk (hopenk _ (p.upTo k).place_mem_trail)
        rw [makeDirsWithin, makeDir_missing hlegal hopen.passable hreach]
        simp only [hparent, hok]
        rw [withDirs_trail_succ hk, ← hview]
        generalize (makeDirsWithin k t (p.upTo k)).tree = made at hview ⊢
        have hmadeReach : made.Reached (p.upTo (k + 1)) := by
          intro l hl
          rw [hview]
          exact withDirs_of_mem (hanc ▸ hl)
        have hmadeEnd : made.at? (p.upTo (k + 1)).place = none ∨
            made.at? (p.upTo (k + 1)).place = some .dir := by
          rw [hview]
          by_cases hl : (p.upTo (k + 1)).place ∈ (p.upTo k).trail
          · exact Or.inr (withDirs_of_mem hl)
          · rw [withDirs_of_notMem hl]
            exact hend
        rcases hmadeEnd with hnone | hdir
        · obtain ⟨last, hlast, hlastView⟩ := makeDir_vacant hlegal hmadeReach hnone
          rw [hlast]
          exact ⟨rfl, hlastView⟩
        · rw [makeDir_present hlegal hmadeReach hdir]
          refine ⟨by simp [isDir_of_reached hlegal hmadeReach hdir], ?_⟩
          rw [withDirs_eq_self (by simpa using hdir)]

/-- **Directories are made along the whole trail of a path**, and nothing else changes. -/
theorem makeDirs_spec {t : Tree} {p : Path} (h : p.IsLegal) (hopen : t.Open p) :
    (t.makeDirs p).result = .ok () ∧ (t.makeDirs p).tree.at? = withDirs p.trail t.at? := by
  have hspec := makeDirsWithin_spec h p.names.length (Nat.le_refl _) (t := t)
  rw [Path.upTo_length] at hspec
  exact hspec hopen

/-! ## Changes of any tree -/

/-- **A directory that is made** is at the place of its path, where nothing stood. -/
theorem at?_of_makeDir {t u : Tree} {p : Path} (h : t.makeDir p = .ok u) :
    t.at? p.place = none ∧ u.at? = withDirs [p.place] t.at? := by
  unfold makeDir at h
  split at h
  · cases h
  · next l n free hloc =>
      cases h
      obtain ⟨_, _, hplace⟩ := spot_of_locate hloc
      rw [← hplace]
      refine ⟨free.2, ?_⟩
      funext k
      rw [at?_place]
      simp [withDirs, Spot.place]
  · cases h

/-- **What is kept when one directory is made** is kept when its parents are made with it. -/
theorem makeDirsWithin_keeps {Q : Path → Prop} {P : Tree → Prop} (hparent : ∀ p, Q p → Q p.parent)
    (hstep : ∀ t u p, Q p → t.makeDir p = .ok u → P t → P u) (depth : Nat) {t : Tree} {p : Path} (hp : Q p)
    (h : P t) : P (makeDirsWithin depth t p).tree := by
  induction depth generalizing t p with
  | zero =>
      unfold Tree.makeDirsWithin
      split
      · next hmade => exact hstep _ _ _ hp hmade h
      · exact h
      · exact h
      · exact h
  | succ depth ih =>
      have hparents := ih (hparent p hp) h
      unfold Tree.makeDirsWithin
      split
      · next hmade => exact hstep _ _ _ hp hmade h
      · dsimp only
        split
        · exact hparents
        · split
          · next hmade => exact hstep _ _ _ hp hmade hparents
          · exact hparents
          · exact hparents
      · exact h
      · exact h

/-- Making directories changes nothing that is there. -/
theorem at?_makeDirs_of_some {t : Tree} {l : Location} {e : Entry} (h : t.at? l = some e) (p : Path) :
    (t.makeDirs p).tree.at? l = some e := by
  refine makeDirsWithin_keeps (Q := fun _ => True) (P := fun u => u.at? l = some e) (fun _ _ => trivial) ?_ _ trivial h
  intro t u p _ hmade h
  obtain ⟨hfree, hview⟩ := at?_of_makeDir hmade
  have hne : l ∉ [p.place] := by
    rw [List.mem_singleton]
    rintro rfl
    rw [hfree] at h
    cases h
  rw [hview, withDirs_of_notMem hne, h]

/-- **A file that is written** is at the place of its path, behind directories and where none stood. -/
theorem at?_of_writeBytes {t u : Tree} {p : Path} {bytes : List UInt8} (h : t.writeBytes p bytes = .ok u) :
    p.IsLegal ∧ t.Reached p ∧ t.at? p.place ≠ some .dir ∧ u.at? = withFile p.place bytes t.at? := by
  unfold writeBytes at h
  split at h
  · next l old there hloc =>
      cases h
      obtain ⟨hlegal, hreach, hplace⟩ := spot_of_locate hloc
      rw [← hplace]
      refine ⟨hlegal, hreach, by simp [Spot.place, there], ?_⟩
      funext k
      rw [at?_refill]
      rfl
  · cases h
  · next l n free hloc =>
      cases h
      obtain ⟨hlegal, hreach, hplace⟩ := spot_of_locate hloc
      rw [← hplace]
      refine ⟨hlegal, hreach, by simp [Spot.place, free.2], ?_⟩
      funext k
      rw [at?_place]
      rfl
  · cases h

/-! ## Files -/

/-- Behind directories a file is put where no directory stands. -/
theorem writeBytes_spec {t : Tree} {p : Path} (h : p.IsLegal) (hreach : t.Reached p)
    (hend : t.at? p.place ≠ some .dir) (bytes : List UInt8) :
    ∃ written, t.writeBytes p bytes = .ok written ∧ written.at? = withFile p.place bytes t.at? := by
  cases he : t.at? p.place with
  | none =>
      obtain ⟨l, n, free, hplace, hloc⟩ := locate_vacant h hreach he
      refine ⟨t.place l n (.file bytes) free, ?_, ?_⟩
      · rw [writeBytes, hloc]
      · funext k
        rw [at?_place, ← hplace]
        rfl
  | some e =>
      cases e with
      | dir => exact absurd he hend
      | file old =>
          refine ⟨t.refill p.place old bytes he, ?_, ?_⟩
          · rw [writeBytes, locate_present h hreach he]
          · funext k
            rw [at?_refill]
            rfl

/-- A path to which a file can be written: a legal one, with no file on its way and no directory at its
place, also not one that is made on the way there and left again through two dots. -/
structure CanWrite (t : Tree) (p : Path) : Prop where
  legal : p.IsLegal
  passable : t.Passable p
  notDir : t.at? p.place ≠ some .dir
  outside : p.place ∉ p.ancestors

instance (t : Tree) (p : Path) : Decidable (t.CanWrite p) :=
  decidable_of_iff (p.IsLegal ∧ (∀ l ∈ p.ancestors, t.at? l = none ∨ t.at? l = some .dir) ∧
    t.at? p.place ≠ some .dir ∧ p.place ∉ p.ancestors)
    ⟨fun ⟨hlegal, hpass, hdir, hout⟩ => ⟨hlegal, hpass, hdir, hout⟩,
      fun h => ⟨h.legal, h.passable, h.notDir, h.outside⟩⟩

theorem CanWrite.names_ne_nil {t : Tree} {p : Path} (h : t.CanWrite p) : p.names ≠ [] := by
  intro hnil
  apply h.notDir
  have hstart : p.place = p.start := by rw [Path.place, hnil, walk_nil]
  rw [hstart]
  exact t.at?_start p

/-- What leads to a file that can be written is no file itself. -/
theorem CanWrite.not_file {t : Tree} {p : Path} (h : t.CanWrite p) {l : Location} (hl : l ∈ p.ancestors)
    (bytes : List UInt8) : t.at? l ≠ some (.file bytes) := by
  intro hfile
  rcases h.passable l hl with hnone | hdir
  · rw [hnone] at hfile
    cases hfile
  · rw [hdir] at hfile
    cases hfile

/-- A path can still be written in a tree that differs by directories on ways and files at places. -/
theorem CanWrite.of_view {t u : Tree} {p : Path} (h : t.CanWrite p)
    (hway : ∀ l ∈ p.ancestors, u.at? l = t.at? l ∨ u.at? l = some .dir)
    (hend : u.at? p.place ≠ some .dir) : u.CanWrite p where
  legal := h.legal
  passable l hl := by
    rcases hway l hl with hu | hu
    · rw [hu]
      exact h.passable l hl
    · exact Or.inr hu
  notDir := hend
  outside := h.outside

/-- The directories that lead to a file are made. -/
theorem CanWrite.makeDirs {t : Tree} {p : Path} (h : t.CanWrite p) :
    (t.makeDirs p.parent).result = .ok () ∧
      (t.makeDirs p.parent).tree.at? = withDirs p.ancestors t.at? := by
  have htrail : p.parent.trail = p.ancestors := Path.trail_parent h.names_ne_nil
  rw [← htrail]
  refine makeDirs_spec ?_ ?_
  · rw [Path.parent_eq_upTo]
    exact h.legal.upTo _
  · intro l hl
    exact h.passable l (htrail ▸ hl)

/-- **A text is written to a file**: its bytes are at the path, directories lead there, and nothing else
changes. -/
theorem CanWrite.writeText {t : Tree} {p : Path} {text : Text} {bytes : List UInt8}
    (h : t.CanWrite p) (hbytes : Utf8.encode text = .ok bytes) :
    (t.writeText p text).result = .ok () ∧
      (t.writeText p text).tree.at? = withFile p.place bytes (withDirs p.ancestors t.at?) := by
  obtain ⟨hok, hview⟩ := h.makeDirs
  have hreach : (t.makeDirs p.parent).tree.Reached p := by
    intro l hl
    rw [hview, withDirs_of_mem hl]
  have hend : (t.makeDirs p.parent).tree.at? p.place ≠ some .dir := by
    rw [hview, withDirs_of_notMem h.outside]
    exact h.notDir
  obtain ⟨emptied, hemptied, hemptiedView⟩ := writeBytes_spec h.legal hreach hend []
  have hemptiedReach : emptied.Reached p := by
    intro l hl
    have hne : l ≠ p.place := fun hlp => h.outside (hlp ▸ hl)
    rw [hemptiedView, withFile_of_ne hne]
    exact hreach l hl
  have hemptiedEnd : emptied.at? p.place ≠ some .dir := by
    rw [hemptiedView, withFile_self]
    simp
  obtain ⟨written, hwritten, hwrittenView⟩ := writeBytes_spec h.legal hemptiedReach hemptiedEnd bytes
  have hrun : t.writeText p text = ⟨written, .ok ()⟩ := by
    simp only [Tree.writeText, hok, putText, hemptied, hbytes, hwritten]
  rw [hrun]
  refine ⟨rfl, ?_⟩
  show written.at? = _
  rw [hwrittenView, hemptiedView, withFile_withFile, hview]

end Tree
end StepForge
