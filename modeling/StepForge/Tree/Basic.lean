import StepForge.Tree.Path

/-!
# `StepForge.Tree.Basic` — directory trees

A tree gives an entry to every location that is there: a directory, or a file with its bytes. What
stands at a location stands in a directory; that is part of the type. Of what lies above the top of a
tree only the directories that lead there are known.

## Contents
- `Location`, `isAbove`, `above`, `pathOf` — places, seen from the top of a tree.
- `Entry`, `Tree`, `Tree.at?` — trees and the view through which all else is stated.
- `place`, `refill`, `prune` — the three ways a tree changes, each with its effect on the view.
- `below` — what stands below a location.
-/

namespace StepForge

/-- The names that lead from the top of a tree to a place. -/
abbrev Location := List Text

/-- The name that leads to the directory above. -/
def back : Text := ".."

/-- The name that locations from the root begin with. -/
def root : Text := "/"

/-- Whether a location is the top of a tree or lies above it, the root included. -/
def isAbove (l : Location) : Bool := l = [root] || l.all (· = back)

theorem isAbove_nil : isAbove [] = true := by simp [isAbove]

theorem isAbove_root : isAbove [root] = true := by simp [isAbove]

theorem isAbove_of_append {l k : Location} (h : isAbove (l ++ k) = true) : isAbove l = true := by
  simp only [isAbove, Bool.or_eq_true, decide_eq_true_eq, List.all_append, Bool.and_eq_true] at h ⊢
  rcases h with h | h
  · rcases List.append_eq_singleton_iff.1 h with ⟨hl, _⟩ | ⟨hl, _⟩
    · subst hl
      exact Or.inr rfl
    · exact Or.inl hl
  · exact Or.inr h.1

/-- The location of the directory above; above the root is the root. -/
def above (l : Location) : Location :=
  if l = [root] then l else if l.all (· = back) then l ++ [back] else l.dropLast

/-- The path of a location from the top of a tree. -/
def pathOf (l : Location) : Path :=
  if l.head? = some root then ⟨true, l.tail⟩ else ⟨false, l⟩

/-- What can stand at a location. -/
inductive Entry where
  | file (bytes : List UInt8)
  | dir
  deriving DecidableEq

/-- The entry of a location in a list of entries; the top and what is above it are always directories. -/
def entryAt (entries : List (Location × Entry)) (l : Location) : Option Entry :=
  if isAbove l then some .dir else entries.lookup l

/-- A directory tree. -/
structure Tree where
  entries : List (Location × Entry)
  /-- What stands below a location stands in a directory. -/
  parent_dir : ∀ l n e, entryAt entries (l ++ [n]) = some e → entryAt entries l = some .dir

namespace Tree

/-- The entry at a location, if there is one. -/
def at? (t : Tree) (l : Location) : Option Entry := entryAt t.entries l

/-- The tree with nothing below its top. -/
def empty : Tree where
  entries := []
  parent_dir := by
    intro l n e h
    have ha : isAbove (l ++ [n]) = true := by
      by_cases ha : isAbove (l ++ [n]) = true
      · exact ha
      · simp [entryAt, ha] at h
    simp [entryAt, isAbove_of_append ha]

instance : Inhabited Tree := ⟨empty⟩

theorem at?_of_isAbove {l : Location} (t : Tree) (h : isAbove l = true) : t.at? l = some .dir := by
  simp [at?, entryAt, h]

@[simp] theorem at?_nil (t : Tree) : t.at? [] = some .dir := t.at?_of_isAbove isAbove_nil

theorem isAbove_eq_false {t : Tree} {l : Location} (h : t.at? l ≠ some .dir) : isAbove l = false := by
  by_cases ha : isAbove l = true
  · exact absurd (t.at?_of_isAbove ha) h
  · simpa using ha

theorem at?_parent {t : Tree} {l : Location} {n : Text} {e : Entry} (h : t.at? (l ++ [n]) = some e) :
    t.at? l = some .dir := t.parent_dir l n e h

/-! ## Changing one entry -/

/-- Entries with one put in front of the others. -/
def putEntry (entries : List (Location × Entry)) (l : Location) (e : Entry) : List (Location × Entry) :=
  (l, e) :: entries.filter fun x => x.1 ≠ l

theorem lookup_filter_ne {entries : List (Location × Entry)} {l k : Location} (h : k ≠ l) :
    (entries.filter fun x => x.1 ≠ l).lookup k = entries.lookup k := by
  induction entries with
  | nil => rfl
  | cons x xs ih =>
      obtain ⟨a, b⟩ := x
      by_cases hal : a = l
      · subst hal
        have : (k == a) = false := by simpa using h
        simpa [List.lookup_cons, this] using ih
      · by_cases hka : k = a
        · subst hka
          simp [hal]
        · have : (k == a) = false := by simpa using hka
          simp [hal, List.lookup_cons, this]
          simpa using ih

theorem entryAt_putEntry (entries : List (Location × Entry)) {l : Location} (hl : isAbove l = false)
    (e : Entry) (k : Location) :
    entryAt (putEntry entries l e) k = if k = l then some e else entryAt entries k := by
  by_cases hk : isAbove k = true
  · have hkl : k ≠ l := by
      intro h
      subst h
      rw [hl] at hk
      cases hk
    simp [entryAt, hk, hkl]
  · by_cases hkl : k = l
    · subst hkl
      simp [entryAt, putEntry, hk]
    · have hb : (k == l) = false := by simpa using hkl
      rw [if_neg hkl]
      simp only [entryAt, hk, putEntry, List.lookup_cons, hb]
      exact lookup_filter_ne hkl

/-- A new entry in a directory, at a name under which nothing stands. -/
def place (t : Tree) (l : Location) (n : Text) (e : Entry)
    (free : t.at? l = some .dir ∧ t.at? (l ++ [n]) = none) : Tree where
  entries := putEntry t.entries (l ++ [n]) e
  parent_dir := by
    intro k m x h
    have hne : isAbove (l ++ [n]) = false := isAbove_eq_false (t := t) (by simp [free.2])
    rw [entryAt_putEntry _ hne] at h ⊢
    by_cases hk : k ++ [m] = l ++ [n]
    · have hkl : k = l := (List.append_inj' hk rfl).1
      subst hkl
      rw [if_neg (by simp)]
      exact free.1
    · rw [if_neg hk] at h
      have hd := t.parent_dir k m x h
      by_cases hkl : k = l ++ [n]
      · subst hkl
        have hn : entryAt t.entries (l ++ [n]) = none := free.2
        rw [hn] at hd
        cases hd
      · rw [if_neg hkl]
        exact hd

theorem at?_place (t : Tree) (l : Location) (n : Text) (e : Entry) (free) (k : Location) :
    (t.place l n e free).at? k = if k = l ++ [n] then some e else t.at? k :=
  entryAt_putEntry t.entries (isAbove_eq_false (t := t) (by simp [free.2])) e k

/-- A file with other bytes. -/
def refill (t : Tree) (l : Location) (old new : List UInt8) (there : t.at? l = some (.file old)) :
    Tree where
  entries := putEntry t.entries l (.file new)
  parent_dir := by
    intro k m x h
    have hne : isAbove l = false := isAbove_eq_false (t := t) (by simp [there])
    have hold : entryAt t.entries l = some (.file old) := there
    rw [entryAt_putEntry _ hne] at h ⊢
    have hd : entryAt t.entries k = some .dir := by
      by_cases hk : k ++ [m] = l
      · rw [← hk] at hold
        exact t.parent_dir k m _ hold
      · rw [if_neg hk] at h
        exact t.parent_dir k m x h
    by_cases hkl : k = l
    · subst hkl
      rw [hold] at hd
      cases hd
    · rw [if_neg hkl]
      exact hd

theorem at?_refill (t : Tree) (l : Location) (old new : List UInt8) (there) (k : Location) :
    (t.refill l old new there).at? k = if k = l then some (.file new) else t.at? k :=
  entryAt_putEntry t.entries (isAbove_eq_false (t := t) (by simp [there])) _ k

/-! ## Removing and listing -/

/-- Whether a location is another one or stands below it. -/
def isWithin (l k : Location) : Bool := l.isPrefixOf k

theorem entryAt_filter (entries : List (Location × Entry)) (l k : Location) (hk : isWithin l k = false) :
    entryAt (entries.filter fun x => !isWithin l x.1) k = entryAt entries k := by
  simp only [entryAt]
  split
  · rfl
  · induction entries with
    | nil => rfl
    | cons x xs ih =>
        obtain ⟨a, b⟩ := x
        by_cases hka : k = a
        · subst hka
          simp [hk]
        · have hb : (k == a) = false := by simpa using hka
          by_cases ha : isWithin l a
          · simp [ha, List.lookup_cons, hb, ih]
          · simp [ha, List.lookup_cons, hb, ih]

theorem isAbove_of_within {l k : Location} (h : isWithin l k = true) (hk : isAbove k = true) :
    isAbove l = true := by
  simp only [isWithin, List.isPrefixOf_iff_prefix] at h
  obtain ⟨r, hr⟩ := h
  subst hr
  exact isAbove_of_append hk

theorem entryAt_filter_within (entries : List (Location × Entry)) (l k : Location)
    (hl : isAbove l = false) (hk : isWithin l k = true) :
    entryAt (entries.filter fun x => !isWithin l x.1) k = none := by
  have hne : ¬ isAbove k = true := by
    intro h
    rw [isAbove_of_within hk h] at hl
    cases hl
  rw [entryAt, if_neg hne]
  induction entries with
  | nil => rfl
  | cons x xs ih =>
      obtain ⟨a, b⟩ := x
      by_cases ha : isWithin l a
      · simp [ha, ih]
      · have hka : (k == a) = false := by
          simp only [beq_eq_false_iff_ne, ne_eq]
          intro h
          subst h
          exact ha hk
        simp [ha, List.lookup_cons, hka, ih]

/-- The tree without what stands at a location and below it. -/
def prune (t : Tree) (l : Location) (below : isAbove l = false) : Tree where
  entries := t.entries.filter fun x => !isWithin l x.1
  parent_dir := by
    intro k m x h
    by_cases hk : isWithin l (k ++ [m])
    · rw [entryAt_filter_within _ _ _ below hk] at h
      cases h
    · have hk' : isWithin l (k ++ [m]) = false := by simpa using hk
      rw [entryAt_filter _ _ _ hk'] at h
      have hkk : isWithin l k = false := by
        by_cases hw : isWithin l k
        · exfalso
          apply hk
          simp only [isWithin, List.isPrefixOf_iff_prefix] at hw ⊢
          exact hw.trans (List.prefix_append k [m])
        · simpa using hw
      rw [entryAt_filter _ _ _ hkk]
      exact t.parent_dir k m x h

/-- Whether names lead to something in a directory, and not out of it. -/
def leadsIn : Location → Bool
  | [] => false
  | n :: _ => n ≠ back && n ≠ root

/-- The entries below a location, with the names that lead from it to them. -/
def below (t : Tree) (l : Location) : List (Location × Entry) :=
  t.entries.filterMap fun (k, e) =>
    if l.isPrefixOf k && leadsIn (k.drop l.length) then some (k.drop l.length, e) else none

end Tree
end StepForge
