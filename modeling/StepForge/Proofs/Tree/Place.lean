import StepForge.Proofs.Text.Split
import StepForge.Tree.Files

/-!
# `StepForge.Proofs.Tree.Place` — where paths lead

`Tree.follow` walks through a tree name by name. Where it ends is known without the tree: a name leads
one location down, two dots lead one up. This module separates the two. `Path.place` is the location of
a path, `Path.upTo` cuts a path short, and the places of the shorter paths are its ancestors. What
`locate` answers is then read off the entries at those places.

## Contents
- `nextTo`, `walk` — where names lead.
- `Path.start`, `Path.upTo`, `Path.place`, `Path.ancestors`, `Path.trail` — the places of a path.
- `Path.Askable`, `Path.IsLegal` — what every file operation asks of a path, whatever the tree.
- `Tree.Passable`, `Tree.Reached` — ancestors that are no files, and ancestors that are directories.
- `locate_present`, `locate_vacant`, `locate_missing` — the answers of `locate`.
- `spot_of_locate`, `locate_present_iff` — what an answer says about the path.
-/

namespace StepForge

/-! ## Where names lead -/

/-- The location that a name leads to. -/
def nextTo (l : Location) (n : Text) : Location := if n = back then above l else l ++ [n]

/-- The location that names lead to. -/
def walk (l : Location) (names : List Text) : Location := names.foldl nextTo l

@[simp] theorem walk_nil (l : Location) : walk l [] = l := rfl

@[simp] theorem walk_cons (l : Location) (n : Text) (names : List Text) :
    walk l (n :: names) = walk (nextTo l n) names := rfl

theorem walk_append (l : Location) (names more : List Text) :
    walk l (names ++ more) = walk (walk l names) more := List.foldl_append

namespace Path

/-- The location at which the names of a path begin. -/
def start (p : Path) : Location := if p.rooted then [root] else []

/-- The path of the first `k` names. -/
def upTo (p : Path) (k : Nat) : Path := { p with names := p.names.take k }

/-- The location that a path leads to. -/
def place (p : Path) : Location := walk p.start p.names

/-- The places that a path passes on the way to its own. -/
def ancestors (p : Path) : List Location := (List.range p.names.length).map fun k => (p.upTo k).place

/-- The ancestors of a path and its own place. -/
def trail (p : Path) : List Location := (List.range (p.names.length + 1)).map fun k => (p.upTo k).place

theorem upTo_place (p : Path) (k : Nat) : (p.upTo k).place = walk p.start (p.names.take k) := rfl

theorem upTo_of_le {p : Path} {k : Nat} (h : p.names.length ≤ k) : p.upTo k = p := by
  unfold upTo
  rw [List.take_of_length_le h]

@[simp] theorem upTo_length (p : Path) : p.upTo p.names.length = p := upTo_of_le (Nat.le_refl _)

theorem upTo_upTo (p : Path) (k j : Nat) : (p.upTo k).upTo j = p.upTo (min j k) := by
  simp [upTo, List.take_take]

theorem length_upTo {p : Path} {k : Nat} (h : k ≤ p.names.length) : (p.upTo k).names.length = k := by
  simp [upTo, h]

/-- The path without its last name is the one cut short by one name. -/
theorem parent_upTo {p : Path} {k : Nat} (h : k < p.names.length) : (p.upTo (k + 1)).parent = p.upTo k := by
  have hlen : min (k + 1) p.names.length - 1 = k := by omega
  have htake : (p.names.take (k + 1)).dropLast = p.names.take k := by
    rw [List.dropLast_eq_take, List.length_take, hlen, List.take_take, Nat.min_eq_left (Nat.le_succ k)]
  unfold upTo parent
  rw [htake]

theorem parent_eq_upTo (p : Path) : p.parent = p.upTo (p.names.length - 1) := by
  simp [upTo, parent, List.dropLast_eq_take]

theorem mem_ancestors {p : Path} {l : Location} :
    l ∈ p.ancestors ↔ ∃ k < p.names.length, (p.upTo k).place = l := by
  simp [ancestors]

theorem mem_trail {p : Path} {l : Location} :
    l ∈ p.trail ↔ ∃ k ≤ p.names.length, (p.upTo k).place = l := by
  constructor
  · intro h
    obtain ⟨k, hk, rfl⟩ := List.mem_map.1 h
    exact ⟨k, Nat.lt_succ_iff.1 (List.mem_range.1 hk), rfl⟩
  · rintro ⟨k, hk, rfl⟩
    exact List.mem_map.2 ⟨k, List.mem_range.2 (Nat.lt_succ_iff.2 hk), rfl⟩

theorem trail_eq (p : Path) : p.trail = p.ancestors ++ [p.place] := by
  simp [trail, ancestors, List.range_succ]

theorem place_mem_trail (p : Path) : p.place ∈ p.trail := by simp [trail_eq]

/-- One name more has one ancestor more. -/
theorem ancestors_upTo_succ {p : Path} {k : Nat} (h : k < p.names.length) :
    (p.upTo (k + 1)).ancestors = (p.upTo k).trail := by
  unfold ancestors trail
  rw [length_upTo (by omega), length_upTo (by omega)]
  apply List.map_congr_left
  intro j hj
  have hj : j < k + 1 := List.mem_range.1 hj
  rw [upTo_upTo, upTo_upTo, Nat.min_eq_left (by omega), Nat.min_eq_left (by omega)]

/-- The ancestors of a path are the trail of its parent. -/
theorem trail_parent {p : Path} (h : p.names ≠ []) : p.parent.trail = p.ancestors := by
  have hlen : 0 < p.names.length := List.length_pos_iff.2 h
  have hup : p.names.length - 1 + 1 = p.names.length := by omega
  rw [parent_eq_upTo, ← ancestors_upTo_succ (by omega), hup, upTo_length]

/-- A path with one name more. -/
def below (p : Path) (n : Text) : Path := { p with names := p.names ++ [n] }

theorem upTo_below (p : Path) (n : Text) : (p.below n).upTo p.names.length = p := by
  simp [below, upTo]

theorem place_below {p : Path} {n : Text} (h : n ≠ back) : (p.below n).place = p.place ++ [n] := by
  show walk p.start (p.names ++ [n]) = _
  rw [walk_append, walk_cons, walk_nil, nextTo, if_neg h]
  rfl

/-- What leads to a path with one name more is the trail of the path. -/
theorem ancestors_below (p : Path) (n : Text) : (p.below n).ancestors = p.trail := by
  have hlen : (p.below n).names.length = p.names.length + 1 := by simp [below]
  have hspec := ancestors_upTo_succ (p := p.below n) (k := p.names.length) (by omega)
  rw [upTo_below, ← hlen, upTo_length] at hspec
  exact hspec

theorem trail_below {p : Path} {n : Text} (h : n ≠ back) :
    (p.below n).trail = p.trail ++ [p.place ++ [n]] := by
  rw [trail_eq, ancestors_below, place_below h]

theorem join_relative (p : Path) (names : List Text) : p.join ⟨false, names⟩ = ⟨p.rooted, p.names ++ names⟩ := rfl

/-! ## Written paths -/

/-- Names between slashes are read back. -/
theorem namesOf_join {names : List Text} (hne : names ≠ [])
    (h : ∀ n ∈ names, '/'.toNat ∉ n ∧ n ≠ [] ∧ n ≠ ("." : Text)) :
    namesOf (Text.join "/" names) = names := by
  have hsep : ("/" : Text) = ['/'.toNat] := rfl
  unfold namesOf
  rw [hsep, Text.splitOn_join hne fun n hn => (h n hn).1, List.filter_eq_self]
  intro n hn
  obtain ⟨_, hnil, hdot⟩ := h n hn
  simp [hnil, hdot]

/-- Names between slashes write a path from the working directory. -/
theorem ofText_join {names : List Text} (hne : names ≠ [])
    (h : ∀ n ∈ names, '/'.toNat ∉ n ∧ n ≠ [] ∧ n ≠ ("." : Text)) :
    ofText (Text.join "/" names) = ⟨false, names⟩ := by
  have hhead : (Text.join "/" names).head? ≠ some '/'.toNat := by
    cases names with
    | nil => exact absurd rfl hne
    | cons n names =>
        obtain ⟨hslash, hnil, _⟩ := h n (by simp)
        cases n with
        | nil => exact absurd rfl hnil
        | cons c n =>
            have hc : c ≠ '/'.toNat := by
              rintro rfl
              simp at hslash
            cases names with
            | nil => simpa using hc
            | cons m names => simpa [Text.join_cons_cons] using hc
  have hbeq : ((Text.join "/" names).head? == some '/'.toNat) = false := by simpa using hhead
  unfold ofText
  rw [hbeq, namesOf_join hne h]

end Path

theorem Tree.at?_start (t : Tree) (p : Path) : t.at? p.start = some .dir := by
  unfold Path.start
  split
  · exact t.at?_of_isAbove isAbove_root
  · exact t.at?_nil

/-- The location of a spot. -/
def Spot.place {t : Tree} : Spot t → Location
  | present l _ _ => l
  | vacant l n _ => l ++ [n]

/-! ## Legal paths -/

theorem nameSize_append (s t : Text) : nameSize (s ++ t) = nameSize s + nameSize t := by
  unfold nameSize
  rw [List.map_append]
  induction s with
  | nil => simp
  | cons c s ih =>
      simp only [List.map_cons, List.cons_append, List.foldr_cons, Nat.add_eq] at ih ⊢
      omega

/-- What the system asks of a path before it looks anywhere: bytes, and no null character among them. -/
structure Path.Askable (p : Path) : Prop where
  coded : p.encodeFault? = none
  noNull : ∀ n ∈ p.names, 0 ∉ n

instance (p : Path) : Decidable p.Askable :=
  decidable_of_iff (p.encodeFault? = none ∧ ∀ n ∈ p.names, 0 ∉ n) ⟨fun h => ⟨h.1, h.2⟩, fun h => ⟨h.coded, h.noNull⟩⟩

/-- What every file operation asks of a path: that the system can be asked for it, and neither a name nor the whole
path is too long. -/
structure Path.IsLegal (p : Path) : Prop extends p.Askable where
  shortNames : ∀ n ∈ p.names, n = back ∨ nameSize n ≤ nameLimit
  short : nameSize p.text < pathLimit

instance (p : Path) : Decidable p.IsLegal :=
  decidable_of_iff (p.Askable ∧ (∀ n ∈ p.names, n = back ∨ nameSize n ≤ nameLimit) ∧ nameSize p.text < pathLimit)
    ⟨fun ⟨hask, hshort, h⟩ => ⟨hask, hshort, h⟩, fun h => ⟨h.toAskable, h.shortNames, h.short⟩⟩

theorem nameSize_join_take_le (sep : Text) (names : List Text) (k : Nat) :
    nameSize (Text.join sep (names.take k)) ≤ nameSize (Text.join sep names) := by
  induction names generalizing k with
  | nil => simp
  | cons n names ih =>
      cases k with
      | zero => simp [nameSize]
      | succ k =>
          cases names with
          | nil => simp
          | cons m names =>
              have hrest := ih k
              cases k with
              | zero =>
                  simp only [List.take_succ_cons, List.take_zero, Text.join_singleton, Text.join_cons_cons,
                    nameSize_append]
                  omega
              | succ k =>
                  simp only [List.take_succ_cons, Text.join_cons_cons, nameSize_append] at hrest ⊢
                  omega

theorem Path.text_rooted (names : List Text) :
    Path.text ⟨true, names⟩ = '/'.toNat :: Text.join "/" names := by simp [Path.text]

theorem Path.text_relative {names : List Text} (h : names ≠ []) :
    Path.text ⟨false, names⟩ = Text.join "/" names := by simp [Path.text, h]

/-- One name more is written behind a slash, if anything stands in front of it. -/
theorem Path.text_below (p : Path) (n : Text) :
    ∃ front, (p.below n).text = front ++ n ∧ front <:+: p.text ++ ("/" : Text) := by
  obtain ⟨rooted, names⟩ := p
  by_cases hnames : names = []
  · subst hnames
    cases rooted with
    | true => exact ⟨"/", rfl, ⟨[], "/", rfl⟩⟩
    | false => exact ⟨[], rfl, List.nil_infix⟩
  · have hjoin := Text.join_append_singleton "/" hnames n
    have hmore : names ++ [n] ≠ [] := by simp
    cases rooted with
    | true =>
        refine ⟨Path.text ⟨true, names⟩ ++ ("/" : Text), ?_, List.infix_refl _⟩
        show Path.text ⟨true, names ++ [n]⟩ = _
        rw [text_rooted, text_rooted, hjoin]
        simp
    | false =>
        refine ⟨Path.text ⟨false, names⟩ ++ ("/" : Text), ?_, List.infix_refl _⟩
        show Path.text ⟨false, names ++ [n]⟩ = _
        rw [text_relative hmore, text_relative hnames, hjoin]

/-- The last name of a path stands at the end of its written form. -/
theorem Path.name_suffix_text (p : Path) : p.name <:+ p.text := by
  obtain ⟨rooted, names⟩ := p
  by_cases hnames : names = []
  · subst hnames
    exact List.nil_suffix
  · have hlast : Path.name ⟨rooted, names⟩ <:+ Text.join "/" names := Text.getLast?_suffix_join "/" names
    cases rooted with
    | true =>
        rw [text_rooted]
        exact hlast.trans (List.suffix_cons _ _)
    | false =>
        rw [text_relative hnames]
        exact hlast

theorem Path.encodeFaultFrom_eq_none_iff {position : Nat} {t : Text} :
    encodeFaultFrom position t = none ↔ ∀ c ∈ t, hasBytes c = true := by
  induction t generalizing position with
  | nil => simp [encodeFaultFrom]
  | cons c t ih =>
      rw [encodeFaultFrom]
      cases hc : hasBytes c with
      | true => simp [hc, ih]
      | false => simp [hc]

/-- **A path has bytes** exactly if each of its names has. -/
theorem Path.encodeFault?_eq_none_iff {p : Path} :
    p.encodeFault? = none ↔ ∀ n ∈ p.names, ∀ c ∈ n, hasBytes c = true := by
  have hjoin : (∀ c ∈ Text.join "/" p.names, hasBytes c = true) ↔ ∀ n ∈ p.names, ∀ c ∈ n, hasBytes c = true := by
    constructor
    · intro h n hn c hc
      exact h c (Text.mem_join_of_mem hc hn)
    · intro h c hc
      rcases Text.mem_join hc with hsep | ⟨n, hn, hmem⟩
      · rw [List.mem_singleton.1 hsep]
        decide
      · exact h n hn c hmem
  rw [encodeFault?, encodeFaultFrom_eq_none_iff, ← hjoin]
  obtain ⟨rooted, names⟩ := p
  cases rooted with
  | true =>
      rw [text_rooted, List.forall_mem_cons]
      exact and_iff_right (by decide)
  | false =>
      by_cases hnames : names = []
      · subst hnames
        exact iff_of_true (by decide) (by decide)
      · rw [text_relative hnames]

/-- A path that the system can be asked for stays one when it is cut short. -/
theorem Path.Askable.upTo {p : Path} (h : p.Askable) (k : Nat) : (p.upTo k).Askable where
  coded := encodeFault?_eq_none_iff.2 fun n hn => encodeFault?_eq_none_iff.1 h.coded n (List.mem_of_mem_take hn)
  noNull n hn := h.noNull n (List.mem_of_mem_take hn)

/-- The directory of a path that has bytes has bytes. -/
theorem Path.coded_parent {p : Path} (h : p.encodeFault? = none) : p.parent.encodeFault? = none :=
  encodeFault?_eq_none_iff.2 fun n hn => encodeFault?_eq_none_iff.1 h n (List.dropLast_subset _ hn)

/-- A path cut short is not longer, except that a dot is written for no name. -/
theorem Path.nameSize_text_upTo_le (p : Path) (k : Nat) :
    nameSize (p.upTo k).text ≤ max 1 (nameSize p.text) := by
  have hsize := nameSize_join_take_le "/" p.names k
  obtain ⟨rooted, names⟩ := p
  show nameSize (Path.text ⟨rooted, names.take k⟩) ≤ max 1 (nameSize (Path.text ⟨rooted, names⟩))
  cases rooted with
  | true =>
      rw [text_rooted, text_rooted, ← List.singleton_append, nameSize_append,
        ← List.singleton_append (l := Text.join _ names), nameSize_append]
      simp only at hsize
      omega
  | false =>
      by_cases hk : names.take k = []
      · rw [hk]
        exact Nat.le_max_left 1 _
      · have hnames : names ≠ [] := by
          rintro rfl
          exact hk (by simp)
        rw [text_relative hk, text_relative hnames]
        simp only at hsize
        omega

/-- A legal path stays legal when it is cut short. -/
theorem Path.IsLegal.upTo {p : Path} (h : p.IsLegal) (k : Nat) : (p.upTo k).IsLegal where
  toAskable := h.toAskable.upTo k
  shortNames n hn := h.shortNames n (List.mem_of_mem_take hn)
  short := by
    have hle := p.nameSize_text_upTo_le k
    have hp := h.short
    have hone : 1 < pathLimit := by decide
    omega

/-! ## Following names -/

namespace Tree

/-- Names along which a walk meets no file before its end. -/
def PassableAlong (t : Tree) (l : Location) (names : List Text) : Prop :=
  ∀ k < names.length, t.at? (walk l (names.take k)) = none ∨ t.at? (walk l (names.take k)) = some .dir

/-- Names along which a walk meets directories before its end. -/
def ReachedAlong (t : Tree) (l : Location) (names : List Text) : Prop :=
  ∀ k < names.length, t.at? (walk l (names.take k)) = some .dir

theorem ReachedAlong.tail {t : Tree} {l : Location} {n : Text} {names : List Text}
    (h : t.ReachedAlong l (n :: names)) : t.ReachedAlong (nextTo l n) names := by
  intro k hk
  simpa using h (k + 1) (by simpa using hk)

theorem ReachedAlong.cons {t : Tree} {l : Location} {n : Text} {names : List Text}
    (there : t.at? l = some .dir) (h : t.ReachedAlong (nextTo l n) names) :
    t.ReachedAlong l (n :: names) := by
  intro k hk
  cases k with
  | zero => exact there
  | succ k => exact h k (by simpa using hk)

theorem PassableAlong.tail {t : Tree} {l : Location} {n : Text} {names : List Text}
    (h : t.PassableAlong l (n :: names)) : t.PassableAlong (nextTo l n) names := by
  intro k hk
  simpa using h (k + 1) (by simpa using hk)

/-- A name that leads to something is followed there. -/
theorem follow_next {t : Tree} {l : Location} {n : Text} {d : Entry} (names : List Text)
    (there : t.at? l = some .dir) (hshort : n = back ∨ nameSize n ≤ nameLimit)
    (hd : t.at? (nextTo l n) = some d) :
    t.follow l .dir there (n :: names) = t.follow (nextTo l n) d hd names := by
  by_cases hn : n = back
  · subst hn
    have habove : nextTo l back = above l := if_pos rfl
    have he : d = .dir := by
      rw [habove, at?_above there] at hd
      exact (Option.some.inj hd).symm
    subst he
    rw [follow, if_pos rfl]
    congr 1
  · have hdown : nextTo l n = l ++ [n] := if_neg hn
    have hsize : ¬ nameLimit < nameSize n := Nat.not_lt.2 (hshort.resolve_left hn)
    rw [follow, if_neg hn, if_neg hsize]
    split
    · next e he =>
        have hed : e = d := by
          rw [hdown, he] at hd
          exact Option.some.inj hd
        subst hed
        congr 1
        exact hdown.symm
    · next he =>
        rw [hdown, he] at hd
        cases hd

/-- Two dots lead to something, so what leads nowhere is a name of its own. -/
theorem ne_back_of_at?_nextTo {t : Tree} {l : Location} {n : Text} (there : t.at? l = some .dir)
    (hd : t.at? (nextTo l n) = none) : n ≠ back := by
  rintro rfl
  rw [nextTo, if_pos rfl, at?_above there] at hd
  cases hd

/-- A last name that leads nowhere is free. -/
theorem follow_free {t : Tree} {l : Location} {n : Text} (there : t.at? l = some .dir)
    (hshort : n = back ∨ nameSize n ≤ nameLimit) (hd : t.at? (nextTo l n) = none) :
    ∃ free, nextTo l n = l ++ [n] ∧ t.follow l .dir there [n] = .ok (.vacant l n free) := by
  have hn : n ≠ back := ne_back_of_at?_nextTo there hd
  have hdown : nextTo l n = l ++ [n] := if_neg hn
  have hsize : ¬ nameLimit < nameSize n := Nat.not_lt.2 (hshort.resolve_left hn)
  rw [hdown] at hd
  refine ⟨⟨there, hd⟩, hdown, ?_⟩
  rw [follow, if_neg hn, if_neg hsize]
  split
  · next e he =>
      rw [hd] at he
      cases he
  · rfl

/-- A name that leads nowhere ends a longer walk. -/
theorem follow_gap {t : Tree} {l : Location} {n : Text} {names : List Text}
    (there : t.at? l = some .dir) (hshort : n = back ∨ nameSize n ≤ nameLimit)
    (hd : t.at? (nextTo l n) = none) (hne : names ≠ []) :
    t.follow l .dir there (n :: names) = .error .missing := by
  have hn : n ≠ back := ne_back_of_at?_nextTo there hd
  have hsize : ¬ nameLimit < nameSize n := Nat.not_lt.2 (hshort.resolve_left hn)
  rw [nextTo, if_neg hn] at hd
  rw [follow, if_neg hn, if_neg hsize]
  split
  · next e he =>
      rw [hd] at he
      cases he
  · cases names with
    | nil => exact absurd rfl hne
    | cons m names => rfl

/-- Behind directories, names lead to what stands at their place. -/
theorem follow_present {t : Tree} {names : List Text} {l : Location} {e : Entry}
    (there : t.at? l = some .dir) (hshort : ∀ n ∈ names, n = back ∨ nameSize n ≤ nameLimit)
    (hreach : t.ReachedAlong l names) (hend : t.at? (walk l names) = some e) :
    t.follow l .dir there names = .ok (.present (walk l names) e hend) := by
  induction names generalizing l with
  | nil =>
      have he : e = .dir := by
        rw [walk_nil, there] at hend
        exact (Option.some.inj hend).symm
      subst he
      rfl
  | cons n names ih =>
      have hn := hshort n (by simp)
      cases names with
      | nil => exact follow_next [] there hn hend
      | cons m names =>
          have hd : t.at? (nextTo l n) = some .dir := hreach 1 (by simp)
          rw [follow_next (m :: names) there hn hd]
          exact ih hd (fun k hk => hshort k (List.mem_cons_of_mem n hk)) hreach.tail hend

/-- Behind directories, names that lead nowhere end at a free name. -/
theorem follow_vacant {t : Tree} {names : List Text} {l : Location}
    (there : t.at? l = some .dir) (hshort : ∀ n ∈ names, n = back ∨ nameSize n ≤ nameLimit)
    (hreach : t.ReachedAlong l names) (hend : t.at? (walk l names) = none) :
    ∃ k n free, walk l names = k ++ [n] ∧ t.follow l .dir there names = .ok (.vacant k n free) := by
  induction names generalizing l with
  | nil =>
      rw [walk_nil, there] at hend
      cases hend
  | cons n names ih =>
      have hn := hshort n (by simp)
      cases names with
      | nil =>
          obtain ⟨free, hplace, hfollow⟩ := follow_free there hn hend
          exact ⟨l, n, free, hplace, hfollow⟩
      | cons m names =>
          have hd : t.at? (nextTo l n) = some .dir := hreach 1 (by simp)
          rw [follow_next (m :: names) there hn hd]
          exact ih hd (fun k hk => hshort k (List.mem_cons_of_mem n hk)) hreach.tail hend

/-- Names with a gap among them, and no file, lead nowhere. -/
theorem follow_missing {t : Tree} {names : List Text} {l : Location}
    (there : t.at? l = some .dir) (hshort : ∀ n ∈ names, n = back ∨ nameSize n ≤ nameLimit)
    (hpass : t.PassableAlong l names) {k : Nat} (hk : k < names.length)
    (hgap : t.at? (walk l (names.take k)) = none) :
    t.follow l .dir there names = .error .missing := by
  induction names generalizing l k with
  | nil => simp at hk
  | cons n names ih =>
      have hn := hshort n (by simp)
      cases k with
      | zero =>
          rw [List.take_zero, walk_nil, there] at hgap
          cases hgap
      | succ k =>
          have hk : k < names.length := by simpa using hk
          have hne : names ≠ [] := List.length_pos_iff.1 (by omega)
          cases hd : t.at? (nextTo l n) with
          | none => exact follow_gap there hn hd hne
          | some e =>
              have he : e = .dir := by
                have hfirst := hpass 1 (by simpa using Nat.zero_lt_of_lt hk)
                simpa [hd] using hfirst
              subst he
              rw [follow_next names there hn hd]
              exact ih hd (fun m hm => hshort m (List.mem_cons_of_mem n hm)) hpass.tail hk (by simpa using hgap)

/-! ## Locating paths -/

/-- A path on whose way there is no file. -/
def Passable (t : Tree) (p : Path) : Prop := ∀ l ∈ p.ancestors, t.at? l = none ∨ t.at? l = some .dir

/-- A path whose ancestors are directories. -/
def Reached (t : Tree) (p : Path) : Prop := ∀ l ∈ p.ancestors, t.at? l = some .dir

theorem passable_iff {t : Tree} {p : Path} : t.Passable p ↔ t.PassableAlong p.start p.names := by
  simp [Passable, PassableAlong, Path.ancestors, Path.upTo_place]

theorem reached_iff {t : Tree} {p : Path} : t.Reached p ↔ t.ReachedAlong p.start p.names := by
  simp [Reached, ReachedAlong, Path.ancestors, Path.upTo_place]

theorem refused_iff {p : Path} :
    (p.encodeFault?.isSome || p.names.any (·.contains 0)) = true ↔ ¬ p.Askable := by
  rw [Bool.or_eq_true, Option.isSome_iff_ne_none, List.any_eq_true]
  constructor
  · rintro (hcode | ⟨n, hn, hzero⟩) h
    · exact hcode h.coded
    · exact h.noNull n hn (List.contains_iff_mem.1 hzero)
  · intro h
    by_contra hnone
    rw [not_or, not_not, not_exists] at hnone
    exact h ⟨hnone.1, fun n hn hzero => hnone.2 n ⟨hn, List.contains_iff_mem.2 hzero⟩⟩

/-- A path that the system cannot be asked for leads nowhere. -/
theorem locate_of_not_askable {t : Tree} {p : Path} (h : ¬ p.Askable) : t.locate p = .error .nullCharacter := by
  rw [locate, if_pos (refused_iff.2 h)]

/-- The names of a path that the system looks at are followed from where it begins. -/
theorem locate_of_askable {t : Tree} {p : Path} (h : p.Askable) (hshort : nameSize p.text < pathLimit) :
    t.locate p = (t.follow p.start .dir (t.at?_start p) p.names).mapError fun cause => .system cause p := by
  rw [locate, if_neg (fun hany => refused_iff.1 hany h), if_neg (Nat.not_le.2 hshort)]
  by_cases hr : p.rooted = true
  · simp [hr, Path.start]
  · simp [hr, Path.start]

theorem locate_of_long {t : Tree} {p : Path} (h : p.Askable) (hlong : pathLimit ≤ nameSize p.text) :
    t.locate p = .error (.system .nameTooLong p) := by
  rw [locate, if_neg (fun hany => refused_iff.1 hany h), if_pos hlong]

theorem locate_present {t : Tree} {p : Path} {e : Entry} (h : p.IsLegal) (hreach : t.Reached p)
    (hend : t.at? p.place = some e) : t.locate p = .ok (.present p.place e hend) := by
  rw [locate_of_askable h.toAskable h.short, follow_present (t.at?_start p) h.shortNames (reached_iff.1 hreach) hend]
  rfl

theorem locate_vacant {t : Tree} {p : Path} (h : p.IsLegal) (hreach : t.Reached p)
    (hend : t.at? p.place = none) :
    ∃ l n free, p.place = l ++ [n] ∧ t.locate p = .ok (.vacant l n free) := by
  obtain ⟨l, n, free, hplace, hfollow⟩ :=
    follow_vacant (t.at?_start p) h.shortNames (reached_iff.1 hreach) hend
  refine ⟨l, n, free, hplace, ?_⟩
  rw [locate_of_askable h.toAskable h.short, hfollow]
  rfl

theorem locate_missing {t : Tree} {p : Path} (h : p.IsLegal) (hpass : t.Passable p)
    (hreach : ¬ t.Reached p) : t.locate p = .error (.system .missing p) := by
  have hgap : ∃ k < p.names.length, t.at? (walk p.start (p.names.take k)) = none := by
    rw [reached_iff] at hreach
    unfold ReachedAlong at hreach
    simp only [Classical.not_forall] at hreach
    obtain ⟨k, hk, hdir⟩ := hreach
    exact ⟨k, hk, (passable_iff.1 hpass k hk).resolve_right hdir⟩
  obtain ⟨k, hk, hgap⟩ := hgap
  rw [locate_of_askable h.toAskable h.short, follow_missing (t.at?_start p) h.shortNames (passable_iff.1 hpass) hk hgap]
  rfl

/-! ## Spots -/

/-- Names that lead to a spot are short, lead through directories, and end where they should. -/
theorem reached_of_follow {t : Tree} {names : List Text} {l : Location} {d : Entry} {there : t.at? l = some d}
    {spot : Spot t} (h : t.follow l d there names = .ok spot) :
    (∀ n ∈ names, n = back ∨ nameSize n ≤ nameLimit) ∧ t.ReachedAlong l names ∧ spot.place = walk l names := by
  induction names generalizing l d with
  | nil =>
      rw [follow] at h
      cases h
      refine ⟨by simp, ?_, rfl⟩
      intro k hk
      simp at hk
  | cons n names ih =>
      cases d with
      | file bytes => cases h
      | dir =>
          rw [follow] at h
          -- Both ways on, back and down, end where `nextTo` says.
          by_cases hn : n = back
          · rw [if_pos hn] at h
            obtain ⟨hshort, hreach, hplace⟩ := ih h
            have hnext : nextTo l n = above l := if_pos hn
            rw [← hnext] at hreach hplace
            refine ⟨?_, hreach.cons there, hplace⟩
            intro m hm
            rcases List.mem_cons.1 hm with rfl | hm
            · exact Or.inl hn
            · exact hshort m hm
          · by_cases hsize : nameLimit < nameSize n
            · rw [if_neg hn, if_pos hsize] at h
              cases h
            · have hnext : nextTo l n = l ++ [n] := if_neg hn
              have hshortn : n = back ∨ nameSize n ≤ nameLimit := Or.inr (Nat.le_of_not_lt hsize)
              rw [if_neg hn, if_neg hsize] at h
              split at h
              · obtain ⟨hshort, hreach, hplace⟩ := ih h
                rw [← hnext] at hreach hplace
                refine ⟨?_, hreach.cons there, hplace⟩
                intro m hm
                rcases List.mem_cons.1 hm with rfl | hm
                · exact hshortn
                · exact hshort m hm
              · split at h
                · cases h
                  refine ⟨by simpa using hshortn, ReachedAlong.cons there ?_, hnext.symm⟩
                  intro k hk
                  simp at hk
                · cases h

/-- **A path leads to a spot** only when it is legal and directories lead there, and the spot is at its place. -/
theorem spot_of_locate {t : Tree} {p : Path} {spot : Spot t} (h : t.locate p = .ok spot) :
    p.IsLegal ∧ t.Reached p ∧ spot.place = p.place := by
  -- Before any name is followed, the path itself is looked at.
  have hask : p.Askable := by
    by_contra hask
    rw [locate_of_not_askable hask] at h
    cases h
  have hlimit : nameSize p.text < pathLimit := by
    apply Nat.lt_of_not_le
    intro hlong
    rw [locate_of_long hask hlong] at h
    cases h
  rw [locate_of_askable hask hlimit] at h
  cases hfollow : t.follow p.start .dir (t.at?_start p) p.names with
  | error cause =>
      rw [hfollow] at h
      cases h
  | ok found =>
      rw [hfollow] at h
      cases h
      obtain ⟨hshort, hreach, hplace⟩ := reached_of_follow hfollow
      exact ⟨⟨hask, hshort, hlimit⟩, reached_iff.2 hreach, hplace⟩

/-- A path leads to something exactly when it is legal and directories lead to what is at its place. -/
theorem locate_present_iff {t : Tree} {p : Path} {e : Entry} :
    (∃ l there, t.locate p = .ok (.present l e there)) ↔
      p.IsLegal ∧ t.Reached p ∧ t.at? p.place = some e := by
  constructor
  · rintro ⟨l, there, h⟩
    obtain ⟨hlegal, hreach, hplace⟩ := spot_of_locate h
    exact ⟨hlegal, hreach, hplace ▸ there⟩
  · rintro ⟨hlegal, hreach, hend⟩
    exact ⟨p.place, hend, locate_present hlegal hreach hend⟩

end Tree
end StepForge
