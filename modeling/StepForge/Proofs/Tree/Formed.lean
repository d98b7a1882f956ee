import StepForge.Proofs.Results
import StepForge.Proofs.Text.Order
import StepForge.Proofs.Tree.Looking

/-!
# `StepForge.Proofs.Tree.Formed` — trees as a file system holds them

A tree lists its entries. In a tree that was made by file operations no location is listed twice, and each entry has a
name that can be written in a path. What stands below a directory is then exactly what its listing names, and a name of
the listing leads back to the entry.

## Contents
- `IsName`, `Tree.IsFormed` — names of entries, and trees in which all entries have one.
- `Path.Written`, `written_ofText` — paths as they are written.
- `formed_empty`, `IsFormed.place`, `IsFormed.refill`, `IsFormed.prune` — how trees come about.
- `IsFormed.makeDir`, `IsFormed.makeDirs`, `IsFormed.writeBytes`, `IsFormed.writeText`, `IsFormed.remove` — by path.
- `Tree.Leads`, `mem_below_iff` — entries below a directory.
- `mem_listing_iff`, `pairwise_listing` — their listing, in order.
- `stat?_of_leads` — looking for what is listed.
-/

namespace StepForge

/-! ## Names -/

/-- What can be the name of an entry: it can be written between slashes, has bytes, is not too long and does not lead
back. -/
structure IsName (n : Text) : Prop where
  written : '/'.toNat ∉ n ∧ n ≠ [] ∧ n ≠ ("." : Text)
  notBack : n ≠ back
  coded : ∀ c ∈ n, Path.hasBytes c = true
  noNull : 0 ∉ n
  short : nameSize n ≤ nameLimit

variable {n : Text} {l : Location}

theorem IsName.ne_root (h : IsName n) : n ≠ root := by
  rintro rfl
  exact h.written.1 (by decide)

/-- What has a name is not above the top of a tree. -/
theorem IsName.isAbove_eq_false (h : IsName n) (l : Location) : isAbove (l ++ [n]) = false := by
  rw [Bool.eq_false_iff]
  intro habove
  simp only [isAbove, Bool.or_eq_true, decide_eq_true_eq, List.all_append, Bool.and_eq_true, List.all_cons] at habove
  rcases habove with hroot | ⟨-, hback, -⟩
  · have hlast : [n] = [root] := (List.append_inj' (hroot.trans (List.nil_append [root]).symm) rfl).2
    exact h.ne_root (List.singleton_inj.1 hlast)
  · exact h.notBack hback

/-- The names of a path as it is written: none of them is empty, is a dot or holds a slash. -/
def Path.Written (p : Path) : Prop := ∀ n ∈ p.names, '/'.toNat ∉ n ∧ n ≠ [] ∧ n ≠ ("." : Text)

/-- **A path that is read from a text** is as it is written. -/
theorem Path.written_ofText (t : Text) : (ofText t).Written := by
  intro n hn
  obtain ⟨hpiece, hkept⟩ := List.mem_filter.1 hn
  have hkept : n ≠ [] ∧ n ≠ ("." : Text) := by simpa using hkept
  exact ⟨Text.notMem_of_mem_splitOn hpiece, hkept⟩

theorem Path.Written.div {p : Path} (hp : p.Written) (t : Text) : (p / t).Written := by
  show (p.join (.ofText t)).Written
  unfold join
  split
  · exact written_ofText t
  · intro n hn
    rcases List.mem_append.1 hn with hn | hn
    · exact hp n hn
    · exact written_ofText t n hn

theorem Path.Written.parent {p : Path} (hp : p.Written) : p.parent.Written :=
  fun n hn => hp n (List.dropLast_subset p.names hn)

namespace Tree

/-! ## Formed trees -/

/-- No location is listed twice, and each entry has a name. -/
structure IsFormed (t : Tree) : Prop where
  distinct : (t.entries.map (·.1)).Nodup
  named : ∀ x ∈ t.entries, ∃ l n, x.1 = l ++ [n] ∧ IsName n

theorem formed_empty : empty.IsFormed where
  distinct := List.nodup_nil
  named _ hx := absurd hx List.not_mem_nil

/-- A location that is listed once is found with its entry. -/
theorem lookup_eq_some_iff {entries : List (Location × Entry)} (h : (entries.map (·.1)).Nodup) {e : Entry} :
    entries.lookup l = some e ↔ (l, e) ∈ entries := by
  induction entries with
  | nil => simp
  | cons x xs ih =>
      obtain ⟨k, d⟩ := x
      obtain ⟨hnew, hrest⟩ := List.nodup_cons.1 h
      rw [List.lookup_cons, List.mem_cons, Prod.mk.injEq]
      by_cases hlk : l = k
      · subst hlk
        have hnone : (l, e) ∉ xs := fun hmem => hnew (List.mem_map.2 ⟨_, hmem, rfl⟩)
        simp [hnone, eq_comm]
      · have hbeq : (l == k) = false := by simpa using hlk
        rw [hbeq]
        simpa [hlk] using ih hrest

variable {t : Tree}

/-- **The entries of a formed tree** are what stands in it, but for the top and what is above it. -/
theorem IsFormed.mem_entries_iff (h : t.IsFormed) {e : Entry} :
    (l, e) ∈ t.entries ↔ isAbove l = false ∧ t.at? l = some e := by
  rw [← lookup_eq_some_iff h.distinct]
  constructor
  · intro hlookup
    obtain ⟨k, n, hl, hn⟩ := h.named _ ((lookup_eq_some_iff h.distinct).1 hlookup)
    have habove : isAbove l = false := by
      rw [show l = k ++ [n] from hl]
      exact hn.isAbove_eq_false k
    refine ⟨habove, ?_⟩
    rw [at?, entryAt, if_neg (by simp [habove])]
    exact hlookup
  · rintro ⟨habove, hat⟩
    rw [at?, entryAt, if_neg (by simp [habove])] at hat
    exact hat

/-- An entry that is put at a name takes the place of what was listed there. -/
theorem IsFormed.putEntry {u : Tree} (h : t.IsFormed) {e : Entry} (hu : u.entries = putEntry t.entries l e)
    (hl : ∃ k n, l = k ++ [n] ∧ IsName n) : u.IsFormed := by
  constructor
  · rw [hu, Tree.putEntry, List.map_cons, List.nodup_cons]
    refine ⟨?_, (List.filter_sublist.map _).nodup h.distinct⟩
    intro hmem
    obtain ⟨x, hx, rfl⟩ := List.mem_map.1 hmem
    simpa using (List.mem_filter.1 hx).2
  · intro x hx
    rw [hu] at hx
    rcases List.mem_cons.1 hx with rfl | hx
    · exact hl
    · exact h.named x (List.mem_filter.1 hx).1

theorem IsFormed.place (h : t.IsFormed) {e : Entry} {free} (hn : IsName n) : (t.place l n e free).IsFormed :=
  h.putEntry rfl ⟨l, n, rfl, hn⟩

theorem IsFormed.refill (h : t.IsFormed) {old new : List UInt8} {there} : (t.refill l old new there).IsFormed := by
  have habove : isAbove l = false := isAbove_eq_false (t := t) (by simp [there])
  exact h.putEntry rfl (h.named _ (h.mem_entries_iff.2 ⟨habove, there⟩))

theorem IsFormed.prune (h : t.IsFormed) {hbelow} : (t.prune l hbelow).IsFormed where
  distinct := (List.filter_sublist.map _).nodup h.distinct
  named x hx := h.named x (List.mem_filter.1 hx).1

/-! ## Changes by path -/

/-- A name that is found free is one of those that are followed, and not too long. -/
theorem name_of_follow {names : List Text} {k : Location} {e : Entry} {there : t.at? l = some e} {free}
    (h : t.follow l e there names = .ok (.vacant k n free)) : n ∈ names ∧ n ≠ back ∧ nameSize n ≤ nameLimit := by
  induction names generalizing l e with
  | nil => cases e <;> cases h
  | cons m names ih =>
      cases e with
      | file bytes => cases h
      | dir =>
          rw [follow] at h
          by_cases hm : m = back
          · rw [if_pos hm] at h
            obtain ⟨hmem, hrest⟩ := ih h
            exact ⟨List.mem_cons_of_mem m hmem, hrest⟩
          · by_cases hsize : nameLimit < nameSize m
            · rw [if_neg hm, if_pos hsize] at h
              cases h
            · rw [if_neg hm, if_neg hsize] at h
              split at h
              · obtain ⟨hmem, hrest⟩ := ih h
                exact ⟨List.mem_cons_of_mem m hmem, hrest⟩
              · split at h
                · cases h
                  exact ⟨List.mem_cons_self, hm, Nat.le_of_not_lt hsize⟩
                · cases h

/-- **A free name is a name**, if the path is as it is written. -/
theorem isName_of_locate {p : Path} (hp : p.Written) {free} (h : t.locate p = .ok (.vacant l n free)) : IsName n := by
  obtain ⟨hlegal, -, -⟩ := spot_of_locate h
  rw [locate_of_askable hlegal.toAskable hlegal.short, mapError_eq_ok_iff] at h
  obtain ⟨hmem, hback, hshort⟩ := name_of_follow h
  exact ⟨hp n hmem, hback, Path.encodeFault?_eq_none_iff.1 hlegal.coded n hmem, hlegal.noNull n hmem, hshort⟩

variable {u : Tree} {p : Path}

theorem IsFormed.makeDir (h : t.IsFormed) (hp : p.Written) (hmade : t.makeDir p = .ok u) : u.IsFormed := by
  unfold Tree.makeDir at hmade
  split at hmade
  · cases hmade
  · next hloc =>
      cases hmade
      exact h.place (isName_of_locate hp hloc)
  · cases hmade

theorem IsFormed.makeDirsWithin (h : t.IsFormed) (hp : p.Written) (depth : Nat) :
    (makeDirsWithin depth t p).tree.IsFormed :=
  makeDirsWithin_keeps (fun _ hp => hp.parent) (fun _ _ _ hp hmade h => h.makeDir hp hmade) depth hp h

theorem IsFormed.makeDirs (h : t.IsFormed) (hp : p.Written) : (t.makeDirs p).tree.IsFormed :=
  h.makeDirsWithin hp p.names.length

theorem IsFormed.writeBytes {bytes : List UInt8} (h : t.IsFormed) (hp : p.Written)
    (hwritten : t.writeBytes p bytes = .ok u) : u.IsFormed := by
  unfold Tree.writeBytes at hwritten
  split at hwritten
  · cases hwritten
    exact h.refill
  · cases hwritten
  · next hloc =>
      cases hwritten
      exact h.place (isName_of_locate hp hloc)
  · cases hwritten

theorem IsFormed.putText (h : t.IsFormed) (hp : p.Written) (text : Text) : (t.putText p text).tree.IsFormed := by
  unfold Tree.putText
  split
  · exact h
  · next hemptied =>
      have hempty := h.writeBytes hp hemptied
      split
      · exact hempty
      · split
        · exact hempty
        · next hwritten => exact hempty.writeBytes hp hwritten

theorem IsFormed.writeText (h : t.IsFormed) (hp : p.Written) (text : Text) : (t.writeText p text).tree.IsFormed := by
  have hdirs := h.makeDirs hp.parent
  unfold Tree.writeText
  dsimp only
  split
  · exact hdirs
  · exact hdirs.putText hp text

theorem IsFormed.remove (h : t.IsFormed) (hremoved : t.remove p = .ok u) : u.IsFormed := by
  unfold Tree.remove at hremoved
  split at hremoved
  · split at hremoved
    · cases hremoved
      exact h.prune
    · cases hremoved
  · cases hremoved
  · cases hremoved

/-! ## Entries below a directory -/

/-- Names lead from a directory to an entry below it. -/
def Leads (t : Tree) (p : Path) (names : List Text) (e : Entry) : Prop :=
  t.Holds p .dir ∧ names ≠ [] ∧ (∀ n ∈ names, IsName n) ∧ t.at? (p.place ++ names) = some e

/-- What stands in front of an entry is a directory. -/
theorem at?_of_append {more : Location} {e : Entry} (hmore : more ≠ []) (h : t.at? (l ++ more) = some e) :
    t.at? l = some .dir := by
  induction more using List.reverseRecOn generalizing e with
  | nil => exact absurd rfl hmore
  | append_singleton more n ih =>
      rw [← List.append_assoc] at h
      have hparent := t.at?_parent h
      by_cases hnil : more = []
      · rwa [hnil, List.append_nil] at hparent
      · exact ih hnil hparent

/-- What leads in is not the top of a tree, nor above it. -/
theorem isAbove_of_leadsIn {names : List Text} (hin : leadsIn names = true) : isAbove (l ++ names) = false := by
  cases names with
  | nil => cases hin
  | cons n names =>
      have hn : n ≠ back ∧ n ≠ root := by simpa [leadsIn] using hin
      rw [Bool.eq_false_iff]
      intro habove
      simp only [isAbove, Bool.or_eq_true, decide_eq_true_eq, List.all_append, List.all_cons, Bool.and_eq_true] at habove
      rcases habove with hroot | ⟨-, hback, -⟩
      · have hmem : n ∈ [root] := hroot ▸ List.mem_append_right l List.mem_cons_self
        exact hn.2 (List.mem_singleton.1 hmem)
      · exact hn.1 hback

/-- **All that leads into a directory** of a formed tree is a name. -/
theorem IsFormed.isName_of_leadsIn (h : t.IsFormed) {names : List Text} {e : Entry} (hin : leadsIn names = true)
    (hat : t.at? (l ++ names) = some e) : ∀ n ∈ names, IsName n := by
  induction names using List.reverseRecOn generalizing e with
  | nil => exact fun n hn => absurd hn List.not_mem_nil
  | append_singleton names m ih =>
      have hlast : IsName m := by
        obtain ⟨k, n, hl, hn⟩ := h.named _ (h.mem_entries_iff.2 ⟨isAbove_of_leadsIn hin, hat⟩)
        rw [← List.append_assoc] at hl
        rw [List.singleton_inj.1 (List.append_inj' hl rfl).2]
        exact hn
      have hfront : ∀ n ∈ names, IsName n := by
        cases names with
        | nil => exact fun n hn => absurd hn List.not_mem_nil
        | cons n names =>
            rw [← List.append_assoc] at hat
            exact ih hin (t.at?_parent hat)
      intro n hn
      rcases List.mem_append.1 hn with hn | hn
      · exact hfront n hn
      · rwa [List.mem_singleton.1 hn]

theorem leadsIn_of_isName {names : List Text} (hne : names ≠ []) (h : ∀ n ∈ names, IsName n) :
    leadsIn names = true := by
  cases names with
  | nil => exact absurd rfl hne
  | cons n names =>
      have hn := h n List.mem_cons_self
      simp [leadsIn, hn.notBack, hn.ne_root]

/-- **What stands below a location** is what names lead to from there. -/
theorem IsFormed.mem_below_iff (h : t.IsFormed) {names : List Text} {e : Entry} :
    (names, e) ∈ t.below l ↔ names ≠ [] ∧ (∀ n ∈ names, IsName n) ∧ t.at? (l ++ names) = some e := by
  unfold below
  rw [List.mem_filterMap]
  constructor
  · rintro ⟨⟨k, d⟩, hmem, hk⟩
    obtain ⟨hcond, heq⟩ := Option.ite_none_right_eq_some.1 hk
    obtain ⟨rfl, rfl⟩ := Prod.mk.inj (Option.some.inj heq)
    obtain ⟨hbegins, hin⟩ := Bool.and_eq_true_iff.1 hcond
    obtain ⟨names, rfl⟩ := List.isPrefixOf_iff_prefix.1 hbegins
    rw [List.drop_left] at hin ⊢
    have hat := (h.mem_entries_iff.1 hmem).2
    refine ⟨?_, h.isName_of_leadsIn hin hat, hat⟩
    rintro rfl
    cases hin
  · rintro ⟨hne, hnames, hat⟩
    have hin := leadsIn_of_isName hne hnames
    refine ⟨(l ++ names, e), h.mem_entries_iff.2 ⟨isAbove_of_leadsIn hin, hat⟩, ?_⟩
    have hbegins : l.isPrefixOf (l ++ names) = true := List.isPrefixOf_iff_prefix.2 (List.prefix_append l names)
    simp [hbegins, hin]

/-- Nothing is listed twice below a location. -/
theorem IsFormed.pairwise_below (h : t.IsFormed) (l : Location) :
    (t.below l).Pairwise fun a b => a.1 ≠ b.1 := by
  have hdistinct : t.entries.Pairwise fun a b => a.1 ≠ b.1 := List.pairwise_map.1 h.distinct
  refine hdistinct.filterMap _ ?_
  rintro ⟨k, d⟩ ⟨k', d'⟩ hne x hx y hy hxy
  obtain ⟨hcond, hx⟩ := Option.ite_none_right_eq_some.1 hx
  obtain ⟨hcond', hy⟩ := Option.ite_none_right_eq_some.1 hy
  obtain ⟨names, rfl⟩ := List.isPrefixOf_iff_prefix.1 (Bool.and_eq_true_iff.1 hcond).1
  obtain ⟨names', rfl⟩ := List.isPrefixOf_iff_prefix.1 (Bool.and_eq_true_iff.1 hcond').1
  cases hx
  cases hy
  rw [List.drop_left, List.drop_left] at hxy
  exact hne (congrArg (l ++ ·) hxy)

/-! ## Listings -/

/-- Names between slashes tell entries apart. -/
theorem join_inj {names names' : List Text} (h : ∀ n ∈ names, IsName n) (h' : ∀ n ∈ names', IsName n) :
    Text.join "/" names = Text.join "/" names' ↔ names = names' :=
  Text.join_injective (fun n hn => ⟨(h n hn).written.2.1, (h n hn).written.1⟩)
    fun n hn => ⟨(h' n hn).written.2.1, (h' n hn).written.1⟩

theorem listing_of_dir (hdir : t.Holds p .dir) :
    t.listing p = Text.sortBy (·.1) ((t.below p.place).map fun x => (Text.join "/" x.1, x.2)) := by
  rw [listing, locate_present hdir.1 hdir.2.1 hdir.2.2]

theorem listing_of_not_dir (hdir : ¬ t.Holds p .dir) : t.listing p = [] := by
  unfold listing
  split
  · next l there hloc => exact absurd (locate_present_iff.1 ⟨l, there, hloc⟩) hdir
  · rfl

/-- **A listing names** what stands below a directory by the names that lead there. -/
theorem IsFormed.mem_listing_iff (h : t.IsFormed) {e : Entry} :
    (n, e) ∈ t.listing p ↔ ∃ names, t.Leads p names e ∧ n = Text.join "/" names := by
  by_cases hdir : t.Holds p .dir
  · rw [listing_of_dir hdir, (Text.perm_sortBy _ _).mem_iff, List.mem_map]
    constructor
    · rintro ⟨⟨names, d⟩, hmem, heq⟩
      obtain ⟨rfl, rfl⟩ := Prod.mk.inj heq
      exact ⟨names, ⟨hdir, h.mem_below_iff.1 hmem⟩, rfl⟩
    · rintro ⟨names, ⟨-, hbelow⟩, rfl⟩
      exact ⟨(names, e), h.mem_below_iff.2 hbelow, rfl⟩
  · rw [listing_of_not_dir hdir]
    refine iff_of_false List.not_mem_nil ?_
    rintro ⟨names, hleads, -⟩
    exact hdir hleads.1

/-- **A listing is strictly ascending.** -/
theorem IsFormed.pairwise_listing (h : t.IsFormed) (p : Path) : (t.listing p).Pairwise fun a b => a.1 < b.1 := by
  by_cases hdir : t.Holds p .dir
  · have hdistinct : ((t.below p.place).map fun x => (Text.join "/" x.1, x.2)).Pairwise fun a b => a.1 ≠ b.1 := by
      rw [List.pairwise_map]
      refine (h.pairwise_below p.place).imp_of_mem ?_
      rintro ⟨names, d⟩ ⟨names', d'⟩ hmem hmem' hne heq
      exact hne ((join_inj (h.mem_below_iff.1 hmem).2.1 (h.mem_below_iff.1 hmem').2.1).1 heq)
    rw [listing_of_dir hdir]
    have hsorted := (Text.perm_sortBy (·.1) _).symm.pairwise hdistinct fun hne => hne.symm
    exact (Text.pairwise_sortBy _ _).imp₂ (fun _ _ hle hne => lt_of_le_of_ne hle hne) hsorted
  · rw [listing_of_not_dir hdir]
    exact List.Pairwise.nil

/-! ## Looking for what is listed -/

/-- A name of a listing is a path from the directory. -/
theorem Leads.div {names : List Text} {e : Entry} (h : t.Leads p names e) :
    p / Text.join "/" names = ⟨p.rooted, p.names ++ names⟩ := by
  show p.join (.ofText _) = _
  rw [Path.ofText_join h.2.1 fun n hn => (h.2.2.1 n hn).written, Path.join_relative]

theorem walk_of_isName {names : List Text} (h : ∀ n ∈ names, IsName n) : walk l names = l ++ names := by
  induction names generalizing l with
  | nil => simp
  | cons n names ih =>
      have hn := (h n List.mem_cons_self).notBack
      rw [walk_cons, nextTo, if_neg hn, ih fun m hm => h m (List.mem_cons_of_mem n hm)]
      simp

theorem place_append {names : List Text} (h : ∀ n ∈ names, IsName n) :
    (⟨p.rooted, p.names ++ names⟩ : Path).place = p.place ++ names := by
  show walk p.start (p.names ++ names) = _
  rw [walk_append, walk_of_isName h]
  rfl

/-- Directories lead to what is listed: those that lead to where the listing begins, and those behind it. -/
theorem Leads.reached {names : List Text} {e : Entry} (h : t.Leads p names e) :
    t.Reached ⟨p.rooted, p.names ++ names⟩ := by
  obtain ⟨hdir, -, hnames, hat⟩ := h
  intro l hl
  obtain ⟨k, hk, rfl⟩ := Path.mem_ancestors.1 hl
  rw [List.length_append] at hk
  rcases Nat.lt_or_ge k p.names.length with hlt | hge
  · have hfront : (⟨p.rooted, p.names ++ names⟩ : Path).upTo k = p.upTo k := by
      simp [Path.upTo, List.take_append_of_le_length hlt.le]
    rw [hfront]
    exact hdir.2.1 _ (Path.mem_ancestors.2 ⟨k, hlt, rfl⟩)
  · obtain ⟨j, rfl⟩ := Nat.exists_eq_add_of_le hge
    have hfront : (⟨p.rooted, p.names ++ names⟩ : Path).upTo (p.names.length + j) =
        ⟨p.rooted, p.names ++ names.take j⟩ := by
      simp [Path.upTo, List.take_length_add_append]
    have hmore : names.drop j ≠ [] := by
      rw [ne_eq, List.drop_eq_nil_iff]
      omega
    rw [hfront, place_append fun n hn => hnames n (List.mem_of_mem_take hn)]
    rw [← List.take_append_drop j names, ← List.append_assoc] at hat
    exact at?_of_append hmore hat

/-- **Looking for what is listed** finds it, unless the path to it is too long. -/
theorem stat?_of_leads {names : List Text} {e : Entry} (h : t.Leads p names e) :
    t.stat? (p / Text.join "/" names) =
      if nameSize (p / Text.join "/" names).text < pathLimit then .ok (some e)
      else .error (.system .nameTooLong (p / Text.join "/" names)) := by
  have hreached := h.reached
  have hdiv := h.div
  obtain ⟨hdir, -, hnames, hat⟩ := h
  rw [hdiv]
  have hask : (⟨p.rooted, p.names ++ names⟩ : Path).Askable := by
    refine ⟨Path.encodeFault?_eq_none_iff.2 fun n hn => ?_, fun n hn => ?_⟩
    · rcases List.mem_append.1 hn with hn | hn
      · exact Path.encodeFault?_eq_none_iff.1 hdir.1.coded n hn
      · exact (hnames n hn).coded
    · rcases List.mem_append.1 hn with hn | hn
      · exact hdir.1.noNull n hn
      · exact (hnames n hn).noNull
  split
  · next hshort =>
      refine stat?_eq_some_iff.2 ⟨⟨hask, ?_, hshort⟩, hreached, ?_⟩
      · intro n hn
        rcases List.mem_append.1 hn with hn | hn
        · exact hdir.1.shortNames n hn
        · exact Or.inr (hnames n hn).short
      · rw [place_append hnames]
        exact hat
  · next hlong => exact stat?_eq_error_iff.2 ⟨rfl, hask, Or.inl (Nat.le_of_not_lt hlong)⟩

end Tree
end StepForge
