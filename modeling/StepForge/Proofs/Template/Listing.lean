import StepForge.Proofs.Template.Bundled
import StepForge.Proofs.Tree.Formed

/-!
# `StepForge.Proofs.Template.Listing` — templates that are listed, and templates that are found

The names of a library are found in one way and looked up in another. A listing takes every entry whose name ends as
those of templates do, be it a file or a directory; a look-up takes files alone. So the two agree exactly where no
directory has such a name.

## Contents
- `endsWith_iff`, `endsWith_join_iff` — how a path ends.
- `formed_bundledTree`, `Library.IsFormed` — the trees in which templates stand.
- `mem_names_iff`, `pairwise_names`, `names_eq_error_iff` — what is listed, in order.
- `path_of_shelves` — looking up what is listed.
- `templates_listed` — all of it, for every library and every tree.
-/

namespace StepForge

namespace Text

theorem endsWith_iff {t stop : Text} : endsWith t stop = true ↔ stop <:+ t := by
  unfold endsWith
  rw [startsWith_iff, List.reverse_prefix]

/-- What stands between separators ends as its last piece does, if the ending has no separator. -/
theorem endsWith_join_iff {sep : CodePoint} {pieces : List Text} {stop : Text} (hsep : sep ∉ stop) :
    endsWith (join [sep] pieces) stop = true ↔ endsWith (pieces.getLast?.getD []) stop = true := by
  rw [endsWith_iff, endsWith_iff]
  refine ⟨fun h => ?_, fun h => h.trans (getLast?_suffix_join [sep] pieces)⟩
  induction pieces using List.reverseRecOn with
  | nil => exact h
  | append_singleton pieces last _ =>
      rw [List.getLast?_concat, Option.getD_some]
      by_cases hnil : pieces = []
      · subst hnil
        exact h
      · -- A longer ending would hold the separator in front of the last piece.
        rw [join_append_singleton [sep] hnil, List.append_assoc] at h
        have hlast : sep :: last <:+ join [sep] pieces ++ ([sep] ++ last) := List.suffix_append _ _
        rcases List.suffix_or_suffix_of_suffix h hlast with hin | hout
        · rcases List.suffix_cons_iff.1 hin with heq | hin
          · exact absurd (heq ▸ List.mem_cons_self) hsep
          · exact hin
        · exact absurd (hout.subset List.mem_cons_self) hsep

end Text

namespace Template

/-! ## Trees of templates -/

theorem formed_withFiles (files : List (Text × Text)) {t : Tree} (h : t.IsFormed) :
    (files.foldl (fun t file => withFile t (bundledDirectory / file.1) file.2) t).IsFormed := by
  induction files generalizing t with
  | nil => exact h
  | cons f files ih =>
      have hdir : bundledDirectory.Written := Path.written_ofText _
      exact ih (h.writeText (hdir.div f.1) f.2)

/-- The tree of the bundled templates is made by writing files. -/
theorem formed_bundledTree : bundledTree.IsFormed := formed_withFiles bundled Tree.formed_empty

theorem Home.formed_place (h : Home) {t : Tree} (ht : t.IsFormed) : (h.place t).1.IsFormed := by
  cases h with
  | bundled =>
      have hplace : Home.bundled.place t = (bundledTree, bundledDirectory) := rfl
      rw [hplace]
      dsimp only
      exact formed_bundledTree
  | directory p => exact ht

namespace Library

/-! ## Listing -/

/-- The names of an entry end as those of templates do. -/
def IsTemplate (names : List Text) : Prop := Text.endsWith (names.getLast?.getD []) ".j2" = true

/-- Names lead to an entry in the directory of a library. -/
def Shelves (l : Library) (t : Tree) (names : List Text) (e : Entry) : Prop :=
  (l.home.place t).1.Leads (l.home.place t).2 names e

/-- The path to a name in the directory of a library. -/
def pathTo (l : Library) (t : Tree) (name : Text) : Path := (l.home.place t).2 / name

/-- A library cannot be listed: the path of its directory, or of one below it, is too long. -/
def Unlistable (l : Library) (t : Tree) : Prop :=
  (∃ f, (l.home.place t).1.stat? (l.home.place t).2 = .error f) ∨
    ∃ names, l.Shelves t names .dir ∧ pathLimit ≤ nameSize (l.pathTo t (Text.join "/" names)).text

variable {l : Library} {t : Tree}

theorem mem_listing_iff (h : t.IsFormed) {n : Text} {e : Entry} :
    (n, e) ∈ (l.home.place t).1.listing (l.home.place t).2 ↔ ∃ names, l.Shelves t names e ∧ n = Text.join "/" names :=
  (l.home.formed_place h).mem_listing_iff

/-- A name that is listed ends as its last part does. -/
theorem endsWith_of_names (names : List Text) : Text.endsWith (Text.join "/" names) ".j2" = true ↔ IsTemplate names :=
  Text.endsWith_join_iff (by decide)

/-- The names that are listed, as a file system answers. -/
theorem names_eq (l : Library) (t : Tree) :
    l.names t = match (l.home.place t).1.stat? (l.home.place t).2 with
      | .error f => .error f
      | .ok none => .ok []
      | .ok (some _) =>
          match ((l.home.place t).1.listing (l.home.place t).2).find? fun e =>
            e.2 = .dir && pathLimit ≤ nameSize (l.pathTo t e.1).text with
          | some e => .error (.system .nameTooLong (l.pathTo t e.1))
          | none => .ok ((((l.home.place t).1.listing (l.home.place t).2).map (·.1)).filter fun n =>
              Text.endsWith n ".j2") := by
  unfold Store.names pathTo
  generalize l.home.place t = place
  obtain ⟨files, dir⟩ := place
  dsimp only
  cases files.stat? dir with
  | error f => rfl
  | ok seen => cases seen <;> rfl

/-- **A library is listed** unless a path is too long. -/
theorem names_cases (l : Library) (t : Tree) (h : t.IsFormed) :
    (l.Unlistable t ∧ ∃ f, l.names t = .error f) ∨
      (¬ l.Unlistable t ∧ l.names t = .ok ((((l.home.place t).1.listing (l.home.place t).2).map (·.1)).filter
        fun n => Text.endsWith n ".j2")) := by
  rw [names_eq]
  cases hstat : (l.home.place t).1.stat? (l.home.place t).2 with
  | error f => exact Or.inl ⟨Or.inl ⟨f, hstat⟩, f, rfl⟩
  | ok seen =>
      have hfault : ¬ ∃ f, (l.home.place t).1.stat? (l.home.place t).2 = .error f := by
        rintro ⟨f, hf⟩
        cases hstat.symm.trans hf
      cases seen with
      | none =>
          have hdir : ¬ (l.home.place t).1.Holds (l.home.place t).2 .dir := by
            intro hdir
            cases hstat.symm.trans (Tree.stat?_eq_some_iff.2 hdir)
          refine Or.inr ⟨?_, ?_⟩
          · rintro (hf | ⟨names, hshelves, -⟩)
            · exact hfault hf
            · exact hdir hshelves.1
          · rw [Tree.listing_of_not_dir hdir]
            rfl
      | some e =>
          dsimp only
          split
          · next x hx =>
              -- The directory that stands in the way is one of those that are listed.
              obtain ⟨n, e⟩ := x
              have hcond := List.find?_some hx
              simp only [Bool.and_eq_true, decide_eq_true_eq] at hcond
              obtain ⟨rfl, hlong⟩ := hcond
              obtain ⟨names, hshelves, rfl⟩ := (mem_listing_iff h).1 (List.mem_of_find?_eq_some hx)
              exact Or.inl ⟨Or.inr ⟨names, hshelves, hlong⟩, _, rfl⟩
          · next hnone =>
              refine Or.inr ⟨?_, rfl⟩
              rintro (hf | ⟨names, hshelves, hlong⟩)
              · exact hfault hf
              · have hmem := (mem_listing_iff h).2 ⟨names, hshelves, rfl⟩
                have hother := List.find?_eq_none.1 hnone _ hmem
                simp [hlong] at hother

theorem names_eq_error_iff (h : t.IsFormed) : (∃ f, l.names t = .error f) ↔ l.Unlistable t := by
  rcases names_cases l t h with ⟨hlong, hf⟩ | ⟨hlong, hok⟩
  · exact iff_of_true hf hlong
  · refine iff_of_false ?_ hlong
    rintro ⟨f, hf⟩
    cases hok.symm.trans hf

variable {ns : List Text}

theorem names_eq_filter (h : t.IsFormed) (hns : l.names t = .ok ns) :
    ns = (((l.home.place t).1.listing (l.home.place t).2).map (·.1)).filter fun n => Text.endsWith n ".j2" := by
  rcases names_cases l t h with ⟨-, f, hf⟩ | ⟨-, hok⟩
  · cases hns.symm.trans hf
  · cases hns.symm.trans hok
    rfl

/-- **The names are strictly ascending.** -/
theorem pairwise_names (h : t.IsFormed) (hns : l.names t = .ok ns) : ns.Pairwise (· < ·) := by
  rw [names_eq_filter h hns]
  have hlisting := (l.home.formed_place h).pairwise_listing (l.home.place t).2
  exact (List.pairwise_map.2 hlisting).filter _

/-- **A name is listed** exactly if it leads to an entry, be it a file or a directory, and ends as templates do. -/
theorem mem_names_iff (h : t.IsFormed) (hns : l.names t = .ok ns) {n : Text} :
    n ∈ ns ↔ ∃ names e, l.Shelves t names e ∧ n = Text.join "/" names ∧ IsTemplate names := by
  rw [names_eq_filter h hns, List.mem_filter, List.mem_map]
  constructor
  · rintro ⟨⟨⟨n, e⟩, hmem, rfl⟩, hends⟩
    obtain ⟨names, hshelves, rfl⟩ := (mem_listing_iff h).1 hmem
    exact ⟨names, e, hshelves, rfl, (endsWith_of_names names).1 hends⟩
  · rintro ⟨names, e, hshelves, rfl, hends⟩
    exact ⟨⟨_, (mem_listing_iff h).2 ⟨names, hshelves, rfl⟩, rfl⟩, (endsWith_of_names names).2 hends⟩

/-! ## Looking up -/

/-- Names lead to one entry. -/
theorem Shelves.unique {names names' : List Text} {d e : Entry} (hd : l.Shelves t names d)
    (he : l.Shelves t names' e) (hname : Text.join "/" names = Text.join "/" names') : names = names' ∧ d = e := by
  obtain rfl := (Tree.join_inj hd.2.2.1 he.2.2.1).1 hname
  exact ⟨rfl, Option.some.inj (hd.2.2.2.symm.trans he.2.2.2)⟩

/-- **Looking up what is listed** finds files alone, at a path that is not too long. -/
theorem path_of_shelves {names : List Text} {e : Entry} (he : l.Shelves t names e) :
    (∃ p, l.path t (Text.join "/" names) = .ok p) ↔
      (∃ bytes, e = .file bytes) ∧ nameSize (l.pathTo t (Text.join "/" names)).text < pathLimit := by
  have hstat : (l.home.place t).1.stat? ((l.home.place t).2 / Text.join "/" names) = _ := Tree.stat?_of_leads he
  have hname : (Path.ofText (Text.join "/" names)).rooted = false := by
    rw [Path.ofText_join he.2.1 fun n hn => (he.2.2.1 n hn).written]
  unfold pathTo Store.path
  rw [Home.path_of_relative hname]
  by_cases hshort : nameSize ((l.home.place t).2 / Text.join "/" names).text < pathLimit
  · rw [if_pos hshort] at hstat
    cases e with
    | file bytes =>
        rw [hstat]
        exact iff_of_true ⟨_, rfl⟩ ⟨⟨bytes, rfl⟩, hshort⟩
    | dir =>
        rw [hstat]
        refine iff_of_false ?_ ?_
        · rintro ⟨p, hp⟩
          cases hp
        · rintro ⟨⟨bytes, hbytes⟩, -⟩
          cases hbytes
  · rw [if_neg hshort] at hstat
    rw [hstat]
    refine iff_of_false ?_ fun hfile => hshort hfile.2
    rintro ⟨p, hp⟩
    cases hp

/-- **Which templates are listed, and which of them are found**, for every library and every tree. The listing fails
exactly if a directory has too long a path. Otherwise it is strictly ascending, and has every name that leads to a file
or a directory and ends as templates do. So it lists exactly the files with such names if and only if no directory has
one, and a name that is listed is found exactly if it leads to a file, at a path that is not too long. -/
theorem templates_listed (l : Library) (t : Tree) (h : t.IsFormed) :
    ((∃ f, l.names t = .error f) ↔ l.Unlistable t) ∧
      ∀ ns, l.names t = .ok ns →
        ns.Pairwise (· < ·) ∧
        (∀ n, n ∈ ns ↔ ∃ names e, l.Shelves t names e ∧ n = Text.join "/" names ∧ IsTemplate names) ∧
        ((∀ n, n ∈ ns ↔
            ∃ names bytes, l.Shelves t names (.file bytes) ∧ n = Text.join "/" names ∧ IsTemplate names) ↔
          ∀ names, l.Shelves t names .dir → ¬ IsTemplate names) ∧
        ∀ n ∈ ns, (∃ p, l.path t n = .ok p) ↔
          (∃ names bytes, l.Shelves t names (.file bytes) ∧ n = Text.join "/" names) ∧
            nameSize (l.pathTo t n).text < pathLimit := by
  refine ⟨names_eq_error_iff h, fun ns hns => ⟨pairwise_names h hns, fun n => mem_names_iff h hns, ⟨?_, ?_⟩, ?_⟩⟩
  · intro hfiles names hdir hends
    have hmem := (mem_names_iff h hns).2 ⟨names, .dir, hdir, rfl, hends⟩
    obtain ⟨names', bytes, hfile, hname, -⟩ := (hfiles _).1 hmem
    cases (hdir.unique hfile hname).2
  · intro hnone n
    rw [mem_names_iff h hns]
    constructor
    · rintro ⟨names, e, he, hn, hends⟩
      cases e with
      | file bytes => exact ⟨names, bytes, he, hn, hends⟩
      | dir => exact absurd hends (hnone names he)
    · rintro ⟨names, bytes, hfile, hn, hends⟩
      exact ⟨names, .file bytes, hfile, hn, hends⟩
  · intro n hn
    obtain ⟨names, e, he, rfl, -⟩ := (mem_names_iff h hns).1 hn
    rw [path_of_shelves he]
    refine and_congr_left fun _ => ⟨?_, ?_⟩
    · rintro ⟨bytes, rfl⟩
      exact ⟨names, bytes, he, rfl⟩
    · rintro ⟨names', bytes, hfile, hname⟩
      exact ⟨bytes, (he.unique hfile hname).2⟩

/-- A file and a directory with names of templates, below one directory. -/
def shelfTree : Tree :=
  ((Tree.empty.makeDirs (.ofText "t/x.j2")).tree.writeText (.ofText "t/a.j2") "text").tree

/-- The library of this directory. -/
def shelf : Library := ofHome (.directory (.ofText "t"))

theorem shelf_lists_directory :
    shelfTree.IsFormed ∧ shelf.names shelfTree = .ok ["a.j2", "x.j2"] ∧
      ¬ ∀ n, n ∈ (["a.j2", "x.j2"] : List Text) ↔
        ∃ names bytes, shelf.Shelves shelfTree names (.file bytes) ∧ n = Text.join "/" names ∧ IsTemplate names := by
  have hformed : shelfTree.IsFormed := by
    have hdirs := Tree.formed_empty.makeDirs (Path.written_ofText "t/x.j2")
    exact hdirs.writeText (Path.written_ofText "t/a.j2") "text"
  have hnames : shelf.names shelfTree = .ok ["a.j2", "x.j2"] := by
    apply eq_ok_of_toOption
    decide +kernel
  have hdir : shelf.Shelves shelfTree ["x.j2"] .dir := by
    refine ⟨Tree.stat?_eq_some_iff.1 ?_, by simp, ?_, ?_⟩
    · rfl
    · intro n hn
      rw [List.mem_singleton.1 hn]
      exact ⟨by decide, by decide, by decide, by decide, by decide⟩
    · decide +kernel
  obtain ⟨-, -, hfiles, -⟩ := (templates_listed shelf shelfTree hformed).2 _ hnames
  refine ⟨hformed, hnames, fun hall => ?_⟩
  exact hfiles.1 hall _ hdir (by unfold IsTemplate; decide)

end Library
end Template
end StepForge
