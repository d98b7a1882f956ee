import StepForge.Console.Screen
import StepForge.Console.Summary
import StepForge.Proofs.Text.Split
import StepForge.Proofs.Text.Utf8

/-!
# `StepForge.Proofs.Console.Lines` — what stands in lines

However a text is broken, cut or filled into lines, a line holds code points of that text, blanks, and an
ellipsis where something was cut off. So what is true of all code points of a text, of the blank and of the
ellipsis, is true of all that is put on the console.

## Contents
- `Of`, `OfAll` — texts all of whose code points have a property.
- `ofAll_wrap` — the lines of a text.
- `ofAll_rowLines`, `of_titleLine` — the lines of a box.
- `Encodable`, `Screen.print_encodable` — texts that have bytes go out.
- `encodable_recordText` — log records.
-/

namespace StepForge.Console

/-! ## Texts of code points with a property -/

/-- All code points of a text have a property. -/
def Of (P : CodePoint → Prop) (t : Text) : Prop := ∀ c ∈ t, P c

/-- All code points of several texts have a property. -/
def OfAll (P : CodePoint → Prop) (ts : List Text) : Prop := ∀ t ∈ ts, Of P t

section Lines

variable {P : CodePoint → Prop}

theorem of_nil : Of P [] := by simp [Of]

theorem of_cons {c : CodePoint} {t : Text} : Of P (c :: t) ↔ P c ∧ Of P t := List.forall_mem_cons

theorem of_append {s t : Text} : Of P (s ++ t) ↔ Of P s ∧ Of P t := List.forall_mem_append

theorem of_reverse {t : Text} : Of P t.reverse ↔ Of P t := by simp [Of]

theorem of_replicate {c : CodePoint} (h : P c) (n : Nat) : Of P (List.replicate n c) := by
  intro d hd
  rw [(List.mem_replicate.1 hd).2]
  exact h

theorem Of.subset {s t : Text} (h : Of P t) (hsub : ∀ c ∈ s, c ∈ t) : Of P s := fun c hc => h c (hsub c hc)

theorem Of.take {t : Text} (h : Of P t) (n : Nat) : Of P (t.take n) := h.subset fun _ hc => List.mem_of_mem_take hc

theorem Of.drop {t : Text} (h : Of P t) (n : Nat) : Of P (t.drop n) := h.subset fun _ hc => List.mem_of_mem_drop hc

theorem Of.takeWhile {t : Text} (h : Of P t) (p : CodePoint → Bool) : Of P (t.takeWhile p) :=
  h.subset fun _ hc => List.takeWhile_subset p hc

theorem ofAll_nil : OfAll P [] := by simp [OfAll]

theorem ofAll_cons {t : Text} {ts : List Text} : OfAll P (t :: ts) ↔ Of P t ∧ OfAll P ts := List.forall_mem_cons

theorem ofAll_append {ts us : List Text} : OfAll P (ts ++ us) ↔ OfAll P ts ∧ OfAll P us := List.forall_mem_append

theorem ofAll_map {α : Type} {f : α → Text} {xs : List α} : OfAll P (xs.map f) ↔ ∀ x ∈ xs, Of P (f x) :=
  List.forall_mem_map

theorem ofAll_flatMap {α : Type} {f : α → List Text} {xs : List α} :
    OfAll P (xs.flatMap f) ↔ ∀ x ∈ xs, OfAll P (f x) := by
  constructor
  · intro h x hx t ht
    exact h t (List.mem_flatMap.2 ⟨x, hx, ht⟩)
  · intro h t ht
    obtain ⟨x, hx, ht⟩ := List.mem_flatMap.1 ht
    exact h x hx t ht

theorem of_flatten {ts : List Text} (h : OfAll P ts) : Of P ts.flatten := by
  intro c hc
  obtain ⟨t, ht, hc⟩ := List.mem_flatten.1 hc
  exact h t ht c hc

theorem of_linesText {ts : List Text} (hbreak : P 10) (h : OfAll P ts) : Of P (linesText ts) := by
  intro c hc
  obtain ⟨t, ht, hc⟩ := List.mem_flatMap.1 hc
  rcases List.mem_append.1 hc with hc | hc
  · exact h t ht c hc
  · rw [List.mem_singleton.1 hc]
    exact hbreak

theorem of_visible {t : Text} (h : Of P t) : Of P (visible t) := h.subset fun _ hc => (List.mem_filter.1 hc).1

/-! ## Clusters -/

/-- All code points of clusters have a property. -/
def OfClusters (P : CodePoint → Prop) (cs : List Cluster) : Prop := ∀ k ∈ cs, Of P k.text

theorem ofClusters_growLast {extra : Text} {columns : Nat} {cs : List Cluster} (hextra : Of P extra)
    (h : OfClusters P cs) : OfClusters P (growLast extra columns cs) := by
  cases cs with
  | nil =>
      intro k hk
      rw [List.mem_singleton.1 hk]
      exact hextra
  | cons last before =>
      intro k hk
      rcases List.mem_cons.1 hk with rfl | hk
      · exact of_append.2 ⟨h last List.mem_cons_self, hextra⟩
      · exact h k (List.mem_cons_of_mem _ hk)

theorem ofClusters_clustersFrom {before : List Cluster} {last : Option CodePoint} {t : Text}
    (hbefore : OfClusters P before) (ht : Of P t) : OfClusters P (clustersFrom before last t) := by
  have hone : ∀ {c : CodePoint} {t : Text}, Of P (c :: t) → Of P [c] ∧ Of P t := by
    intro c t h
    exact ⟨of_cons.2 ⟨(of_cons.1 h).1, of_nil⟩, (of_cons.1 h).2⟩
  fun_induction clustersFrom before last t with
  | case1 before last => exact fun k hk => hbefore k (List.mem_reverse.1 hk)
  | case2 before last c hjoin =>
      exact fun k hk => ofClusters_growLast (hone ht).1 hbefore k (List.mem_reverse.1 hk)
  | case3 before last c hjoin d t ih =>
      obtain ⟨hc, hrest⟩ := of_cons.1 ht
      obtain ⟨hd, hrest⟩ := of_cons.1 hrest
      exact ih (ofClusters_growLast (of_cons.2 ⟨hc, of_cons.2 ⟨hd, of_nil⟩⟩) hbefore) hrest
  | case4 before c t hjoin hwiden s hs ih => exact ih (ofClusters_growLast (hone ht).1 hbefore) (hone ht).2
  | case5 before c t hjoin hwiden s hs ih => exact ih (ofClusters_growLast (hone ht).1 hbefore) (hone ht).2
  | case6 before c t hjoin hwiden ih => exact ih (ofClusters_growLast (hone ht).1 hbefore) (hone ht).2
  | case7 before last c t hjoin hwiden w hw ih => exact ih (ofClusters_growLast (hone ht).1 hbefore) (hone ht).2
  | case8 before last c t hjoin hwiden w hw ih =>
      refine ih ?_ (hone ht).2
      intro k hk
      rcases List.mem_cons.1 hk with rfl | hk
      · exact (hone ht).1
      · exact hbefore k hk

theorem ofClusters_clusters {t : Text} (h : Of P t) : OfClusters P (clusters t) :=
  ofClusters_clustersFrom (fun k hk => by cases hk) h

theorem of_clustersText {cs : List Cluster} (h : OfClusters P cs) : Of P (clustersText cs) := by
  intro c hc
  obtain ⟨k, hk, hc⟩ := List.mem_flatMap.1 hc
  exact h k hk c hc

theorem ofAll_chopFrom {columns used : Nat} {line cs : List Cluster} (hline : OfClusters P line)
    (h : OfClusters P cs) : OfAll P (chopFrom columns line used cs) := by
  have hreverse : ∀ {line : List Cluster}, OfClusters P line → Of P (clustersText line.reverse) := by
    intro line h
    exact of_clustersText fun k hk => h k (List.mem_reverse.1 hk)
  induction cs generalizing line used with
  | nil =>
      unfold chopFrom
      split
      · exact ofAll_nil
      · exact ofAll_cons.2 ⟨hreverse hline, ofAll_nil⟩
  | cons c cs ih =>
      have hcs : OfClusters P cs := fun k hk => h k (List.mem_cons_of_mem _ hk)
      have hc : Of P c.text := h c List.mem_cons_self
      unfold chopFrom
      split
      · exact ofAll_cons.2 ⟨hreverse hline, ih (fun k hk => List.mem_singleton.1 hk ▸ hc) hcs⟩
      · refine ih ?_ hcs
        intro k hk
        rcases List.mem_cons.1 hk with rfl | hk
        · exact hc
        · exact hline k hk

theorem ofAll_chop {t : Text} (h : Of P t) (columns : Nat) : OfAll P (chop columns t) :=
  ofAll_chopFrom (fun k hk => by cases hk) (ofClusters_clusters h)

variable (hblank : P 32)
include hblank

theorem of_cropClusters {columns : Nat} {cs : List Cluster} (h : OfClusters P cs) :
    Of P (cropClusters columns cs) := by
  induction cs generalizing columns with
  | nil => exact of_nil
  | cons c cs ih =>
      unfold cropClusters
      split
      · exact of_nil
      · split
        · exact of_cons.2 ⟨hblank, of_nil⟩
        · exact of_append.2 ⟨h c List.mem_cons_self, ih fun k hk => h k (List.mem_cons_of_mem _ hk)⟩

/-- A text cut or filled to a width. -/
theorem of_fit {t : Text} (h : Of P t) (columns : Nat) : Of P (fit columns t) := by
  unfold fit
  dsimp only
  split
  · exact of_append.2 ⟨h, of_replicate hblank _⟩
  · exact of_cropClusters hblank (ofClusters_clusters h)

/-! ## Words and lines -/

theorem of_expandFrom {column : Nat} {part t : Text} (hpart : Of P part) (h : Of P t) :
    Of P (expandFrom column part t) := by
  induction t generalizing column part with
  | nil => exact of_reverse.2 hpart
  | cons c t ih =>
      obtain ⟨hc, ht⟩ := of_cons.1 h
      unfold expandFrom
      split
      · exact of_append.2 ⟨of_append.2 ⟨of_reverse.2 hpart, of_replicate hblank _⟩, ih of_nil ht⟩
      · exact ih (of_cons.2 ⟨hc, hpart⟩) ht

theorem of_expandTabs {t : Text} (h : Of P t) : Of P (expandTabs t) := by
  unfold expandTabs
  split
  · exact of_expandFrom hblank of_nil h
  · exact h

omit hblank in
theorem ofAll_spacedPiecesWithin {fuel : Nat} {t : Text} (h : Of P t) : OfAll P (spacedPiecesWithin fuel t) := by
  induction fuel generalizing t with
  | zero => exact ofAll_nil
  | succ fuel ih =>
      unfold spacedPiecesWithin
      dsimp only
      split
      · exact ofAll_nil
      · refine ofAll_cons.2 ⟨of_append.2 ⟨of_append.2 ⟨h.takeWhile _, (h.drop _).takeWhile _⟩, ?_⟩, ih ?_⟩
        · exact ((h.drop _).drop _).takeWhile _
        · exact ((h.drop _).drop _).drop _

omit hblank in
theorem ofAll_spread {line : Text} {pieces : List Text} (hline : Of P line) (h : OfAll P pieces) :
    OfAll P (spread line pieces).1 ∧ Of P (spread line pieces).2 := by
  fun_induction spread line pieces with
  | case1 line => exact ⟨ofAll_nil, hline⟩
  | case2 line last => exact ⟨ofAll_cons.2 ⟨hline, ofAll_nil⟩, (ofAll_cons.1 h).1⟩
  | case3 line piece pieces hmore lines last hspread ih =>
      obtain ⟨hpiece, hrest⟩ := ofAll_cons.1 h
      obtain ⟨hlines, hlast⟩ := ih hpiece hrest
      rw [hspread] at hlines hlast
      exact ⟨ofAll_cons.2 ⟨hline, hlines⟩, hlast⟩

omit hblank in
theorem ofAll_breakWords {columns used : Nat} {overflow : Overflow} {line : Option Text} {words : List Text}
    (hline : ∀ l ∈ line, Of P l) (h : OfAll P words) : OfAll P (breakWords columns overflow line used words) := by
  have hget : ∀ {line : Option Text}, (∀ l ∈ line, Of P l) → Of P (line.getD []) := by
    intro line h
    cases line with
    | none => exact of_nil
    | some l => exact h l rfl
  have hsome : ∀ {l : Text}, Of P l → ∀ k ∈ some l, Of P k := by
    intro l h k hk
    cases hk
    exact h
  -- A word stays on the line, begins a line, or is spread over several; only then a line is complete.
  fun_induction breakWords columns overflow line used words with
  | case1 line used => exact ofAll_cons.2 ⟨hget hline, ofAll_nil⟩
  | case2 line used w ws size hfits ih =>
      obtain ⟨hw, hws⟩ := ofAll_cons.1 h
      exact ih (hsome (of_append.2 ⟨hget hline, hw⟩)) hws
  | case3 used w ws size hfits hfold hchop ih =>
      obtain ⟨hw, hws⟩ := ofAll_cons.1 h
      exact ih (hsome hw) hws
  | case4 used w ws size hfits hfold piece pieces hchop lines last hspread ih =>
      obtain ⟨hw, hws⟩ := ofAll_cons.1 h
      obtain ⟨hpiece, hpieces⟩ := ofAll_cons.1 (hchop ▸ ofAll_chop hw columns)
      obtain ⟨hlines, hlast⟩ := ofAll_spread hpiece hpieces
      rw [hspread] at hlines hlast
      exact ofAll_append.2 ⟨hlines, ih (hsome hlast) hws⟩
  | case5 used w ws size hfits hfold line lines last hspread ih =>
      obtain ⟨hw, hws⟩ := ofAll_cons.1 h
      obtain ⟨hlines, hlast⟩ := ofAll_spread (hline line rfl) (ofAll_chop hw columns)
      rw [hspread] at hlines hlast
      exact ofAll_append.2 ⟨hlines, ih (hsome hlast) hws⟩
  | case6 used w ws size hfits hfold ih =>
      obtain ⟨hw, hws⟩ := ofAll_cons.1 h
      exact ih (hsome hw) hws
  | case7 used w ws size hfits hfold line ih =>
      obtain ⟨hw, hws⟩ := ofAll_cons.1 h
      exact ofAll_cons.2 ⟨hline line rfl, ih (hsome hw) hws⟩

variable (hellipsis : P 0x2026)
include hellipsis

theorem of_truncate {t : Text} (h : Of P t) (columns : Nat) (overflow : Overflow) :
    Of P (truncate columns overflow t) := by
  unfold truncate
  split
  · exact h
  · split
    · exact of_fit hblank h columns
    · exact of_append.2 ⟨of_fit hblank h _, of_cons.2 ⟨hellipsis, of_nil⟩⟩

theorem ofAll_wrapLine {t : Text} (h : Of P t) (columns : Nat) (overflow : Overflow) :
    OfAll P (wrapLine columns overflow t) := by
  have hexpanded := of_expandTabs hblank h
  unfold wrapLine
  dsimp only
  rw [ofAll_map]
  intro l hl
  refine of_truncate hblank hellipsis (Of.take ?_ _) _ _
  split at hl
  · rw [List.mem_singleton.1 hl]
    exact hexpanded
  · refine ofAll_breakWords (fun l hl => by cases hl) ?_ l hl
    exact ofAll_spacedPiecesWithin hexpanded

/-- **The lines of a text** hold code points of the text, blanks and ellipses. -/
theorem ofAll_wrap {t : Text} (h : Of P t) (columns : Nat) (overflow : Overflow) :
    OfAll P (wrap columns overflow t) := by
  unfold wrap
  rw [ofAll_flatMap]
  intro line hline
  exact ofAll_wrapLine hblank hellipsis (h.subset fun c hc => Text.mem_of_mem_splitOn hline hc) columns overflow

/-! ## Rows -/

omit hellipsis in
theorem of_cellLine {line : Option Text} (h : ∀ l ∈ line, Of P l) (size : Nat) : Of P (cellLine size line) := by
  have hline : Of P (line.getD []) := by
    cases line with
    | none => exact of_nil
    | some l => exact h l rfl
  exact of_append.2 ⟨of_append.2 ⟨of_replicate hblank _, of_fit hblank hline _⟩, of_replicate hblank _⟩

/-- The lines of a row hold what its two texts hold, blanks and ellipses. -/
theorem ofAll_rowLines {row : Text × Text} (hkey : Of P row.1) (hvalue : Of P row.2) (sizes : Nat × Nat) :
    OfAll P (rowLines sizes row) := by
  have hcell : ∀ {t : Text}, Of P t → ∀ {columns : Nat} {i : Nat},
      ∀ l ∈ (wrap columns .ellipsis t)[i]?, Of P l :=
    fun h _ _ l hl => ofAll_wrap hblank hellipsis h _ _ l (List.mem_of_getElem? hl)
  unfold rowLines
  dsimp only
  rw [ofAll_map]
  intro i _
  exact of_append.2 ⟨of_append.2 ⟨of_cellLine hblank (hcell hkey) _, of_cellLine hblank (hcell hvalue) _⟩,
    of_replicate hblank _⟩

omit hellipsis in
theorem of_lineOf {pieces : List Text} (h : OfAll P pieces) : Of P (lineOf pieces) := by
  have hcrop : ∀ (limit : Nat) {pieces : List Text}, OfAll P pieces → OfAll P (cropPieces limit pieces) := by
    intro limit pieces h
    induction pieces generalizing limit with
    | nil => exact ofAll_nil
    | cons piece pieces ih =>
        obtain ⟨hpiece, hpieces⟩ := ofAll_cons.1 h
        unfold cropPieces
        split
        · exact ofAll_cons.2 ⟨hpiece, ih _ hpieces⟩
        · exact ofAll_cons.2 ⟨of_fit hblank hpiece limit, ofAll_nil⟩
  unfold lineOf
  dsimp only
  split
  · exact of_flatten (hcrop columns h)
  · exact of_flatten h

omit hellipsis in
/-- The upper border of a box holds what its title holds, blanks and the signs of borders. -/
theorem of_titleLine {title : Text} (hborder : Of P [0x256D, 0x2500, 0x256E]) (h : Of P title) :
    Of P (titleLine title) := by
  have hsign : ∀ {c : CodePoint}, c ∈ ([0x256D, 0x2500, 0x256E] : Text) → P c := fun hc => hborder _ hc
  have hlines : ∀ n, Of P (border n) := fun n => of_replicate (hsign (by decide)) n
  have hmap : Of P (title.map fun c => if c = 10 then 32 else c) := by
    intro c hc
    obtain ⟨d, hd, rfl⟩ := List.mem_map.1 hc
    split
    · exact hblank
    · exact h d hd
  have htitle : Of P (32 :: expandTabs (title.map fun c => if c = 10 then 32 else c) ++ [32]) :=
    of_append.2 ⟨of_cons.2 ⟨hblank, of_expandTabs hblank hmap⟩, of_cons.2 ⟨hblank, of_nil⟩⟩
  unfold titleLine
  dsimp only
  generalize expandTabs (title.map fun c => if c = 10 then 32 else c) = title at htitle ⊢
  have hcut : Of P (if innerWidth < width (32 :: title ++ [32]) then fit innerWidth (32 :: title ++ [32])
      else 32 :: title ++ [32]) := by
    split
    · exact of_fit hblank htitle innerWidth
    · exact htitle
  generalize (if innerWidth < width (32 :: title ++ [32]) then fit innerWidth (32 :: title ++ [32])
    else 32 :: title ++ [32]) = t at hcut ⊢
  refine of_lineOf hblank ?_
  simp only [ofAll_cons, of_cons]
  exact ⟨⟨hsign (by decide), hsign (by decide), of_nil⟩, hlines _, hcut.take _, (hcut.drop _).take _,
    (hcut.drop _).drop _, hlines _, ⟨hsign (by decide), hsign (by decide), of_nil⟩, ofAll_nil⟩

end Lines

/-! ## Texts that have bytes -/

/-- All code points of a text have forms in bytes. -/
def Encodable (t : Text) : Prop := Of (fun c => (Utf8.encodePoint? c).isSome = true) t

instance (t : Text) : Decidable (Encodable t) :=
  inferInstanceAs (Decidable (∀ c ∈ t, (Utf8.encodePoint? c).isSome = true))

theorem encodable_ofString (s : String) : Encodable (Text.ofString s) := fun _ hc => Utf8.encodePoint?_of_mem_ofString hc

theorem encodable_ofNat (n : Nat) : Encodable (Text.ofNat n) := by
  rw [Text.ofNat, ← String.toList_ofList (l := Nat.toDigits 10 n)]
  exact encodable_ofString _

theorem encodable_append {s t : Text} : Encodable (s ++ t) ↔ Encodable s ∧ Encodable t := of_append

/-- **What is printed goes out** if it and all that stayed behind have bytes. -/
theorem Screen.print_encodable {s : Screen} {t : Text} (h : Encodable (s.behind ++ t)) :
    s.print t = (⟨s.out ++ (s.behind ++ t), []⟩, .ok ()) := by
  obtain ⟨bytes, hbytes⟩ := Utf8.exists_encode h
  unfold Screen.print
  simp only [hbytes]

/-- Only what has bytes goes out; else it stays behind. -/
theorem Screen.print_error {s : Screen} {t : Text} (h : ¬ Encodable (s.behind ++ t)) :
    ∃ f, s.print t = (⟨s.out, s.behind ++ t⟩, .error f) := by
  unfold Screen.print
  dsimp only
  cases hcode : Utf8.encode (s.behind ++ t) with
  | error f => exact ⟨f, rfl⟩
  | ok bytes => exact absurd (fun c hc => Utf8.encodePoint?_of_encode hcode hc) h

/-- The lines of a log record can go out if its message can. -/
theorem encodable_recordText {r : Record} (h : Encodable r.message) (first : Bool) :
    Encodable (recordText first r) := by
  have hblank : (Utf8.encodePoint? 32).isSome = true := by decide
  have hbreak : (Utf8.encodePoint? 10).isSome = true := by decide
  have hlines : OfAll _ (wrap messageWidth .fold (visible r.message)) :=
    ofAll_wrap hblank (by decide) (of_visible h) messageWidth .fold
  have htime : Encodable (if first then clockText else List.replicate clockText.length 32) := by
    split
    · exact encodable_ofString _
    · exact of_replicate hblank _
  have hlevel : Encodable (32 :: Text.padRight levelWidth 32 r.level.name ++ [32]) := by
    cases r.level <;> decide +kernel
  have hfront := of_append.2 ⟨htime, hlevel⟩
  unfold recordText
  dsimp only
  rw [List.append_assoc]
  generalize (if first then clockText else List.replicate clockText.length 32)
    ++ (32 :: Text.padRight levelWidth 32 r.level.name ++ [32]) = front at hfront ⊢
  split
  · exact of_nil
  · next line lines hwrap =>
      rw [hwrap] at hlines
      obtain ⟨hline, hlines⟩ := ofAll_cons.1 hlines
      refine of_linesText hbreak (ofAll_cons.2 ⟨of_append.2 ⟨hfront, of_fit hblank hline _⟩, ?_⟩)
      rw [ofAll_map]
      intro l hl
      exact of_append.2 ⟨of_replicate hblank _, of_fit hblank (hlines l hl) _⟩

end StepForge.Console
