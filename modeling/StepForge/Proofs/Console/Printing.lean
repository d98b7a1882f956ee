import Mathlib.Data.List.Chain
import Mathlib.Data.List.Induction
import StepForge.Console.Progress
import StepForge.Proofs.Console.Lines
import StepForge.Proofs.Console.Markup

/-!
# `StepForge.Proofs.Console.Printing` — reports that come out, and reports that do not

A report puts titles, names and messages between tags of its own. Whatever text is put there, the report comes
out if no bracket in the text is followed by what begins a tag (`Untagged`) and the text has bytes. One closing
tag is enough to refuse the report if no tag of its style is open (`shownFrom_refused`).

## Contents
- `Untagged`, `shownFrom_untagged` — texts without tags.
- `Goes`, `Goes.behind`, `Goes.styled` — texts that can be shown, put together from behind.
- `goes_started`, `goes_completed`, `goes_failed`, `goes_written`, `summary_eq_ok` — reports that come out.
- `ClosesFirst`, `shownFrom_refused`, `printed_tagged_refused` — reports that are refused.
-/

namespace StepForge.Console

/-! ## Texts without tags -/

/-- No bracket is followed by what begins a tag. -/
def Untagged (t : Text) : Prop := t.IsChain fun a b => a = '['.toNat → startsTag b = false

instance (t : Text) : Decidable (Untagged t) :=
  inferInstanceAs (Decidable (t.IsChain fun a b => a = '['.toNat → startsTag b = false))

/-- A text ends in no backslash, which would take the meaning of a tag behind it. -/
def Closed (t : Text) : Prop := t.getLast? ≠ some '\\'.toNat

instance (t : Text) : Decidable (Closed t) := inferInstanceAs (Decidable (t.getLast? ≠ some '\\'.toNat))

theorem Untagged.part {s t : Text} (h : Untagged t) (hpart : s <:+: t) : Untagged s := List.IsChain.infix h hpart

/-- Texts put together are without tags if the first one does not end in a bracket or the second one does not
begin as a tag does. -/
theorem Untagged.append {s t : Text} (hs : Untagged s) (ht : Untagged t)
    (h : s.getLast? ≠ some '['.toNat ∨ ∀ c ∈ t.head?, startsTag c = false) : Untagged (s ++ t) := by
  refine List.isChain_append.2 ⟨hs, ht, ?_⟩
  intro a ha b hb hbracket
  rcases h with hlast | hhead
  · rw [hbracket] at ha
    exact absurd ha hlast
  · exact hhead b hb

theorem untagged_of_no_bracket {t : Text} (h : ∀ c ∈ t, c ≠ '['.toNat) : Untagged t := by
  induction t with
  | nil => exact List.isChain_nil
  | cons c t ih =>
      refine Untagged.append (s := [c]) (List.isChain_singleton c) (ih fun d hd => h d (List.mem_cons_of_mem c hd))
        (Or.inl ?_)
      rintro ⟨⟩
      exact h _ List.mem_cons_self rfl

/-- What may stand behind a text so that no tag begins in the text: nothing, or what does not go on with a tag. -/
def Meets (t rest : Text) : Prop := rest = [] ∨ Closed t ∧ ∀ c ∈ rest.head?, startsTag c = false

/-- No tag stands at the start of a text without tags. -/
theorem tagAt?_eq_none {t rest : Text} (hne : t ≠ []) (h : Untagged t) (hmeets : Meets t rest) :
    tagAt? (t ++ rest) = none := by
  rw [Option.eq_none_iff_forall_not_mem]
  rintro ⟨slashes, body⟩ hfound
  obtain ⟨behind, heq, hbody⟩ := tagAt?_eq_some_iff.1 hfound
  obtain ⟨first, hfirst, hstart⟩ := hbody.starts
  obtain ⟨inside, rfl⟩ := List.head?_eq_some_iff.1 hfirst
  -- A text of backslashes alone is not followed by a bracket.
  have hslashes : ∀ {n : Nat}, t = List.replicate n '\\'.toNat → rest ≠ [] → False := by
    rintro n rfl hrest
    rcases hmeets with hnil | ⟨hlast, _⟩
    · exact hrest hnil
    · refine hlast ?_
      rw [List.getLast?_replicate, if_neg]
      rintro rfl
      exact hne rfl
  rcases List.append_eq_append_iff.1 heq with ⟨more, hall, hrest⟩ | ⟨more, ht, hrest⟩
  · refine hslashes (List.append_eq_replicate_iff.1 hall.symm).2.1 ?_
    rw [hrest]
    simp
  · match more, ht, hrest with
    | [], ht, hrest =>
        refine hslashes (ht.trans (List.append_nil _)) ?_
        rintro rfl
        cases hrest
    | [c], ht, hrest =>
        rcases hmeets with rfl | ⟨_, hhead⟩
        · cases hrest
        · cases hrest
          rw [hhead first rfl] at hstart
          cases hstart
    | c :: d :: more, ht, hrest =>
        have hc : '['.toNat = c := (List.cons.inj hrest).1
        have hd : first = d := (List.cons.inj (List.cons.inj hrest).2).1
        subst hc hd
        have hpart : ['['.toNat, first] <:+: t := ⟨List.replicate slashes '\\'.toNat, more, by rw [ht]; simp⟩
        have hnot := (List.isChain_cons_cons.1 (h.part hpart)).1 rfl
        rw [hnot] at hstart
        cases hstart

theorem Meets.tail {c : CodePoint} {t rest : Text} (h : Meets (c :: t) rest) : Meets t rest := by
  rcases h with hrest | ⟨hlast, hhead⟩
  · exact Or.inl hrest
  · refine Or.inr ⟨?_, hhead⟩
    cases t with
    | nil => exact fun h => by cases h
    | cons d t => exact hlast

/-- **Text without tags** is shown but for the backslashes in front of its brackets. -/
theorem shownFrom_untagged {t rest : Text} (h : Untagged t) (hmeets : Meets t rest) (position : Nat) (tags : Tags) :
    ∃ front, (∀ c ∈ front, c ∈ t) ∧ shownFrom 0 position tags (t ++ rest) =
      (shownFrom 0 (position + t.length) tags rest).map (·.behind front) := by
  -- A backslash takes the bracket behind it along, so the induction goes on behind one or two code points.
  induction t using List.twoStepInduction generalizing position with
  | nil => exact ⟨[], by simp, (map_behind_nil _).symm⟩
  | singleton c =>
      have hnone := tagAt?_eq_none (by simp) h hmeets
      have hnot : ¬ ((decide (c = '\\'.toNat) && decide (rest.head? = some '['.toNat)) = true) := by
        rw [Bool.and_eq_true, decide_eq_true_eq, decide_eq_true_eq]
        rintro ⟨rfl, hbracket⟩
        rcases hmeets with rfl | ⟨hlast, _⟩
        · cases hbracket
        · exact hlast rfl
      refine ⟨[c], by simp, ?_⟩
      rw [List.singleton_append] at hnone ⊢
      rw [shownFrom, hnone]
      simp only [if_neg hnot]
      rfl
  | cons_cons c d t ihskip ih =>
      have hnone := tagAt?_eq_none (by simp) h hmeets
      have htail : Untagged (d :: t) := (List.isChain_cons_cons.1 h).2
      rw [List.cons_append] at hnone ⊢
      rw [shownFrom, hnone]
      dsimp only
      split
      · next hescape =>
          rw [Bool.and_eq_true, decide_eq_true_eq, decide_eq_true_eq] at hescape
          have hd : d = '['.toNat := by simpa using hescape.2
          obtain ⟨front, hfront, hshown⟩ :=
            ihskip (htail.part ⟨[d], [], by simp⟩) hmeets.tail.tail (position + 2)
          refine ⟨'['.toNat :: front, ?_, ?_⟩
          · intro e he
            rcases List.mem_cons.1 he with rfl | he
            · exact List.mem_cons_of_mem _ (hd ▸ List.mem_cons_self)
            · exact List.mem_cons_of_mem _ (List.mem_cons_of_mem _ (hfront e he))
          · show (shownFrom 0 (position + 2) tags (t ++ rest)).map _ = _
            rw [hshown, map_behind_behind]
            simp only [List.length_cons, List.singleton_append]
            congr 2
            omega
      · obtain ⟨front, hfront, hshown⟩ := ih d htail hmeets.tail (position + 1)
        refine ⟨c :: front, ?_, ?_⟩
        · intro e he
          rcases List.mem_cons.1 he with rfl | he
          · exact List.mem_cons_self
          · exact List.mem_cons_of_mem _ (hfront e he)
        · rw [hshown, map_behind_behind]
          simp only [List.length_cons, List.singleton_append]
          congr 2
          omega

/-- A text is cut in front of the backslashes at its end. -/
theorem exists_backslashes (t : Text) : ∃ u n, t = u ++ List.replicate n '\\'.toNat ∧ Closed u := by
  induction t using List.reverseRecOn with
  | nil => exact ⟨[], 0, rfl, fun h => by cases h⟩
  | append_singleton t c ih =>
      by_cases hc : c = '\\'.toNat
      · obtain ⟨u, n, rfl, hu⟩ := ih
        exact ⟨u, n + 1, by rw [hc, List.replicate_succ', List.append_assoc], hu⟩
      · refine ⟨t ++ [c], 0, by simp, ?_⟩
        unfold Closed
        rw [List.getLast?_append]
        simpa using hc

/-- A text without tags that has bytes. -/
structure Plain (t : Text) : Prop where
  untagged : Untagged t
  encodable : Encodable t

instance (t : Text) : Decidable (Plain t) :=
  decidable_of_iff (Untagged t ∧ Encodable t) ⟨fun ⟨h, h'⟩ => ⟨h, h'⟩, fun ⟨h, h'⟩ => ⟨h, h'⟩⟩

theorem Plain.part {s t : Text} (h : Plain t) (hpart : s <:+: t) : Plain s :=
  ⟨h.untagged.part hpart, h.encodable.subset hpart.subset⟩

/-! ## Texts that can be shown -/

/-- A text is shown whatever tags are open, and what is shown of it has bytes. -/
def Goes (t : Text) : Prop :=
  ∀ position opened, ∃ text, shownFrom 0 position ⟨opened, none⟩ t = .ok ⟨text, none⟩ ∧ Encodable text

theorem goes_nil : Goes [] := fun _ _ => ⟨[], rfl, of_nil⟩

/-- **Text without tags** in front of a text that can be shown. -/
theorem Goes.behind {t rest : Text} (hrest : Goes rest) (h : Plain t) (hmeets : Meets t rest) : Goes (t ++ rest) := by
  intro position opened
  obtain ⟨front, hfront, hshown⟩ := shownFrom_untagged h.untagged hmeets position ⟨opened, none⟩
  obtain ⟨text, htext, hencodable⟩ := hrest (position + t.length) opened
  rw [hshown, htext]
  exact ⟨front ++ text, rfl, of_append.2 ⟨h.encodable.subset hfront, hencodable⟩⟩

theorem Plain.goes {t : Text} (h : Plain t) : Goes t := by
  have hgoes := goes_nil.behind h (Or.inl rfl)
  rwa [List.append_nil] at hgoes

/-- A text between the tags of a style. -/
def styled (name t : Text) : Text :=
  '['.toNat :: (name ++ ']'.toNat :: (t ++ '['.toNat :: '/'.toNat :: (name ++ [']'.toNat])))

/-- **A styled text without tags** in front of a text that can be shown. Backslashes at its end can take the
meaning of the closing tag; the style is open from there on, which no text behind it minds. -/
theorem Goes.styled {name t rest : Text} (hrest : Goes rest) (hname : IsStyleName name) (h : Plain t) :
    Goes (styled name t ++ rest) := by
  intro position opened
  obtain ⟨u, n, rfl, hu⟩ := exists_backslashes t
  have hslashes : ∀ k ≤ n, Encodable (List.replicate k '\\'.toNat) := fun k _ => of_replicate (by decide) k
  have htag : Encodable ('['.toNat :: ('/'.toNat :: name) ++ [']'.toNat]) := by
    intro (c : Nat) hc
    have hcases : c = 91 ∨ c = 47 ∨ c ∈ name ∨ c = 93 := by simpa using hc
    have hsmall : c < 128 := by
      rcases hcases with rfl | rfl | hc | rfl
      · omega
      · omega
      · rcases hname.letters c hc with hc | hc
        · omega
        · omega
      · omega
    unfold Utf8.encodePoint?
    rw [if_pos hsmall]
    rfl
  have heq : Console.styled name (u ++ List.replicate n '\\'.toNat) ++ rest =
      '['.toNat :: (name ++ ']'.toNat :: (u ++ (List.replicate n '\\'.toNat ++
        '['.toNat :: (('/'.toNat :: name) ++ ']'.toNat :: rest)))) := by
    simp [Console.styled]
  have hmeets : Meets u (List.replicate n '\\'.toNat ++ '['.toNat :: (('/'.toNat :: name) ++ ']'.toNat :: rest)) := by
    refine Or.inr ⟨hu, ?_⟩
    cases n with
    | zero =>
        rintro c ⟨⟩
        decide
    | succ n =>
        rintro c ⟨⟩
        decide
  obtain ⟨front, hfront, hshown⟩ := shownFrom_untagged (h.untagged.part ⟨[], _, rfl⟩) hmeets
    (position + (name.length + 2)) ⟨⟨name, []⟩ :: opened, none⟩
  have hfrontForm : Encodable front := (of_append.1 h.encodable).1.subset hfront
  rw [heq, shownFrom_open hname, hshown, shownFrom_tag hname.isTagBody_slash]
  split
  · obtain ⟨text, htext, hencodable⟩ := hrest _ (⟨name, []⟩ :: opened)
    rw [htext]
    refine ⟨_, rfl, of_append.2 ⟨hfrontForm, of_append.2 ⟨?_, hencodable⟩⟩⟩
    rw [List.append_assoc]
    exact of_append.2 ⟨hslashes _ (Nat.div_le_self n 2), htag⟩
  · obtain ⟨text, htext, hencodable⟩ := hrest _ opened
    rw [applyTag_close hname]
    show ∃ text, ((Except.map _ (shownFrom 0 _ ⟨opened, none⟩ rest)).map _) = _ ∧ _
    rw [htext]
    exact ⟨_, rfl, of_append.2 ⟨hfrontForm, of_append.2 ⟨hslashes _ (Nat.div_le_self n 2), hencodable⟩⟩⟩

/-- A tag may follow a text that ends in no backslash. -/
theorem meets_styled {s name t rest : Text} (h : Closed s) : Meets s (styled name t ++ rest) := by
  refine Or.inr ⟨h, ?_⟩
  rintro c ⟨⟩
  decide

theorem closed_append {s t : Text} (hne : t ≠ []) (h : Closed t) : Closed (s ++ t) := by
  unfold Closed
  rw [List.getLast?_append, List.getLast?_eq_some_getLast hne, Option.some_or, ← List.getLast?_eq_some_getLast hne]
  exact h

theorem Goes.unfolded {t : Text} (h : Goes t) : ∃ text, unfolded t = .ok ⟨text, none⟩ ∧ Encodable text := by
  obtain ⟨text, htext, hencodable⟩ := h 0 []
  refine ⟨visible text, ?_, of_visible hencodable⟩
  show (shownFrom 0 0 ⟨[], none⟩ t).map _ = _
  rw [htext]
  rfl

/-- **What can be shown is printed**, and can go out. -/
theorem Goes.printed {t : Text} (h : Goes t) : ∃ text, printed t = .ok text ∧ Encodable text := by
  obtain ⟨text, htext, hencodable⟩ := h.unfolded
  refine ⟨linesText (wrap columns .fold text), ?_, of_linesText (by decide)
    (ofAll_wrap (by decide) (by decide) hencodable columns .fold)⟩
  unfold Console.printed shown
  rw [htext]
  rfl

/-! ## Reports that come out -/

theorem Plain.append {s t : Text} (hs : Plain s) (ht : Plain t)
    (h : s.getLast? ≠ some '['.toNat ∨ ∀ c ∈ t.head?, startsTag c = false) : Plain (s ++ t) :=
  ⟨hs.untagged.append ht.untagged h, encodable_append.2 ⟨hs.encodable, ht.encodable⟩⟩

/-- A report between the tags of one style. -/
theorem goes_tagged (name lead trail : Text) {front back t : Text} (hname : name ∈ reportStyles)
    (hfront : front = '['.toNat :: (name ++ ']'.toNat :: lead))
    (hback : back = trail ++ '['.toNat :: '/'.toNat :: (name ++ [']'.toNat])) (h : Plain (lead ++ t ++ trail)) :
    Goes (front ++ t ++ back) := by
  have heq : front ++ t ++ back = styled name (lead ++ t ++ trail) ++ [] := by simp [hfront, hback, styled]
  rw [heq]
  exact goes_nil.styled (isStyleName_of_mem hname) h

theorem goes_started {operation : Text} (h : Plain operation) : Goes (startedMarkup operation) :=
  goes_tagged "bold blue" [] "..." (by decide) (by decide) (by decide) (h.append (by decide) (Or.inr (by decide)))

theorem goes_completed {operation : Text} (h : Plain operation) : Goes (completedMarkup operation) :=
  goes_tagged "green" "✓ " " complete" (by decide) (by decide) (by decide)
    ((Plain.append (by decide) h (Or.inl (by decide))).append (by decide) (Or.inr (by decide)))

theorem goes_failed {operation fault : Text} (h : Plain operation) (hfault : Plain fault) :
    Goes (failedMarkup operation fault) := by
  have hinside : Plain (operation ++ ((" failed: " : Text) ++ fault)) :=
    h.append (Plain.append (by decide) hfault (Or.inl (by decide))) (Or.inr (by
      rintro c ⟨⟩
      decide))
  have hgoes := goes_tagged (t := operation ++ ((" failed: " : Text) ++ fault)) "red" "✗ " [] (by decide)
    (by decide : ("[red]✗ " : Text) = _) (by decide : ("[/red]" : Text) = _)
    ((Plain.append (by decide) hinside (Or.inl (by decide))).append (by decide) (Or.inr (by decide)))
  simpa only [failedMarkup, List.append_assoc] using hgoes

theorem goes_written {file : Text} (h : Plain file) : Goes (writtenMarkup file) := by
  have heq : writtenMarkup file = ("  Writing " : Text) ++ file ++ (" " : Text) ++ (styled "green" "✓" ++ []) := by
    have hend : (" [green]✓[/green]" : Text) = (" " : Text) ++ (styled "green" "✓" ++ []) := by decide
    rw [writtenMarkup, hend, List.append_assoc _ (" " : Text)]
  have hplain : Plain (("  Writing " : Text) ++ file ++ (" " : Text)) :=
    (Plain.append (by decide) h (Or.inl (by decide))).append (by decide) (Or.inr (by decide))
  rw [heq]
  exact (goes_nil.styled (isStyleName_of_mem (by decide)) (by decide)).behind hplain
    (meets_styled (closed_append (by decide) (by decide)))

/-! ## Boxes -/

theorem unfoldedAll_eq_ok {ts : List Text} (h : ∀ t ∈ ts, Goes t) :
    ∃ texts : List Text, unfoldedAll ts = .ok (texts.map (⟨·, none⟩)) ∧ ∀ t ∈ texts, Encodable t := by
  induction ts with
  | nil => exact ⟨[], rfl, by simp⟩
  | cons t ts ih =>
      obtain ⟨text, htext, hencodable⟩ := (h t List.mem_cons_self).unfolded
      obtain ⟨texts, htexts, hall⟩ := ih fun u hu => h u (List.mem_cons_of_mem t hu)
      refine ⟨text :: texts, ?_, List.forall_mem_cons.2 ⟨hencodable, hall⟩⟩
      rw [unfoldedAll, htext, htexts]
      rfl

/-- Rows in which no fault was found are what is shown of them. -/
theorem mapM_settle (rows : List (Text × Text)) :
    ((rows.map fun r => (Shown.mk r.1 none, Shown.mk r.2 none)).mapM fun (k, v) => do
      pure (← k.settle, ← v.settle)) = .ok rows := by
  induction rows with
  | nil => rfl
  | cons row rows ih =>
      rw [List.map_cons, List.mapM_cons, ih]
      rfl

/-- The box of a title and rows whose tags were read. -/
def boxOf (title : Text) (rows : List (Text × Text)) : Text :=
  let sizes := collapse innerWidth ((rows.map fun r => cellWidth r.1).foldl max 0)
    ((rows.map fun r => cellWidth r.2).foldl max 0)
  let bar : CodePoint := 0x2502
  linesText
    ([titleLine title]
      ++ (rows.flatMap (rowLines sizes)).map (fun l => [bar, 32] ++ l ++ [32, bar])
      ++ [0x2570 :: border (columns - 2) ++ [0x256F]])

theorem encodable_boxOf {title : Text} {rows : List (Text × Text)} (htitle : Encodable title)
    (hrows : ∀ r ∈ rows, Encodable r.1 ∧ Encodable r.2) : Encodable (boxOf title rows) := by
  have hblank : (Utf8.encodePoint? 32).isSome = true := by decide
  have hbar : ∀ {l : Text}, Encodable l → Encodable ([0x2502, 32] ++ l ++ [32, 0x2502]) := fun h =>
    of_append.2 ⟨of_append.2 ⟨(by decide : Encodable [0x2502, 32]), h⟩, (by decide : Encodable [32, 0x2502])⟩
  refine of_linesText (by decide) (ofAll_append.2 ⟨ofAll_append.2 ⟨?_, ?_⟩, ?_⟩)
  · exact ofAll_cons.2 ⟨of_titleLine hblank (by decide : Encodable [0x256D, 0x2500, 0x256E]) htitle, ofAll_nil⟩
  · rw [ofAll_map]
    intro l hl
    obtain ⟨row, hrow, hl⟩ := List.mem_flatMap.1 hl
    exact hbar (ofAll_rowLines hblank (by decide) (hrows row hrow).1 (hrows row hrow).2 _ l hl)
  · exact ofAll_cons.2 ⟨(by decide +kernel : Encodable (0x2570 :: border (columns - 2) ++ [0x256F])), ofAll_nil⟩

/-- **A box comes out** if its title and its rows are plain. -/
theorem summary_eq_ok {title : Text} {items : List (Text × Text)} (htitle : Plain title)
    (hitems : ∀ e ∈ items, Plain e.1 ∧ Plain e.2) : ∃ text, summary title items = .ok text ∧ Encodable text := by
  have hbold : Goes (("[bold]" : Text) ++ title ++ "[/bold]") :=
    goes_tagged "bold" [] [] (by decide) (by decide) (by decide) (htitle.append (by decide) (Or.inr (by decide)))
  obtain ⟨head, hhead, hheadForm⟩ := hbold.unfolded
  obtain ⟨keys, hkeys, hkeysForm⟩ := unfoldedAll_eq_ok (by
    rw [List.forall_mem_map]
    exact fun e he => (hitems e he).1.goes : ∀ t ∈ items.map (·.1), Goes t)
  obtain ⟨values, hvalues, hvaluesForm⟩ := unfoldedAll_eq_ok (by
    rw [List.forall_mem_map]
    exact fun e he => (hitems e he).2.goes : ∀ t ∈ items.map (·.2), Goes t)
  have hzip : (keys.map (Shown.mk · none)).zip (values.map (Shown.mk · none)) =
      (keys.zip values).map fun r => (Shown.mk r.1 none, Shown.mk r.2 none) := List.zip_map ..
  refine ⟨boxOf head (keys.zip values), ?_, ?_⟩
  · unfold summary
    rw [hhead, hkeys, hvalues]
    show (((keys.map (Shown.mk · none)).zip (values.map (Shown.mk · none))).mapM fun (k, v) => do
      pure (← k.settle, ← v.settle)) >>= (fun rows => .ok (boxOf head rows)) = _
    rw [hzip, mapM_settle]
    rfl
  · refine encodable_boxOf hheadForm fun r hr => ?_
    obtain ⟨hkey, hvalue⟩ := List.of_mem_zip (a := r.1) (b := r.2) hr
    exact ⟨hkeysForm _ hkey, hvaluesForm _ hvalue⟩

/-! ## Closing tags that close nothing -/

/-- The first tag of a text is the closing tag of a content. -/
def ClosesFirst (x t : Text) : Prop :=
  (∀ c ∈ x, c ≠ '['.toNat ∧ c ≠ ']'.toNat) ∧
    ∃ u v, t = u ++ '['.toNat :: '/'.toNat :: (x ++ ']'.toNat :: v) ∧ Untagged u ∧ Closed u

/-- The style that a closing tag of a content names. -/
structure NamesStyle (x style : Text) : Prop where
  named : (Text.trim Text.isBlank (x.takeWhile (· ≠ '='.toNat))).isEmpty = false
  canonical : canonical (Text.trim Text.isBlank (x.takeWhile (· ≠ '='.toNat))) = .ok style

/-- The closing tag of a content. -/
def closingTag (x : Text) : Text := ("[" : Text) ++ '/'.toNat :: x ++ "]"

theorem ClosesFirst.behind {x s t : Text} (h : ClosesFirst x t) (hs : Untagged s) (hend : s.getLast? ≠ some '['.toNat)
    (hclosed : Closed s) : ClosesFirst x (s ++ t) := by
  obtain ⟨hx, u, v, rfl, hu, hlast⟩ := h
  refine ⟨hx, s ++ u, v, by simp, hs.append hu (Or.inl hend), ?_⟩
  cases hempty : u with
  | nil => simpa using hclosed
  | cons c u => exact closed_append (by simp) (hempty ▸ hlast)

theorem closeTag_eq_none {name : Text} {tags : List OpenTag} (h : ∀ t ∈ tags, t.name ≠ name) :
    closeTag name tags = none := by
  induction tags with
  | nil => rfl
  | cons t tags ih =>
      rw [closeTag, if_neg (h t List.mem_cons_self), ih fun u hu => h u (List.mem_cons_of_mem t hu)]
      rfl

theorem takeWhile_slash (x : Text) :
    ('/'.toNat :: x).takeWhile (· ≠ '='.toNat) = 0x2F :: x.takeWhile (· ≠ '='.toNat) :=
  List.takeWhile_cons_of_pos (by decide)

/-- A closing tag is refused if no tag of its style is open. -/
theorem applyTag_unmatched {x style : Text} (h : NamesStyle x style) {tags : Tags}
    (hnone : ∀ t ∈ tags.opened, t.name ≠ style) (position : Nat) :
    applyTag position ('/'.toNat :: x) tags = .error (.unmatched (closingTag x) position) := by
  unfold applyTag
  rw [takeWhile_slash]
  simp only [h.named, h.canonical, Except.mapError, bind, Except.bind, closeTag_eq_none hnone]
  rfl

/-- Every closing tag is refused where no tag is open. -/
theorem applyTag_nothingOpen (x : Text) (position : Nat) (late : Option Text.NumeralFault) :
    ∃ f, applyTag position ('/'.toNat :: x) ⟨[], late⟩ = .error f := by
  unfold applyTag
  rw [takeWhile_slash]
  cases hempty : (Text.trim Text.isBlank (x.takeWhile (· ≠ '='.toNat))).isEmpty with
  | true =>
      simp only [hempty]
      exact ⟨_, rfl⟩
  | false =>
      simp only [hempty]
      cases canonical (Text.trim Text.isBlank (x.takeWhile (· ≠ '='.toNat))) with
      | error f => exact ⟨_, rfl⟩
      | ok style => exact ⟨_, rfl⟩

/-- **A closing tag that is refused** takes the whole text along. -/
theorem shownFrom_refused {x t : Text} (h : ClosesFirst x t) (rest : Text) (position : Nat) (tags : Tags) :
    ∃ place, ∀ f, applyTag place ('/'.toNat :: x) tags = .error f →
      shownFrom 0 position tags (t ++ rest) = .error f := by
  obtain ⟨hx, u, v, rfl, hu, hclosed⟩ := h
  have hbody : IsTagBody ('/'.toNat :: x) := ⟨⟨_, rfl, by decide⟩, List.forall_mem_cons.2 ⟨by decide, hx⟩⟩
  have hmeets : Meets u ('['.toNat :: (('/'.toNat :: x) ++ ']'.toNat :: (v ++ rest))) := by
    refine Or.inr ⟨hclosed, ?_⟩
    rintro c ⟨⟩
    decide
  obtain ⟨front, _, hshown⟩ := shownFrom_untagged hu hmeets position tags
  refine ⟨position + u.length, fun f hf => ?_⟩
  have heq : u ++ '['.toNat :: '/'.toNat :: (x ++ ']'.toNat :: v) ++ rest =
      u ++ '['.toNat :: (('/'.toNat :: x) ++ ']'.toNat :: (v ++ rest)) := by simp
  rw [heq, hshown, shownFrom_bareTag hbody, hf]
  rfl

/-- A report between the tags of one style is refused for a closing tag of another one. -/
theorem printed_tagged_refused (name : Text) {front t x style : Text} (hname : name ∈ reportStyles)
    (hfront : front = '['.toNat :: (name ++ [']'.toNat])) (h : ClosesFirst x t) (hstyle : NamesStyle x style)
    (hother : name ≠ style) (back : Text) :
    ∃ place, printed (front ++ t ++ back) = .error (.unmatched (closingTag x) place) := by
  obtain ⟨place, hplace⟩ := shownFrom_refused h back (0 + (name.length + 2)) ⟨[⟨name, []⟩], none⟩
  have hrefused := hplace _ (applyTag_unmatched hstyle (by simpa using hother) place)
  have heq : front ++ t ++ back = '['.toNat :: (name ++ ']'.toNat :: (t ++ back)) := by simp [hfront]
  refine ⟨place, ?_⟩
  unfold printed shown unfolded
  rw [heq, shownFrom_open (isStyleName_of_mem hname), hrefused]
  rfl

/-- A report of a fault is refused for any closing tag, since no tag is open behind its label. -/
theorem printed_labelled_refused (label : Text) {name front t x : Text} (hname : name ∈ reportStyles)
    (hlabel : ∀ c ∈ label, c ≠ '['.toNat ∧ c ≠ '\\'.toNat) (hfront : front = styled name label)
    (h : ClosesFirst x t) (rest : Text) : ∃ f, printed (front ++ t ++ rest) = .error f := by
  have hstyle := isStyleName_of_mem hname
  have heq : front ++ t ++ rest =
      '['.toNat :: (name ++ ']'.toNat :: (label ++ '['.toNat :: '/'.toNat :: (name ++ ']'.toNat :: (t ++ rest)))) := by
    simp [hfront, styled]
  obtain ⟨place, hplace⟩ := shownFrom_refused h rest
    (0 + (name.length + 2) + label.length + (name.length + 3)) ⟨[], none⟩
  obtain ⟨f, hf⟩ := applyTag_nothingOpen x place none
  refine ⟨f, ?_⟩
  unfold printed shown unfolded
  rw [heq, shownFrom_open hstyle, shownFrom_plain hlabel, shownFrom_close hstyle, hplace f hf]
  rfl

/-- The text of the fault quotes the closing tag, and so it cannot be told either. -/
theorem closesFirst_unmatched {x : Text} (hx : ∀ c ∈ x, c ≠ '['.toNat ∧ c ≠ ']'.toNat) (position : Nat) :
    ClosesFirst x (MarkupFault.unmatched (closingTag x) position).message := by
  refine ⟨hx, "closing tag '", ("' at position " : Text) ++ Text.ofNat position
    ++ " doesn't match any open tag", ?_, by decide, by decide⟩
  have hopen : ("[" : Text) = ['['.toNat] := by decide
  simp only [MarkupFault.message, closingTag, List.append_assoc, hopen, List.cons_append, List.nil_append]
  rfl

end StepForge.Console
