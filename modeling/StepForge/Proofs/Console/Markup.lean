import Mathlib.Data.List.TakeWhile
import StepForge.Console.Progress

/-!
# `StepForge.Proofs.Console.Markup` — what is shown of a text with tags

A tag is cut out of a text in one piece (`shownFrom_tag`); what holds no bracket and no backslash is shown as it
is (`shownFrom_plain`). So of a text whose tags are known, what is shown is put together piece by piece.

## Contents
- `IsTagBody`, `tagAt?_eq_some_iff` — where a tag stands.
- `shownFrom_tag`, `shownFrom_plain` — one tag, and text without any.
- `IsStyleName`, `shownFrom_open`, `shownFrom_close` — tags that open and close a style.
-/

namespace StepForge.Console

/-! ## Tags -/

/-- What stands behind a run of one kind is what is left when the run is dropped. -/
theorem drop_length_takeWhile (p : CodePoint → Bool) (t : Text) :
    t.drop (t.takeWhile p).length = t.dropWhile p := by
  have hdrop : ((t.takeWhile p) ++ t.dropWhile p).drop (t.takeWhile p).length = t.dropWhile p := List.drop_left
  rwa [List.takeWhile_append_dropWhile] at hdrop

/-- What stands between the brackets of a tag. -/
structure IsTagBody (body : Text) : Prop where
  starts : ∃ c, body.head? = some c ∧ startsTag c = true
  noBracket : ∀ c ∈ body, c ≠ '['.toNat ∧ c ≠ ']'.toNat

/-- The first code point of a tag is no bracket. -/
theorem ne_bracket_of_startsTag {c : CodePoint} (h : startsTag c = true) : c ≠ '['.toNat ∧ c ≠ ']'.toNat := by
  refine ⟨?_, ?_⟩
  · rintro rfl
    revert h
    decide
  · rintro rfl
    revert h
    decide

theorem tagBody?_eq_some_iff {t body : Text} :
    tagBody? t = some body ↔ ∃ rest, t = body ++ ']'.toNat :: rest ∧ IsTagBody body := by
  constructor
  · intro h
    cases t with
    | nil => cases h
    | cons c t =>
        unfold tagBody? at h
        simp only at h
        split at h
        · next hstart =>
            split at h
            · next hend =>
                cases h
                have hcut := List.takeWhile_append_dropWhile
                  (p := fun c => c ≠ '['.toNat && c ≠ ']'.toNat) (l := t)
                rw [drop_length_takeWhile] at hend
                obtain ⟨rest, hrest⟩ := List.head?_eq_some_iff.1 (eq_of_beq hend)
                refine ⟨rest, ?_, ⟨c, rfl, hstart⟩, ?_⟩
                · rw [hrest] at hcut
                  rw [List.cons_append, hcut]
                · intro d hd
                  rcases List.mem_cons.1 hd with rfl | hd
                  · exact ne_bracket_of_startsTag hstart
                  · simpa using List.mem_takeWhile_imp hd
            · cases h
        · cases h
  · rintro ⟨rest, rfl, ⟨c, hc, hstart⟩, hinside⟩
    obtain ⟨inside, rfl⟩ := List.head?_eq_some_iff.1 hc
    have htake : (inside ++ ']'.toNat :: rest).takeWhile (fun c => c ≠ '['.toNat && c ≠ ']'.toNat) = inside := by
      rw [List.takeWhile_append_of_pos]
      · simp
      · intro d hd
        simpa using hinside d (List.mem_cons_of_mem c hd)
    have hend : ((inside ++ ']'.toNat :: rest).drop inside.length).head? == some ']'.toNat := by simp
    show tagBody? (c :: (inside ++ ']'.toNat :: rest)) = _
    simp only [tagBody?, hstart, htake, hend, if_true]

/-- **A tag stands at the start of a text** behind backslashes, between brackets. -/
theorem tagAt?_eq_some_iff {t body : Text} {slashes : Nat} :
    tagAt? t = some (slashes, body) ↔
      ∃ rest, t = List.replicate slashes '\\'.toNat ++ '['.toNat :: (body ++ ']'.toNat :: rest) ∧
        IsTagBody body := by
  constructor
  · intro h
    unfold tagAt? at h
    have hslashes : t.takeWhile (· = '\\'.toNat) =
        List.replicate (t.takeWhile (· = '\\'.toNat)).length '\\'.toNat := by
      refine List.eq_replicate_iff.2 ⟨rfl, fun c hc => ?_⟩
      simpa using List.mem_takeWhile_imp hc
    have hcut := List.takeWhile_append_dropWhile (p := fun c => decide (c = '\\'.toNat)) (l := t)
    simp only [drop_length_takeWhile] at h
    cases hbehind : t.dropWhile (· = '\\'.toNat) with
    | nil =>
        rw [hbehind] at h
        cases h
    | cons c behind =>
        rw [hbehind] at h hcut
        simp only at h
        split at h
        · next hc =>
            obtain ⟨found, hfound, heq⟩ := Option.map_eq_some_iff.1 h
            cases heq
            obtain ⟨rest, hrest, hbody⟩ := tagBody?_eq_some_iff.1 hfound
            refine ⟨rest, ?_, hbody⟩
            rw [← hslashes, ← hrest, ← hc]
            exact hcut.symm
        · cases h
  · rintro ⟨rest, rfl, hbody⟩
    have htake : (List.replicate slashes '\\'.toNat ++ '['.toNat :: (body ++ ']'.toNat :: rest)).takeWhile
        (· = '\\'.toNat) = List.replicate slashes '\\'.toNat := by
      rw [List.takeWhile_append_of_pos]
      · simp
      · intro c hc
        simpa using (List.mem_replicate.1 hc).2
    have hfound : tagBody? (body ++ ']'.toNat :: rest) = some body := tagBody?_eq_some_iff.2 ⟨rest, rfl, hbody⟩
    have hdrop : (List.replicate slashes '\\'.toNat ++ '['.toNat :: (body ++ ']'.toNat :: rest)).drop slashes =
        '['.toNat :: (body ++ ']'.toNat :: rest) := List.drop_left' List.length_replicate
    simp only [tagAt?, htake, List.length_replicate, hdrop, hfound, if_true, Option.map_some]

/-! ## What is shown -/

@[simp] theorem Shown.behind_behind (s : Shown) (front more : Text) :
    (s.behind more).behind front = s.behind (front ++ more) := by simp [Shown.behind]

/-- Text in front of what is shown, put there twice. -/
theorem map_behind_behind (r : Except MarkupFault Shown) (front more : Text) :
    (r.map (·.behind more)).map (·.behind front) = r.map (·.behind (front ++ more)) := by
  cases r with
  | error f => rfl
  | ok s => simp [Except.map]

theorem map_behind_nil (r : Except MarkupFault Shown) : r.map (·.behind []) = r := by cases r <;> rfl

/-- What was taken already is passed over. -/
theorem shownFrom_skip (front : Text) (position : Nat) (tags : Tags) (rest : Text) :
    shownFrom front.length position tags (front ++ rest) = shownFrom 0 (position + front.length) tags rest := by
  induction front generalizing position with
  | nil => rfl
  | cons c front ih =>
      show shownFrom front.length (position + 1) tags (front ++ rest) = _
      rw [ih, List.length_cons]
      congr 1
      omega

/-- **One tag** is cut out of the text, or shown when it stands behind an odd number of backslashes. -/
theorem shownFrom_tag {body : Text} (hbody : IsTagBody body) (slashes position : Nat) (tags : Tags) (rest : Text) :
    shownFrom 0 position tags (List.replicate slashes '\\'.toNat ++ '['.toNat :: (body ++ ']'.toNat :: rest)) =
      if slashes % 2 = 1 then
        (shownFrom 0 (position + (slashes + body.length + 2)) tags rest).map
          (·.behind (List.replicate (slashes / 2) '\\'.toNat ++ '['.toNat :: body ++ [']'.toNat]))
      else
        (applyTag (position + slashes) body tags).bind fun tags =>
          (shownFrom 0 (position + (slashes + body.length + 2)) tags rest).map
            (·.behind (List.replicate (slashes / 2) '\\'.toNat)) := by
  have hfound : tagAt? (List.replicate slashes '\\'.toNat ++ '['.toNat :: (body ++ ']'.toNat :: rest)) =
      some (slashes, body) := tagAt?_eq_some_iff.2 ⟨rest, rfl, hbody⟩
  -- The whole tag is one front, of which the first code point is taken at once.
  have hfront : List.replicate slashes '\\'.toNat ++ '['.toNat :: (body ++ ']'.toNat :: rest) =
      (List.replicate slashes '\\'.toNat ++ '['.toNat :: (body ++ [']'.toNat])) ++ rest := by simp
  have hlength : (List.replicate slashes '\\'.toNat ++ '['.toNat :: (body ++ [']'.toNat])).length =
      slashes + body.length + 2 := by
    simp
    omega
  rw [hfront] at hfound ⊢
  generalize List.replicate slashes '\\'.toNat ++ '['.toNat :: (body ++ [']'.toNat]) = front at hfound hlength ⊢
  cases front with
  | nil => simp at hlength
  | cons c front =>
      have hsize : slashes + body.length + 2 - 1 = front.length := by
        rw [List.length_cons] at hlength
        omega
      have hskip : ∀ tags, shownFrom front.length (position + 1) tags (front ++ rest) =
          shownFrom 0 (position + (slashes + body.length + 2)) tags rest := by
        intro tags
        rw [shownFrom_skip]
        congr 1
        omega
      rw [List.cons_append] at hfound ⊢
      rw [shownFrom, hfound]
      simp only [hsize, hskip]
      split
      · rfl
      · cases applyTag (position + slashes) body tags with
        | error fault => rfl
        | ok tags => rfl

/-- A tag without backslashes in front of it. -/
theorem shownFrom_bareTag {body : Text} (hbody : IsTagBody body) (position : Nat) (tags : Tags) (rest : Text) :
    shownFrom 0 position tags ('['.toNat :: (body ++ ']'.toNat :: rest)) =
      (applyTag position body tags).bind fun tags => shownFrom 0 (position + (body.length + 2)) tags rest := by
  have htag := shownFrom_tag hbody 0 position tags rest
  rw [if_neg (by decide), Nat.zero_add, Nat.add_zero] at htag
  simpa only [List.replicate_zero, List.nil_append, Nat.zero_div, map_behind_nil] using htag

/-- **Text without brackets and backslashes** is shown as it is. -/
theorem shownFrom_plain {plain : Text} (h : ∀ c ∈ plain, c ≠ '['.toNat ∧ c ≠ '\\'.toNat) (position : Nat)
    (tags : Tags) (rest : Text) :
    shownFrom 0 position tags (plain ++ rest) =
      (shownFrom 0 (position + plain.length) tags rest).map (·.behind plain) := by
  induction plain generalizing position with
  | nil => exact (map_behind_nil _).symm
  | cons c plain ih =>
      obtain ⟨hbracket, hslash⟩ := h c (by simp)
      have hnone : tagAt? (c :: (plain ++ rest)) = none := by
        unfold tagAt?
        have hslash : decide (c = '\\'.toNat) = false := by simpa using hslash
        rw [List.takeWhile_cons_of_neg (by simpa using hslash)]
        simp only [List.length_nil, List.drop_zero, if_neg hbracket]
      have hnot : ¬ ((decide (c = '\\'.toNat) && decide ((plain ++ rest).head? = some '['.toNat)) = true) := by
        rw [decide_eq_false hslash]
        exact Bool.false_ne_true
      rw [List.cons_append, shownFrom, hnone]
      simp only [if_neg hnot]
      rw [ih (fun d hd => h d (List.mem_cons_of_mem c hd)), map_behind_behind, List.length_cons]
      congr 2
      omega

/-! ## Styles -/

/-- The name of a style that is its own canonical form, such as `bold blue`. -/
structure IsStyleName (name : Text) : Prop where
  letters : ∀ c : Nat, c ∈ name → c = 32 ∨ 97 ≤ c ∧ c ≤ 122
  starts : ∃ c, name.head? = some c ∧ startsTag c = true
  trimmed : Text.trim Text.isBlank name = name
  canonical : canonical name = .ok name
  named : (named? (name ++ [32])).isOk = true

section Styles

variable {name : Text} (h : IsStyleName name)
include h

theorem IsStyleName.isTagBody : IsTagBody name := by
  refine ⟨h.starts, fun (c : Nat) hc => ?_⟩
  show c ≠ 91 ∧ c ≠ 93
  rcases h.letters c hc with hc | hc
  · omega
  · omega

theorem IsStyleName.isTagBody_slash : IsTagBody ('/'.toNat :: name) := by
  refine ⟨⟨_, rfl, by decide⟩, fun c hc => ?_⟩
  rcases List.mem_cons.1 hc with rfl | hc
  · decide
  · exact h.isTagBody.noBracket c hc

theorem IsStyleName.takeWhile_eq : name.takeWhile (· ≠ '='.toNat) = name := by
  rw [List.takeWhile_eq_self_iff]
  intro (c : Nat) hc
  have hne : c ≠ 61 := by
    rcases h.letters c hc with hc | hc
    · omega
    · omega
  exact decide_eq_true hne

/-- **A style is opened.** -/
theorem applyTag_open (position : Nat) (opened : List OpenTag) (late : Option Text.NumeralFault) :
    applyTag position name ⟨opened, late⟩ = .ok ⟨⟨name, []⟩ :: opened, late⟩ := by
  have hnotSlash : ∀ rest, name ≠ 0x2F :: rest := by
    rintro rest rfl
    rcases h.letters 0x2F (by simp) with hc | hc
    · cases hc
    · exact absurd hc.1 (by decide)
  have hnamed := h.named
  unfold applyTag
  rw [h.takeWhile_eq]
  dsimp only
  split
  · next rest => exact absurd rfl (hnotSlash rest)
  · rw [h.canonical]
    have hdrop : name.drop (name.length + 1) = [] := List.drop_eq_nil_of_le (Nat.le_succ _)
    simp only [hdrop]
    cases hstyle : named? (name ++ [32]) with
    | error fault =>
        rw [hstyle] at hnamed
        cases hnamed
    | ok style =>
        simp only [Except.mapError, bind, Except.bind, hstyle, Option.or_none]

/-- **A style is closed** that was opened last. -/
theorem applyTag_close (position : Nat) (opened : List OpenTag) (late : Option Text.NumeralFault) :
    applyTag position ('/'.toNat :: name) ⟨⟨name, []⟩ :: opened, late⟩ = .ok ⟨opened, late⟩ := by
  have htake : ('/'.toNat :: name).takeWhile (· ≠ '='.toNat) = 0x2F :: name := by
    rw [List.takeWhile_cons_of_pos (by decide), h.takeWhile_eq]
    rfl
  have hempty : name.isEmpty = false := by
    obtain ⟨c, hc, _⟩ := h.starts
    obtain ⟨rest, rfl⟩ := List.head?_eq_some_iff.1 hc
    rfl
  have hclosed : closeTag name (⟨name, []⟩ :: opened) = some (⟨name, []⟩, opened) := by simp [closeTag]
  have hcheck : (OpenTag.mk name []).check = .ok () := by simp [OpenTag.check]
  unfold applyTag
  rw [htake]
  simp only [h.trimmed, hempty, h.canonical, Except.mapError, bind, Except.bind, hclosed, closed, hcheck]
  rfl

/-- The opening tag of a style is cut out of a text. -/
theorem shownFrom_open (position : Nat) (opened : List OpenTag) (late : Option Text.NumeralFault) (rest : Text) :
    shownFrom 0 position ⟨opened, late⟩ ('['.toNat :: (name ++ ']'.toNat :: rest)) =
      shownFrom 0 (position + (name.length + 2)) ⟨⟨name, []⟩ :: opened, late⟩ rest := by
  rw [shownFrom_bareTag h.isTagBody, applyTag_open h]
  rfl

/-- The closing tag of the style that was opened last is cut out of a text. -/
theorem shownFrom_close (position : Nat) (opened : List OpenTag) (late : Option Text.NumeralFault) (rest : Text) :
    shownFrom 0 position ⟨⟨name, []⟩ :: opened, late⟩ ('['.toNat :: '/'.toNat :: (name ++ ']'.toNat :: rest)) =
      shownFrom 0 (position + (name.length + 3)) ⟨opened, late⟩ rest := by
  have htag := shownFrom_bareTag h.isTagBody_slash position ⟨⟨name, []⟩ :: opened, late⟩ rest
  rw [applyTag_close h] at htag
  exact htag

end Styles

/-- The styles that reports use. -/
def reportStyles : List Text := ["bold blue", "green", "red", "yellow", "dim", "bold"]

theorem isStyleName_of_mem {name : Text} (h : name ∈ reportStyles) : IsStyleName name := by
  have hall : ∀ name ∈ reportStyles, (∀ c ∈ name, c = 32 ∨ 97 ≤ c ∧ c ≤ 122) ∧
      (∃ c ∈ name.head?, startsTag c = true) ∧ Text.trim Text.isBlank name = name ∧
      canonical name = .ok name ∧ (named? (name ++ [32])).isOk = true := by decide +kernel
  obtain ⟨hletters, ⟨c, hc, hstart⟩, htrim, hcanonical, hnamed⟩ := hall name h
  exact ⟨hletters, ⟨c, hc, hstart⟩, htrim, hcanonical, hnamed⟩

/-- Text without the controls that are never shown stays whole. -/
theorem visible_eq_self {t : Text} (h : ∀ c ∈ t, isHidden c = false) : visible t = t := by
  unfold visible
  rw [List.filter_eq_self]
  intro c hc
  rw [h c hc]
  rfl

end StepForge.Console
