import StepForge.Proofs.Text.Split
import StepForge.Text.Utf8

/-!
# `StepForge.Proofs.Text.LineEnds` — one line end for all

`universalLines` goes through a text once. The same comes out of two replacements in turn: of a carriage return with the
line feed behind it, and then of each carriage return that is left. No carriage return is left behind that, so a text
without one is kept, and no other text is.

## Contents
- `replaceAll_append`, `replaceAll_cons` — replacing, at an occurrence and elsewhere.
- `universalLines_eq_replaceAll` — line ends by two replacements.
- `mem_universalLines`, `return_notMem_universalLines` — what is left of a text.
- `universalLines_eq_self_iff`, `universalLines_universalLines` — texts that are kept.
-/

namespace StepForge

namespace Text

/-! ## Replacing -/

theorem replaceFrom_length (part new skipped t : Text) :
    replaceFrom part new skipped.length (skipped ++ t) = replaceFrom part new 0 t := by
  induction skipped with
  | nil => rfl
  | cons c skipped ih => exact ih

variable {part new t : Text} {c : CodePoint}

/-- **An occurrence is replaced**, and what stands behind it is looked through after it. -/
theorem replaceAll_append (hpart : part ≠ []) (new t : Text) :
    replaceAll part new (part ++ t) = new ++ replaceAll part new t := by
  cases part with
  | nil => exact absurd rfl hpart
  | cons c part =>
      have hstarts : startsWith (c :: (part ++ t)) (c :: part) = true :=
        startsWith_iff.2 (List.prefix_append (c :: part) t)
      show replaceFrom (c :: part) new 0 (c :: (part ++ t)) = _
      rw [replaceFrom, if_pos hstarts]
      exact congrArg (new ++ ·) (replaceFrom_length (c :: part) new part t)

/-- Where no occurrence begins, a code point is kept. -/
theorem replaceAll_cons (h : ¬ part <+: c :: t) : replaceAll part new (c :: t) = c :: replaceAll part new t := by
  have hstarts : ¬ startsWith (c :: t) part = true := fun hstarts => h (startsWith_iff.1 hstarts)
  unfold replaceAll
  rw [replaceFrom, if_neg hstarts]

end Text

namespace Utf8

/-! ## Line ends -/

variable {t : Text} {c : CodePoint}

theorem universalLines_cons (h : c ≠ 13) : universalLines (c :: t) = c :: universalLines t := by
  rw [universalLines]
  · intro rest hc _
    exact h hc
  · exact h

/-- **Line ends are replaced**: first carriage returns with a line feed behind them, then those that are left. -/
theorem universalLines_eq_replaceAll (t : Text) :
    universalLines t = Text.replaceAll "\r" "\n" (Text.replaceAll "\r\n" "\n" t) := by
  show universalLines t = Text.replaceAll [13] [10] (Text.replaceAll [13, 10] [10] t)
  -- A carriage return is lone where it is met, so the replacement of pairs passes it by and takes no line feed from it.
  fun_induction universalLines t with
  | case1 => rfl
  | case2 t ih =>
      have hpart : ([13, 10] : Text) ≠ [] := by simp
      have hpair : Text.replaceAll [13, 10] [10] (13 :: 10 :: t) = 10 :: Text.replaceAll [13, 10] [10] t :=
        Text.replaceAll_append hpart [10] t
      have hfeed : ¬ ([13] : Text) <+: 10 :: Text.replaceAll [13, 10] [10] t := by simp
      rw [hpair, Text.replaceAll_cons hfeed, ih]
  | case3 t hlone ih =>
      have hpair : ¬ ([13, 10] : Text) <+: 13 :: t := by
        rintro ⟨rest, hrest⟩
        exact hlone rest (List.cons.inj hrest).2.symm
      have hpart : ([13] : Text) ≠ [] := by simp
      have hreturn : Text.replaceAll [13] [10] (13 :: Text.replaceAll [13, 10] [10] t) =
          10 :: Text.replaceAll [13] [10] (Text.replaceAll [13, 10] [10] t) :=
        Text.replaceAll_append hpart [10] _
      rw [Text.replaceAll_cons hpair, hreturn, ih]
  | case4 c t _ hc ih =>
      have hpair : ¬ ([13, 10] : Text) <+: c :: t := by
        rintro ⟨rest, hrest⟩
        exact hc (List.cons.inj hrest).1.symm
      have hreturn : ¬ ([13] : Text) <+: c :: Text.replaceAll [13, 10] [10] t := by
        rintro ⟨rest, hrest⟩
        exact hc (List.cons.inj hrest).1.symm
      rw [Text.replaceAll_cons hpair, Text.replaceAll_cons hreturn, ih]

/-- Line feeds apart, all that is left stood in the text, and no carriage return is left. -/
theorem mem_universalLines (h : c ∈ universalLines t) : c = 10 ∨ c ∈ t ∧ c ≠ 13 := by
  fun_induction universalLines t with
  | case1 => cases h
  | case2 t ih =>
      rcases List.mem_cons.1 h with rfl | h
      · exact Or.inl rfl
      · exact (ih h).imp_right fun ⟨hmem, hc⟩ => ⟨List.mem_cons_of_mem 13 (List.mem_cons_of_mem 10 hmem), hc⟩
  | case3 t _ ih =>
      rcases List.mem_cons.1 h with rfl | h
      · exact Or.inl rfl
      · exact (ih h).imp_right fun ⟨hmem, hc⟩ => ⟨List.mem_cons_of_mem 13 hmem, hc⟩
  | case4 d t _ hd ih =>
      rcases List.mem_cons.1 h with rfl | h
      · exact Or.inr ⟨List.mem_cons_self, hd⟩
      · exact (ih h).imp_right fun ⟨hmem, hc⟩ => ⟨List.mem_cons_of_mem d hmem, hc⟩

/-- **No carriage return is left.** -/
theorem return_notMem_universalLines (t : Text) : 13 ∉ universalLines t := by
  intro h
  rcases mem_universalLines h with hfeed | ⟨-, hreturn⟩
  · cases hfeed
  · exact hreturn rfl

/-- **A text is kept** exactly if it has no carriage return. -/
theorem universalLines_eq_self_iff : universalLines t = t ↔ 13 ∉ t := by
  constructor
  · intro h
    rw [← h]
    exact return_notMem_universalLines t
  · intro h
    induction t with
    | nil => rfl
    | cons c t ih =>
        obtain ⟨hc, ht⟩ := List.ne_and_not_mem_of_not_mem_cons h
        rw [universalLines_cons hc.symm, ih ht]

/-- What has one line end for all is kept. -/
theorem universalLines_universalLines (t : Text) : universalLines (universalLines t) = universalLines t :=
  universalLines_eq_self_iff.2 (return_notMem_universalLines t)

end Utf8
end StepForge
