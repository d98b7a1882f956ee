import StepForge.Proofs.Json.Strings
import StepForge.Proofs.Results
import StepForge.Proofs.Text.Split

/-!
# `StepForge.Proofs.Json.Members` — where the values of a JSON text come from

The reader goes through a text from left to right: what it leaves is the end of what it was given. So
whatever stands in a value was read from some place of the text, and a string was spelled there.

## Contents
- `value_cases`, `items_cases`, `members_cases` — all that one step of the reader can do.
- `Leaves`, `leaves` — what is left is the end of what was given.
- `SpelledIn`, `spelled_of_member`, `spelled_of_member?` — a string that is a member was spelled somewhere.
-/

namespace StepForge.Json.Reader

/-! ## Words and numbers -/

/-- What is left behind a value that is no string and has no entries. -/
structure LeavesBehind (t : Text) (v : Value) (rest : Text) : Prop where
  suffix : rest <:+ t
  no_string : ∀ s, v ≠ .str s
  no_entries : v.entries = []

theorem digits_suffix (t : Text) : (digits t).2 <:+ t := List.dropWhile_suffix _

theorem suffix_of_digits {t rest : Text} {ds : List Nat} (h : digits t = (ds, rest)) : rest <:+ t := by
  have hsuffix := digits_suffix t
  rw [h] at hsuffix
  exact hsuffix

theorem fraction_suffix (t : Text) : (fraction t).2 <:+ t := by
  unfold fraction
  split
  · split
    · exact (digits_suffix _).trans (List.suffix_cons _ _)
    · exact List.suffix_refl _
  · exact List.suffix_refl _

theorem exponent_suffix (t : Text) : (exponent t).2 <:+ t := by
  unfold exponent
  cases t with
  | nil => exact List.suffix_refl _
  | cons e t =>
      dsimp only
      split
      · split
        · exact List.suffix_refl _
        · rename_i hread
          refine List.IsSuffix.trans ?_ (List.suffix_cons e t)
          split at hread
          · exact (suffix_of_digits hread).trans (List.suffix_cons _ _)
          · exact (suffix_of_digits hread).trans (List.suffix_cons _ _)
          · exact suffix_of_digits hread
      · exact List.suffix_refl _

theorem numberFrom_leaves {negative : Bool} {whole : List Nat} {t rest : Text} {v : Value}
    (h : numberFrom negative whole t = .ok (v, rest)) : LeavesBehind t v rest := by
  have hsuffix : (exponent (fraction t).2).2 <:+ t := (exponent_suffix _).trans (fraction_suffix t)
  unfold numberFrom at h
  dsimp only at h
  split at h
  · split at h
    · cases h
    · cases h
      exact ⟨hsuffix, nofun, rfl⟩
  · cases h
    exact ⟨hsuffix, nofun, rfl⟩

theorem number_leaves {t rest : Text} {v : Value} (h : number t = .ok (v, rest)) : LeavesBehind t v rest := by
  unfold number at h
  split at h
  rename_i negative unsigned hsign
  have hunsigned : unsigned <:+ t := by
    split at hsign <;> cases hsign
    · exact List.suffix_cons _ _
    · exact List.suffix_refl _
  cases unsigned with
  | nil => cases h
  | cons c behind =>
      dsimp only at h
      split at h
      · obtain ⟨hsuffix, hstring, hentries⟩ := numberFrom_leaves h
        exact ⟨(hsuffix.trans (List.suffix_cons c behind)).trans hunsigned, hstring, hentries⟩
      · split at h
        · cases h
        · rename_i hread
          obtain ⟨hsuffix, hstring, hentries⟩ := numberFrom_leaves h
          exact ⟨(hsuffix.trans (suffix_of_digits hread)).trans hunsigned, hstring, hentries⟩

theorem keyword?_leaves {t rest : Text} {v : Value} (h : keyword? t = some (v, rest)) : LeavesBehind t v rest := by
  obtain ⟨⟨word, w⟩, hmem, hfound⟩ := List.exists_of_findSome?_eq_some h
  obtain ⟨behind, hstart, hpair⟩ := Option.map_eq_some_iff.1 hfound
  cases hpair
  have hwords : ∀ e ∈ keywords, (∀ s, e.2 ≠ .str s) ∧ e.2.entries = [] := by
    simp [keywords, Value.entries, Value.unfolded]
  obtain ⟨hstring, hentries⟩ := hwords _ hmem
  exact ⟨⟨word, (Text.dropStart?_eq_some_iff.1 hstart).symm⟩, hstring, hentries⟩

/-! ## What one step can do -/

theorem value_cases {fuel : Nat} {t rest : Text} {v : Value} (h : value (fuel + 1) t = .ok (v, rest)) :
    (∃ tail s, t = '"'.toNat :: tail ∧ string t.length 0 tail = .ok (s, rest) ∧ v = .str s) ∨
    (∃ tail, t = '\x7b'.toNat :: tail ∧ skipSpace tail = '\x7d'.toNat :: rest ∧ v = .map []) ∨
    (∃ tail es, t = '\x7b'.toNat :: tail ∧ members fuel (skipSpace tail) = .ok (es, rest) ∧
      v = .map (Value.ofEntries es)) ∨
    (∃ tail, t = '['.toNat :: tail ∧ skipSpace tail = ']'.toNat :: rest ∧ v = .list []) ∨
    (∃ tail xs, t = '['.toNat :: tail ∧ items fuel (skipSpace tail) = .ok (xs, rest) ∧ v = .list xs) ∨
    LeavesBehind t v rest := by
  cases t with
  | nil =>
      rw [value] at h
      cases h
  | cons c tail =>
      rw [value] at h
      dsimp only at h
      split at h
      · rename_i hquote
        obtain ⟨⟨s, left⟩, hread, heq⟩ := map_eq_ok_iff.1 h
        cases heq
        exact Or.inl ⟨tail, s, by rw [hquote], hread, rfl⟩
      · split at h
        · rename_i hbrace
          split at h
          · rename_i hclosed
            cases h
            exact Or.inr (Or.inl ⟨tail, by rw [hbrace], hclosed, rfl⟩)
          · obtain ⟨⟨es, left⟩, hread, heq⟩ := map_eq_ok_iff.1 h
            cases heq
            exact Or.inr (Or.inr (Or.inl ⟨tail, es, by rw [hbrace], hread, rfl⟩))
        · split at h
          · rename_i hbracket
            split at h
            · rename_i hclosed
              cases h
              exact Or.inr (Or.inr (Or.inr (Or.inl ⟨tail, by rw [hbracket], hclosed, rfl⟩)))
            · obtain ⟨⟨xs, left⟩, hread, heq⟩ := map_eq_ok_iff.1 h
              cases heq
              exact Or.inr (Or.inr (Or.inr (Or.inr (Or.inl ⟨tail, xs, by rw [hbracket], hread, rfl⟩))))
          · refine Or.inr (Or.inr (Or.inr (Or.inr (Or.inr ?_))))
            split at h
            · rename_i hword
              cases h
              exact keyword?_leaves hword
            · exact number_leaves h

theorem items_cases {fuel : Nat} {t rest : Text} {xs : List Value} (h : items (fuel + 1) t = .ok (xs, rest)) :
    ∃ x behind, value fuel t = .ok (x, behind) ∧
      (skipSpace behind = ']'.toNat :: rest ∧ xs = [x] ∨
       ∃ more ys, skipSpace behind = ','.toNat :: more ∧ items fuel (skipSpace more) = .ok (ys, rest) ∧
         xs = x :: ys) := by
  rw [items] at h
  obtain ⟨⟨x, behind⟩, hvalue, h⟩ := bind_eq_ok_iff.1 h
  refine ⟨x, behind, hvalue, ?_⟩
  dsimp only at h
  split at h
  · rename_i hclosed
    cases h
    exact Or.inl ⟨hclosed, rfl⟩
  · rename_i more hcomma
    obtain ⟨⟨ys, left⟩, hitems, h⟩ := bind_eq_ok_iff.1 h
    cases h
    exact Or.inr ⟨more, ys, hcomma, hitems, rfl⟩
  · cases h

theorem members_cases {fuel : Nat} {t rest : Text} {es : List (Value × Value)}
    (h : members (fuel + 1) t = .ok (es, rest)) :
    ∃ tail name colon behind v left, t = '"'.toNat :: tail ∧ string t.length 0 tail = .ok (name, colon) ∧
      skipSpace colon = ':'.toNat :: behind ∧ value fuel (skipSpace behind) = .ok (v, left) ∧
      (skipSpace left = '\x7d'.toNat :: rest ∧ es = [(.str name, v)] ∨
       ∃ more fs, skipSpace left = ','.toNat :: more ∧ members fuel (skipSpace more) = .ok (fs, rest) ∧
         es = (.str name, v) :: fs) := by
  unfold members at h
  dsimp only at h
  split at h
  · rename_i tail
    obtain ⟨⟨name, colon⟩, hname, h⟩ := bind_eq_ok_iff.1 h
    dsimp only at h
    split at h
    · rename_i behind hcolon
      obtain ⟨⟨v, left⟩, hvalue, h⟩ := bind_eq_ok_iff.1 h
      refine ⟨tail, name, colon, behind, v, left, rfl, hname, hcolon, hvalue, ?_⟩
      dsimp only at h
      split at h
      · rename_i hclosed
        cases h
        exact Or.inl ⟨hclosed, rfl⟩
      · rename_i more hcomma
        obtain ⟨⟨fs, left'⟩, hmembers, h⟩ := bind_eq_ok_iff.1 h
        cases h
        exact Or.inr ⟨more, fs, hcomma, hmembers, rfl⟩
      · cases h
    · cases h
  · cases h

/-! ## What is left -/

theorem skipSpace_suffix (t : Text) : skipSpace t <:+ t := List.dropWhile_suffix _

theorem suffix_of_skipSpace {t rest : Text} {c : CodePoint} (h : skipSpace t = c :: rest) : rest <:+ t := by
  have hsuffix := skipSpace_suffix t
  rw [h] at hsuffix
  exact (List.suffix_cons c rest).trans hsuffix

theorem suffix_of_string {opened : Nat} {t s rest : Text} (h : string opened 0 t = .ok (s, rest)) : rest <:+ t := by
  obtain ⟨raw, hraw, _⟩ := string_spells h
  rw [List.drop_zero] at hraw
  exact ⟨raw ++ ['"'.toNat], by rw [hraw]; simp⟩

/-- What the reader leaves with some fuel is the end of what it was given. -/
structure Leaves (fuel : Nat) : Prop where
  value : ∀ {t rest v}, value fuel t = .ok (v, rest) → rest <:+ t
  items : ∀ {t rest xs}, items fuel t = .ok (xs, rest) → rest <:+ t
  members : ∀ {t rest es}, members fuel t = .ok (es, rest) → rest <:+ t

theorem Leaves.zero : Leaves 0 where
  value h := by
    rw [Reader.value] at h
    cases h
  items h := by
    rw [Reader.items] at h
    cases h
  members h := by
    rw [Reader.members] at h
    cases h

theorem Leaves.succ {fuel : Nat} (ih : Leaves fuel) : Leaves (fuel + 1) where
  value {t rest v} h := by
    rcases value_cases h with ⟨tail, s, rfl, hstring, -⟩ | ⟨tail, rfl, hclosed, -⟩ | ⟨tail, es, rfl, hmembers, -⟩ |
      ⟨tail, rfl, hclosed, -⟩ | ⟨tail, xs, rfl, hitems, -⟩ | hleaves
    · exact (suffix_of_string hstring).trans (List.suffix_cons _ _)
    · exact (suffix_of_skipSpace hclosed).trans (List.suffix_cons _ _)
    · exact ((ih.members hmembers).trans (skipSpace_suffix tail)).trans (List.suffix_cons _ _)
    · exact (suffix_of_skipSpace hclosed).trans (List.suffix_cons _ _)
    · exact ((ih.items hitems).trans (skipSpace_suffix tail)).trans (List.suffix_cons _ _)
    · exact hleaves.suffix
  items {t rest xs} h := by
    obtain ⟨x, behind, hvalue, ⟨hclosed, -⟩ | ⟨more, ys, hcomma, hitems, -⟩⟩ := items_cases h
    · exact (suffix_of_skipSpace hclosed).trans (ih.value hvalue)
    · exact (((ih.items hitems).trans (skipSpace_suffix more)).trans (suffix_of_skipSpace hcomma)).trans
        (ih.value hvalue)
  members {t rest es} h := by
    obtain ⟨tail, name, colon, behind, v, left, rfl, hname, hcolon, hvalue, hend⟩ := members_cases h
    have hleft : left <:+ '"'.toNat :: tail :=
      ((((ih.value hvalue).trans (skipSpace_suffix behind)).trans (suffix_of_skipSpace hcolon)).trans
        (suffix_of_string hname)).trans (List.suffix_cons _ _)
    rcases hend with ⟨hclosed, -⟩ | ⟨more, fs, hcomma, hmembers, -⟩
    · exact (suffix_of_skipSpace hclosed).trans hleft
    · exact (((ih.members hmembers).trans (skipSpace_suffix more)).trans (suffix_of_skipSpace hcomma)).trans hleft

/-- **The reader leaves the end of what it was given.** -/
theorem leaves (fuel : Nat) : Leaves fuel := by
  -- Values, items and members call each other with one unit of fuel less, so all three are proved together.
  induction fuel with
  | zero => exact .zero
  | succ fuel ih => exact ih.succ

/-! ## Members that are strings -/

/-- A string stands somewhere in a text, with quotes around what spells it. -/
def SpelledIn (t s : Text) : Prop :=
  ∃ front raw behind, t = front ++ ['"'.toNat] ++ raw ++ (['"'.toNat] ++ behind) ∧ Spells raw s

/-- What is spelled in the end of a text is spelled in the text. -/
theorem SpelledIn.of_suffix {t u s : Text} (h : SpelledIn u s) (hsuffix : u <:+ t) : SpelledIn t s := by
  obtain ⟨front, raw, behind, rfl, hspells⟩ := h
  obtain ⟨first, rfl⟩ := hsuffix
  exact ⟨first ++ front, raw, behind, by simp, hspells⟩

/-- A value that is a string was spelled. -/
theorem spelled_of_value {fuel : Nat} {t s rest : Text} (h : value fuel t = .ok (.str s, rest)) :
    SpelledIn t s := by
  cases fuel with
  | zero =>
      rw [value] at h
      cases h
  | succ fuel =>
      rcases value_cases h with ⟨tail, u, rfl, hstring, heq⟩ | ⟨_, _, _, heq⟩ | ⟨_, _, _, _, heq⟩ | ⟨_, _, _, heq⟩ |
        ⟨_, _, _, _, heq⟩ | hleaves
      · cases heq
        obtain ⟨raw, hraw, hspells⟩ := string_spells hstring
        rw [List.drop_zero] at hraw
        exact ⟨[], raw, rest, by rw [hraw]; simp, hspells⟩
      · cases heq
      · cases heq
      · cases heq
      · cases heq
      · exact absurd rfl (hleaves.no_string s)

/-- **A string that is a member was spelled somewhere.** -/
theorem spelled_of_member {fuel : Nat} {t s rest : Text} {es : List (Value × Value)} {k : Value}
    (h : members fuel t = .ok (es, rest)) (hmem : (k, .str s) ∈ es) : SpelledIn t s := by
  -- The induction is on the fuel: the first member is read with one unit less, and so are those behind it.
  induction fuel generalizing t es with
  | zero =>
      rw [members] at h
      cases h
  | succ fuel ih =>
      obtain ⟨tail, name, colon, behind, v, left, rfl, hname, hcolon, hvalue, hend⟩ := members_cases h
      have hbehind : skipSpace behind <:+ '"'.toNat :: tail :=
        (((skipSpace_suffix behind).trans (suffix_of_skipSpace hcolon)).trans (suffix_of_string hname)).trans
          (List.suffix_cons _ _)
      have hfirst : v = .str s → SpelledIn ('"'.toNat :: tail) s := by
        rintro rfl
        exact (spelled_of_value hvalue).of_suffix hbehind
      rcases hend with ⟨-, rfl⟩ | ⟨more, fs, hcomma, hmembers, rfl⟩
      · exact hfirst (congrArg Prod.snd (List.mem_singleton.1 hmem)).symm
      · rcases List.mem_cons.1 hmem with heq | hmem
        · exact hfirst (congrArg Prod.snd heq).symm
        · refine (ih hmembers hmem).of_suffix ?_
          exact (((skipSpace_suffix more).trans (suffix_of_skipSpace hcomma)).trans
            ((leaves fuel).value hvalue)).trans hbehind

/-! ## Members of what was read -/

theorem mem_of_get? {key v : Value} {es : List (Value × Value)} (h : Value.get? key es = some v) :
    v ∈ es.map (·.2) := by
  induction es with
  | nil => cases h
  | cons e es ih =>
      rw [Value.get?] at h
      split at h
      · cases h
        exact List.mem_cons_self ..
      · exact List.mem_cons_of_mem _ (ih h)

theorem mem_of_mem_insert {key v x : Value} {es : List (Value × Value)}
    (h : x ∈ (Value.insert key v es).map (·.2)) : x = v ∨ x ∈ es.map (·.2) := by
  induction es with
  | nil => exact Or.inl (by simpa [Value.insert] using h)
  | cons e es ih =>
      rw [Value.insert] at h
      split at h
      · exact (List.mem_cons.1 h).imp_right (List.mem_cons_of_mem _)
      · rcases List.mem_cons.1 h with h | h
        · exact Or.inr (List.mem_cons.2 (Or.inl h))
        · exact (ih h).imp_right (List.mem_cons_of_mem _)

/-- The values of the entries of a mapping stand in what it was written out of. -/
theorem mem_of_mem_ofEntries {x : Value} {es : List (Value × Value)} (h : x ∈ (Value.ofEntries es).map (·.2)) :
    x ∈ es.map (·.2) := by
  have hfold : ∀ done : List (Value × Value),
      x ∈ (es.foldl (fun done e => Value.insert e.1 e.2 done) done).map (·.2) →
        x ∈ done.map (·.2) ∨ x ∈ es.map (·.2) := by
    clear h
    induction es with
    | nil => exact fun done h => Or.inl h
    | cons e es ih =>
        intro done h
        rcases ih _ h with h | h
        · exact (mem_of_mem_insert h).symm.imp_right fun heq => List.mem_cons.2 (Or.inl heq)
        · exact Or.inr (List.mem_cons_of_mem _ h)
  exact (hfold [] h).resolve_left List.not_mem_nil

theorem member?_of_no_entries {v : Value} (h : v.entries = []) (key : Text) : v.member? key = none := by
  rw [Value.member?, h]
  rfl

/-- **A text that is a member of what was read was spelled somewhere.** -/
theorem spelled_of_member? {text key s : Text} {v : Value} (h : read text = .ok v)
    (hmember : v.member? key = some (.str s)) : SpelledIn text s := by
  obtain ⟨fuel, rest, hvalue⟩ : ∃ fuel rest, value (fuel + 1) (skipSpace text) = .ok (v, rest) := by
    unfold read at h
    split at h
    · rename_i hwhole
      cases h
      unfold readWhole at hwhole
      split at hwhole
      · cases hwhole
      · obtain ⟨⟨w, rest⟩, hvalue, hend⟩ := bind_eq_ok_iff.1 hwhole
        dsimp only at hend
        split at hend
        · cases hend
          exact ⟨_, rest, hvalue⟩
        · cases hend
    · cases h
  have hnone : v.entries ≠ [] := by
    intro hentries
    rw [member?_of_no_entries hentries] at hmember
    cases hmember
  rcases value_cases hvalue with ⟨_, _, _, _, rfl⟩ | ⟨_, _, _, rfl⟩ | ⟨tail, es, hopen, hmembers, rfl⟩ |
    ⟨_, _, _, rfl⟩ | ⟨_, _, _, _, rfl⟩ | hleaves
  · exact absurd rfl hnone
  · exact absurd rfl hnone
  · obtain ⟨⟨k, x⟩, hmem, rfl⟩ := List.mem_map.1 (mem_of_mem_ofEntries (mem_of_get? hmember))
    exact (spelled_of_member hmembers hmem).of_suffix ((skipSpace_suffix tail).trans (suffix_of_skipSpace hopen))
  · exact absurd rfl hnone
  · exact absurd rfl hnone
  · exact absurd hleaves.no_entries hnone

end StepForge.Json.Reader
