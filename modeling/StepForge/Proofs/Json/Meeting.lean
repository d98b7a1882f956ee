import StepForge.Proofs.Json.Numerals
import StepForge.Proofs.Json.Steps

/-!
# `StepForge.Proofs.Json.Meeting` — what the reader meets on its way

The reader goes through a text from left to right and stops at the first fault. So it refuses an integer with too
many digits only if it comes to it: if the integer stands where a value is expected, and all in front of it can be
read.

## Contents
- `string_ne_long` — strings are no numbers.
- `value_long_iff`, `items_long_iff`, `members_long_iff` — where one step of the reader meets such an integer.
- `Part`, `Meets`, `meets_iff` — where the reader meets one at all.
- `HasDigits`, `Meets.hasDigits` — the digits that stand in the text.
- `MeetsLong`, `read_long_iff` — the same for a whole text.
-/

namespace StepForge.Json

namespace Reader

variable {n : Nat}

/-! ## Strings -/

theorem push_ne_long {c : CodePoint} {r : Except Failure (Text × Text)} (h : r ≠ .error (.longNumeral n)) :
    push c r ≠ .error (.longNumeral n) := fun heq => h (map_eq_error_iff.1 heq)

theorem hexEscape_ne_long (t : Text) : hexEscape t ≠ .error (.longNumeral n) := by
  unfold hexEscape
  repeat' split
  all_goals
    intro h
    cases h

theorem escape_ne_long (opened : Nat) (t : Text) : escape opened t ≠ .error (.longNumeral n) := by
  unfold escape
  intro h
  split at h
  · cases h
  · split at h
    · exact hexEscape_ne_long _ (map_eq_error_iff.1 h)
    · split at h <;> cases h

/-- A string is no number. -/
theorem string_ne_long (opened k : Nat) (t : Text) : string opened k t ≠ .error (.longNumeral n) := by
  induction t generalizing k with
  | nil =>
      intro h
      cases k <;> cases h
  | cons c t ih =>
      cases k with
      | succ k => exact ih k
      | zero =>
          rw [string]
          intro h
          split at h
          · cases h
          · split at h
            · split at h
              · next e hescape =>
                  cases h
                  exact escape_ne_long opened t hescape
              · exact push_ne_long (ih _) h
            · split at h
              · cases h
              · exact push_ne_long (ih 0) h

/-! ## What one step meets -/

/-- Items meet a long integer in the first of them or in a later one. -/
theorem items_long_iff {fuel : Nat} {t : Text} :
    items (fuel + 1) t = .error (.longNumeral n) ↔
      value fuel t = .error (.longNumeral n) ∨
        ∃ x behind more, value fuel t = .ok (x, behind) ∧ skipSpace behind = ','.toNat :: more ∧
          items fuel (skipSpace more) = .error (.longNumeral n) := by
  rw [items, bind_eq_error_iff]
  refine or_congr_right ?_
  constructor
  · rintro ⟨⟨x, behind⟩, hvalue, h⟩
    dsimp only at h
    split at h
    · cases h
    · next more hcomma =>
        rcases bind_eq_error_iff.1 h with hitems | ⟨found, -, hfound⟩
        · exact ⟨x, behind, more, hvalue, hcomma, hitems⟩
        · cases hfound
    · cases h
  · rintro ⟨x, behind, more, hvalue, hcomma, hitems⟩
    refine ⟨(x, behind), hvalue, ?_⟩
    dsimp only
    rw [hcomma]
    exact bind_eq_error_iff.2 (Or.inl hitems)

/-- Members meet a long integer in the value of the first of them or in a later one. -/
theorem members_long_iff {fuel : Nat} {t : Text} :
    members (fuel + 1) t = .error (.longNumeral n) ↔
      ∃ tail name colon behind, t = '"'.toNat :: tail ∧ string t.length 0 tail = .ok (name, colon) ∧
        skipSpace colon = ':'.toNat :: behind ∧
        (value fuel (skipSpace behind) = .error (.longNumeral n) ∨
          ∃ v left more, value fuel (skipSpace behind) = .ok (v, left) ∧ skipSpace left = ','.toNat :: more ∧
            members fuel (skipSpace more) = .error (.longNumeral n)) := by
  constructor
  · intro h
    unfold members at h
    dsimp only at h
    split at h
    · next tail =>
        rcases bind_eq_error_iff.1 h with hstring | ⟨⟨name, colon⟩, hname, h⟩
        · exact absurd hstring (string_ne_long _ _ _)
        · dsimp only at h
          split at h
          · next behind hcolon =>
              refine ⟨tail, name, colon, behind, rfl, hname, hcolon, ?_⟩
              rcases bind_eq_error_iff.1 h with hvalue | ⟨⟨v, left⟩, hvalue, h⟩
              · exact Or.inl hvalue
              · dsimp only at h
                split at h
                · cases h
                · next more hcomma =>
                    rcases bind_eq_error_iff.1 h with hmembers | ⟨found, -, hfound⟩
                    · exact Or.inr ⟨v, left, more, hvalue, hcomma, hmembers⟩
                    · cases hfound
                · cases h
          · cases h
    · cases h
  · rintro ⟨tail, name, colon, behind, rfl, hname, hcolon, h⟩
    unfold members
    dsimp only
    refine bind_eq_error_iff.2 (Or.inr ⟨(name, colon), hname, ?_⟩)
    dsimp only
    rw [hcolon]
    refine bind_eq_error_iff.2 (h.imp_right ?_)
    rintro ⟨v, left, more, hvalue, hcomma, hmembers⟩
    refine ⟨(v, left), hvalue, ?_⟩
    dsimp only
    rw [hcomma]
    exact bind_eq_error_iff.2 (Or.inl hmembers)

/-- A closing bracket begins no item. -/
theorem items_closed_ne_long (fuel : Nat) (rest : Text) :
    items fuel (']'.toNat :: rest) ≠ .error (.longNumeral n) := by
  cases fuel with
  | zero => nofun
  | succ fuel =>
      have hvalue : ∃ left, value fuel (']'.toNat :: rest) = .error (.at .value left) := by
        cases fuel with
        | zero => exact ⟨_, rfl⟩
        | succ fuel => exact ⟨_, rfl⟩
      obtain ⟨left, hvalue⟩ := hvalue
      rw [Ne, items_long_iff, hvalue]
      simp

/-- A closing brace begins no member. -/
theorem members_closed_ne_long (fuel : Nat) (rest : Text) :
    members fuel ('\x7d'.toNat :: rest) ≠ .error (.longNumeral n) := by
  cases fuel with
  | zero => nofun
  | succ fuel =>
      rw [Ne, members_long_iff]
      rintro ⟨tail, _, _, _, heq, _⟩
      cases heq

/-- A value meets a long integer if it is one, or in an item or a member. -/
theorem value_long_iff {fuel : Nat} {t : Text} :
    value (fuel + 1) t = .error (.longNumeral n) ↔
      IsLong n t ∨ (∃ tail, t = '['.toNat :: tail ∧ items fuel (skipSpace tail) = .error (.longNumeral n)) ∨
        ∃ tail, t = '\x7b'.toNat :: tail ∧ members fuel (skipSpace tail) = .error (.longNumeral n) := by
  constructor
  · intro h
    cases t with
    | nil => cases h
    | cons c tail =>
        rw [value] at h
        dsimp only at h
        split at h
        · exact absurd (map_eq_error_iff.1 h) (string_ne_long _ _ _)
        · split at h
          · next hbrace =>
              split at h
              · cases h
              · exact Or.inr (Or.inr ⟨tail, by rw [hbrace], map_eq_error_iff.1 h⟩)
          · split at h
            · next hbracket =>
                split at h
                · cases h
                · exact Or.inr (Or.inl ⟨tail, by rw [hbracket], map_eq_error_iff.1 h⟩)
            · split at h
              · cases h
              · exact Or.inl (number_long_iff.1 h)
  · rintro (hlong | ⟨tail, rfl, hitems⟩ | ⟨tail, rfl, hmembers⟩)
    · obtain ⟨c, rest, rfl, hquote, hbrace, hbracket, hword⟩ := hlong.cons
      rw [value]
      dsimp only
      rw [if_neg hquote, if_neg hbrace, if_neg hbracket, hword]
      exact number_long_iff.2 hlong
    · rw [value]
      dsimp only
      rw [if_neg (by decide), if_neg (by decide), if_pos rfl]
      split
      · next hclosed =>
          rw [hclosed] at hitems
          exact absurd hitems (items_closed_ne_long _ _)
      · exact map_eq_error_iff.2 hitems
    · rw [value]
      dsimp only
      rw [if_neg (by decide), if_pos rfl]
      split
      · next hclosed =>
          rw [hclosed] at hmembers
          exact absurd hmembers (members_closed_ne_long _ _)
      · exact map_eq_error_iff.2 hmembers

/-! ## What the reader meets -/

/-- What the reader reads at the start of a text. -/
inductive Part where
  | value
  | items
  | members

/-- **The reader meets an integer** of `n` digits, which are too many: the value is one, or it is met in an item or
a member, and all items and members in front of that one can be read. -/
inductive Meets (n : Nat) : Part → Text → Prop
  | numeral {t : Text} (h : IsLong n t) : Meets n .value t
  | list {t : Text} (h : Meets n .items (skipSpace t)) : Meets n .value ('['.toNat :: t)
  | map {t : Text} (h : Meets n .members (skipSpace t)) : Meets n .value ('\x7b'.toNat :: t)
  | item {t : Text} (h : Meets n .value t) : Meets n .items t
  | laterItem {t behind more : Text} {x : Value} (hread : readValue t = .ok (x, behind))
      (hcomma : skipSpace behind = ','.toNat :: more) (h : Meets n .items (skipSpace more)) : Meets n .items t
  | member {t name colon behind : Text} (hname : string (t.length + 1) 0 t = .ok (name, colon))
      (hcolon : skipSpace colon = ':'.toNat :: behind) (h : Meets n .value (skipSpace behind)) :
      Meets n .members ('"'.toNat :: t)
  | laterMember {t name colon behind left more : Text} {v : Value}
      (hname : string (t.length + 1) 0 t = .ok (name, colon)) (hcolon : skipSpace colon = ':'.toNat :: behind)
      (hread : readValue (skipSpace behind) = .ok (v, left)) (hcomma : skipSpace left = ','.toNat :: more)
      (h : Meets n .members (skipSpace more)) : Meets n .members ('"'.toNat :: t)

/-- The reader fails at an integer of `n` digits, with more fuel than enough. -/
def Fails (n : Nat) (t : Text) : Part → Prop
  | .value => readValue t = .error (.longNumeral n)
  | .items => readItems t = .error (.longNumeral n)
  | .members => readMembers t = .error (.longNumeral n)

theorem readValue_long_iff {t : Text} :
    readValue t = .error (.longNumeral n) ↔
      IsLong n t ∨ (∃ tail, t = '['.toNat :: tail ∧ readItems (skipSpace tail) = .error (.longNumeral n)) ∨
        ∃ tail, t = '\x7b'.toNat :: tail ∧ readMembers (skipSpace tail) = .error (.longNumeral n) := by
  rw [readValue, value_long_iff]
  refine or_congr_right (or_congr (exists_congr fun tail => and_congr_right ?_)
    (exists_congr fun tail => and_congr_right ?_))
  · rintro rfl
    have hle := length_skipSpace_le tail
    rw [items_of_le (by simp only [List.length_cons]; omega)]
  · rintro rfl
    have hle := length_skipSpace_le tail
    rw [members_of_le (by simp only [List.length_cons]; omega)]

theorem readItems_long_iff {t : Text} :
    readItems t = .error (.longNumeral n) ↔
      readValue t = .error (.longNumeral n) ∨
        ∃ x behind more, readValue t = .ok (x, behind) ∧ skipSpace behind = ','.toNat :: more ∧
          readItems (skipSpace more) = .error (.longNumeral n) := by
  rw [readItems, items_long_iff, value_of_le (Nat.le_refl _)]
  refine or_congr_right (exists_congr fun x => exists_congr fun behind => exists_congr fun more =>
    and_congr_right fun hvalue => and_congr_right fun hcomma => ?_)
  have hbehind : behind.length ≤ t.length := ((leaves _).value hvalue).length_le
  have hmore := length_lt_of_skipSpace hcomma
  have hle := length_skipSpace_le more
  rw [items_of_le (by omega)]

theorem readMembers_long_iff {t : Text} :
    readMembers t = .error (.longNumeral n) ↔
      ∃ tail name colon behind, t = '"'.toNat :: tail ∧ string t.length 0 tail = .ok (name, colon) ∧
        skipSpace colon = ':'.toNat :: behind ∧
        (readValue (skipSpace behind) = .error (.longNumeral n) ∨
          ∃ v left more, readValue (skipSpace behind) = .ok (v, left) ∧ skipSpace left = ','.toNat :: more ∧
            readMembers (skipSpace more) = .error (.longNumeral n)) := by
  rw [readMembers, members_long_iff]
  refine exists_congr fun tail => exists_congr fun name => exists_congr fun colon => exists_congr fun behind =>
    and_congr_right fun ht => and_congr_right fun hname => and_congr_right fun hcolon => ?_
  have htail : t.length = tail.length + 1 := by rw [ht, List.length_cons]
  have hcolonLe := length_string_le hname
  have hbehind := length_lt_of_skipSpace hcolon
  have hle := length_skipSpace_le behind
  rw [value_of_le (by omega)]
  refine or_congr_right (exists_congr fun v => exists_congr fun left => exists_congr fun more =>
    and_congr_right fun hvalue => and_congr_right fun hcomma => ?_)
  have hleft := ((leaves _).value hvalue).length_le
  have hmore := length_lt_of_skipSpace hcomma
  have hlast := length_skipSpace_le more
  rw [members_of_le (by omega)]

/-- What is met makes the reader fail. -/
theorem Meets.fails {part : Part} {t : Text} (h : Meets n part t) : Fails n t part := by
  -- The induction is on the way to the integer, one case for each step of the reader.
  induction h with
  | numeral h => exact readValue_long_iff.2 (Or.inl h)
  | list h ih => exact readValue_long_iff.2 (Or.inr (Or.inl ⟨_, rfl, ih⟩))
  | map h ih => exact readValue_long_iff.2 (Or.inr (Or.inr ⟨_, rfl, ih⟩))
  | item h ih => exact readItems_long_iff.2 (Or.inl ih)
  | laterItem hread hcomma h ih => exact readItems_long_iff.2 (Or.inr ⟨_, _, _, hread, hcomma, ih⟩)
  | member hname hcolon h ih => exact readMembers_long_iff.2 ⟨_, _, _, _, rfl, hname, hcolon, Or.inl ih⟩
  | laterMember hname hcolon hread hcomma h ih =>
      exact readMembers_long_iff.2 ⟨_, _, _, _, rfl, hname, hcolon, Or.inr ⟨_, _, _, hread, hcomma, ih⟩⟩

/-- On texts of a size, the reader fails only at what it meets. -/
structure Caught (n size : Nat) : Prop where
  value : ∀ {t}, t.length = size → readValue t = .error (.longNumeral n) → Meets n .value t
  items : ∀ {t}, t.length = size → readItems t = .error (.longNumeral n) → Meets n .items t
  members : ∀ {t}, t.length = size → readMembers t = .error (.longNumeral n) → Meets n .members t

theorem caught (n size : Nat) : Caught n size := by
  -- Values lead to shorter texts, items to one value of the same text, so values come first.
  induction size using Nat.strongRecOn with
  | ind size ih =>
      have hvalue : ∀ {t}, t.length = size → readValue t = .error (.longNumeral n) → Meets n .value t := by
        intro t ht h
        rcases readValue_long_iff.1 h with hlong | ⟨tail, rfl, hitems⟩ | ⟨tail, rfl, hmembers⟩
        · exact .numeral hlong
        · have hle := length_skipSpace_le tail
          rw [List.length_cons] at ht
          exact .list ((ih _ (by omega)).items rfl hitems)
        · have hle := length_skipSpace_le tail
          rw [List.length_cons] at ht
          exact .map ((ih _ (by omega)).members rfl hmembers)
      refine ⟨hvalue, ?_, ?_⟩
      · intro t ht h
        rcases readItems_long_iff.1 h with hfirst | ⟨x, behind, more, hread, hcomma, hitems⟩
        · exact .item (hvalue ht hfirst)
        · have hbehind := ((leaves _).value hread).length_le
          have hmore := length_lt_of_skipSpace hcomma
          have hle := length_skipSpace_le more
          exact .laterItem hread hcomma ((ih _ (by omega)).items rfl hitems)
      · intro t ht h
        obtain ⟨tail, name, colon, behind, rfl, hname, hcolon, h⟩ := readMembers_long_iff.1 h
        rw [List.length_cons] at ht
        have hcolonLe := length_string_le hname
        have hbehind := length_lt_of_skipSpace hcolon
        have hle := length_skipSpace_le behind
        rcases h with hfirst | ⟨v, left, more, hread, hcomma, hmembers⟩
        · exact .member hname hcolon ((ih _ (by omega)).value rfl hfirst)
        · have hleft := ((leaves _).value hread).length_le
          have hmore := length_lt_of_skipSpace hcomma
          have hlast := length_skipSpace_le more
          exact .laterMember hname hcolon hread hcomma ((ih _ (by omega)).members rfl hmembers)

/-- **A value has an integer with too many digits** exactly if the reader meets one. -/
theorem meets_iff {t : Text} : Meets n .value t ↔ readValue t = .error (.longNumeral n) :=
  ⟨Meets.fails, (caught n t.length).value rfl⟩

/-- Digits stand next to each other in a text, `n` of them. -/
def HasDigits (n : Nat) (t : Text) : Prop := ∃ ds, ds <:+: t ∧ ds.length = n ∧ ∀ d ∈ ds, isDigit d = true

theorem HasDigits.of_suffix {t u : Text} (h : HasDigits n u) (hsuffix : u <:+ t) : HasDigits n t := by
  obtain ⟨ds, hpart, hds⟩ := h
  exact ⟨ds, hpart.trans hsuffix.isInfix, hds⟩

theorem IsLong.hasDigits {t : Text} (h : IsLong n t) : Text.numeralLimit < n ∧ HasDigits n t := by
  obtain ⟨rest, hrest, ds, behind, rfl, hdigits, -, hlen, hlimit, -⟩ := h
  have hfound : HasDigits n (ds ++ behind) := ⟨ds, (List.prefix_append ds behind).isInfix, hlen, hdigits⟩
  refine ⟨hlimit, hfound.of_suffix ?_⟩
  rcases hrest with rfl | rfl
  · exact List.suffix_refl _
  · exact List.suffix_cons _ _

/-- **Too many digits are there**: what the reader meets stands in the text. -/
theorem Meets.hasDigits {part : Part} {t : Text} (h : Meets n part t) : Text.numeralLimit < n ∧ HasDigits n t := by
  induction h with
  | numeral h => exact h.hasDigits
  | list h ih => exact ih.imp_right fun hn => hn.of_suffix ((skipSpace_suffix _).trans (List.suffix_cons _ _))
  | map h ih => exact ih.imp_right fun hn => hn.of_suffix ((skipSpace_suffix _).trans (List.suffix_cons _ _))
  | item h ih => exact ih
  | laterItem hread hcomma h ih =>
      refine ih.imp_right fun hn => hn.of_suffix ?_
      exact ((skipSpace_suffix _).trans (suffix_of_skipSpace hcomma)).trans ((leaves _).value hread)
  | member hname hcolon h ih =>
      refine ih.imp_right fun hn => hn.of_suffix ?_
      exact (((skipSpace_suffix _).trans (suffix_of_skipSpace hcolon)).trans (suffix_of_string hname)).trans
        (List.suffix_cons _ _)
  | laterMember hname hcolon hread hcomma h ih =>
      refine ih.imp_right fun hn => hn.of_suffix ?_
      have hbehind := ((skipSpace_suffix _).trans (suffix_of_skipSpace hcolon)).trans (suffix_of_string hname)
      exact ((((skipSpace_suffix _).trans (suffix_of_skipSpace hcomma)).trans ((leaves _).value hread)).trans
        hbehind).trans (List.suffix_cons _ _)

end Reader

/-! ## A whole text -/

/-- A text has an integer of `n` digits, too many, where a value is expected. -/
def MeetsLong (n : Nat) (text : Text) : Prop :=
  text.head? ≠ some 0xFEFF ∧ Reader.Meets n .value (Reader.skipSpace text)

/-- **A text is refused for an integer with too many digits** exactly if the reader meets it. -/
theorem read_long_iff {text : Text} {n : Nat} : read text = .error (.longNumeral n) ↔ MeetsLong n text := by
  have hwhole : read text = .error (.longNumeral n) ↔ readWhole text = .error (.longNumeral n) := by
    unfold read
    cases readWhole text with
    | ok v => simp
    | error e => cases e <;> simp [Failure.locate]
  have hlen := Reader.length_skipSpace_le text
  rw [hwhole, MeetsLong, Reader.meets_iff]
  unfold readWhole
  split
  · simp
  · next hmark =>
      have hhead : text.head? ≠ some 0xFEFF := by
        cases text with
        | nil => simp
        | cons c rest =>
            intro hc
            cases hc
            exact hmark rest rfl
      rw [Reader.value_of_le (by omega), bind_eq_error_iff, and_iff_right hhead]
      refine or_iff_left ?_
      rintro ⟨⟨v, rest⟩, -, h⟩
      dsimp only at h
      split at h <;> cases h

/-- Every other fault of a text says where it is. -/
theorem read_error_cases {text : Text} {f : Fault} (h : read text = .error f) :
    (∃ reason line column position, f = .malformed reason line column position) ∨
      ∃ n, f = .longNumeral n ∧ MeetsLong n text := by
  cases f with
  | malformed reason line column position => exact Or.inl ⟨reason, line, column, position, rfl⟩
  | longNumeral n => exact Or.inr ⟨n, rfl, read_long_iff.1 h⟩

end StepForge.Json
