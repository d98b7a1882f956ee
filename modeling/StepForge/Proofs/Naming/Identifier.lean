import StepForge.Proofs.Naming.Camel

/-!
# `StepForge.Proofs.Naming.Identifier` — names that are identifiers

An identifier of ASCII letters and digits does not begin with a digit. A key in ASCII has a name in camel case
that is in ASCII too, and the name begins as the key does behind whatever the key has in front of its first
letter or digit.

## Contents
- `isIdentifier`, `isIdentifier_iff` — identifiers of ASCII letters and digits.
- `leading?`, `head?_camelCase` — where a key begins, and that its name in camel case begins there.
- `isAscii_camelCase` — names in ASCII.
-/

namespace StepForge

namespace Naming

/-! ## Identifiers -/

/-- An ASCII letter. -/
def isAsciiLetter (c : Nat) : Bool := (65 ≤ c && c ≤ 90) || (97 ≤ c && c ≤ 122)

/-- An ASCII digit. -/
def isAsciiDigit (c : Nat) : Bool := 48 ≤ c && c ≤ 57

/-- An identifier of ASCII letters and digits: there is one at least, and the first is a letter. -/
def isIdentifier : Text → Bool
  | [] => false
  | c :: t => isAsciiLetter c && t.all fun d => isAsciiLetter d || isAsciiDigit d

/-- The first letter or digit of a key. -/
def leading? (key : Text) : Option CodePoint := key.find? isNamePoint

/-- Of the ASCII code points, names have the letters and digits. -/
theorem isNamePoint_of_ascii {c : CodePoint} (hc : c < 128) :
    isNamePoint c = (isAsciiLetter c || isAsciiDigit c) := by
  have hlow : decide (128 ≤ c) = false := by simpa using hc
  unfold isNamePoint isAsciiLetter isAsciiDigit
  rw [hlow, Bool.false_or, Bool.or_assoc, Bool.or_comm]

/-- Letters and digits are an identifier exactly when no digit is in front. -/
theorem isIdentifier_iff {t : Text} (hne : t ≠ [])
    (hpoints : ∀ c ∈ t, (isAsciiLetter c || isAsciiDigit c) = true) :
    isIdentifier t = true ↔ t.head?.any isAsciiDigit = false := by
  cases t with
  | nil => exact absurd rfl hne
  | cons c t =>
      have hrest : (t.all fun d => isAsciiLetter d || isAsciiDigit d) = true :=
        List.all_eq_true.2 fun d hd => hpoints d (List.mem_cons_of_mem c hd)
      have hfront : isIdentifier (c :: t) = isAsciiLetter c := by rw [isIdentifier, hrest, Bool.and_true]
      have hc := hpoints c (by simp)
      rw [hfront, List.head?_cons, Option.any_some]
      simp only [isAsciiLetter, isAsciiDigit, Bool.or_eq_true, Bool.and_eq_true, Bool.and_eq_false_iff,
        decide_eq_true_eq, decide_eq_false_iff_not] at hc ⊢
      omega

/-! ## Where a name begins -/

/-- The words of a text put together are the text without accents and without separators. -/
theorem flatten_words (t : Text) :
    (words t).flatten = (plain t).filter fun c => decide (CharClass.of c ≠ .separator) := by
  have hruns : ∀ runs : List (CharClass × Text), (∀ r ∈ runs, IsRun r) →
      (runs.filter fun r => decide (r.1 ≠ .separator)).flatMap (·.2) =
        (runs.flatMap (·.2)).filter fun c => decide (CharClass.of c ≠ .separator) := by
    intro runs h
    induction runs with
    | nil => rfl
    | cons r runs ih =>
        obtain ⟨_, hclass⟩ := h r (by simp)
        rw [List.flatMap_cons, List.filter_append, ← ih fun q hq => h q (List.mem_cons_of_mem r hq)]
        by_cases hr : r.1 = .separator
        · have hnone : (r.2.filter fun c => decide (CharClass.of c ≠ .separator)) = [] := by
            rw [List.filter_eq_nil_iff]
            intro c hc
            simpa using (hclass c hc).trans hr
          rw [hnone, List.filter_cons_of_neg (by simpa using hr), List.nil_append]
        · have hall : (r.2.filter fun c => decide (CharClass.of c ≠ .separator)) = r.2 := by
            rw [List.filter_eq_self]
            intro c hc
            simpa [hclass c hc] using hr
          rw [hall, List.filter_cons_of_pos (by simpa using hr), List.flatMap_cons]
  rw [words, flatten_wordsOfRuns, hruns _ (isRun_of_mem_classRuns (plain t)), flatMap_classRuns]

/-- The letters and digits of ASCII are no separators. -/
theorem class_of_isNamePoint {c : Nat} (hc : c < 128) (h : isNamePoint c = true) : CharClass.of c ≠ .separator := by
  rw [isNamePoint_of_ascii hc, isAsciiLetter, isAsciiDigit] at h
  rw [class_eq_asciiClass hc, asciiClass]
  split
  · simp
  · split
    · simp
    · split
      · simp
      · simp_all

/-- Of the ASCII code points, the letters and digits take part in words. -/
theorem class_of_ascii {c : Nat} (hc : c < 128) :
    decide (decide (c ≠ '\''.toNat) = true ∧ decide (CharClass.of c ≠ .separator) = true) = isNamePoint c := by
  cases hname : isNamePoint c with
  | false =>
      have hclass : CharClass.of c = .separator := by
        by_contra hne
        rw [isNamePoint_of_class hne] at hname
        cases hname
      simp [hclass]
  | true =>
      have hquote : c ≠ 39 := by
        rintro rfl
        revert hname
        decide
      simp [hquote, class_of_isNamePoint hc hname]

/-- The words of a key in ASCII begin with its first letter or digit. -/
theorem head?_flatten_words {key : Text} (h : ∀ c ∈ key, c < 128) : (words key).flatten.head? = leading? key := by
  rw [flatten_words, plain_of_ascii h, List.head?_filter, List.find?_filter, leading?]
  induction key with
  | nil => rfl
  | cons c key ih =>
      rw [List.find?_cons, List.find?_cons, class_of_ascii (h c (by simp)),
        ih fun d hd => h d (List.mem_cons_of_mem c hd)]

/-- **A name in camel case begins as its key does**, in lower case. -/
theorem head?_camelCase {key : Text} (h : ∀ c ∈ key, c < 128) :
    (camelCase key).head? = (leading? key).map smallPoint := by
  rw [← head?_flatten_words h]
  unfold camelCase smallWords
  cases hwords : words key with
  | nil => rfl
  | cons w ws =>
      have hmem : w ∈ words key := by simp [hwords]
      cases w with
      | nil => exact absurd rfl (isWord_of_mem_words hmem).1
      | cons c w =>
          have hc : c < 128 := isAscii_plain h c (mem_plain_of_mem_words hmem (by simp))
          have hsigma : c ≠ 0x3A3 := by
            rintro rfl
            exact absurd hc (by decide)
          have hlower : Text.lower (c :: w) = smallPoint c :: Text.lowerFrom [c] w := by
            rw [Text.lower, Text.lowerFrom, if_neg hsigma, lowerLetter_of_ascii hc]
            rfl
          simp only [List.map_cons, hlower, List.cons_append, List.head?_cons, List.flatten_cons, Option.map_some]

theorem isAscii_capitalize {t : Text} (h : ∀ c ∈ t, c < 128) : ∀ c ∈ capitalize t, c < 128 := by
  cases t with
  | nil => simp [capitalize]
  | cons c t =>
      intro d hd
      rcases List.mem_append.1 hd with hd | hd
      · exact isAscii_upperLetter (h c (by simp)) d hd
      · exact isAscii_lower (fun e he => h e (List.mem_cons_of_mem c he)) d hd

/-- A key in ASCII has a name in ASCII. -/
theorem isAscii_camelCase {key : Text} (h : ∀ c ∈ key, c < 128) : ∀ c ∈ camelCase key, c < 128 := by
  have hwords : ∀ w ∈ smallWords key, ∀ c ∈ w, c < 128 := by
    intro w hw
    obtain ⟨v, hv, rfl⟩ := List.mem_map.1 hw
    exact isAscii_lower fun c hc => isAscii_plain h c (mem_plain_of_mem_words hv hc)
  intro c hc
  unfold camelCase at hc
  split at hc
  · simp at hc
  · next w ws heq =>
      rw [heq] at hwords
      rcases List.mem_append.1 hc with hc | hc
      · exact hwords w (by simp) c hc
      · obtain ⟨u, hu, hcu⟩ := List.mem_flatten.1 hc
        obtain ⟨v, hv, rfl⟩ := List.mem_map.1 hu
        exact isAscii_capitalize (hwords v (List.mem_cons_of_mem w hv)) c hcu

end Naming

end StepForge
