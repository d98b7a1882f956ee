import StepForge.Proofs.Naming.Boundaries

/-!
# `StepForge.Proofs.Naming.Rereading` — names that are read again as keys

A name in snake or kebab case holds the words of its key in lower case. In ASCII each of them is a run of small
letters or of digits, and a separator stands between two of them, so the words that are read in the name are the
words it was made of. Names made of it are those that were made of the key.

## Contents
- `IsSmallRun`, `isSmallRun_of_mem` — what the words of a name in ASCII are.
- `cuts_join`, `words_join` — words that are joined are read again.
- `names_read_again` — the names of a name.
-/

namespace StepForge.Naming

/-! ## Words in lower case -/

/-- A word in lower case: small letters, or digits. -/
def IsSmallRun (w : Text) : Prop :=
  w ≠ [] ∧ ((∀ c ∈ w, CharClass.of c = .letter) ∨ ∀ c ∈ w, CharClass.of c = .digit)

/-- In ASCII the small form of a capital is a letter, and anything else stays in its class. -/
theorem class_smallPoint {c : Nat} (hc : c < 128) :
    CharClass.of (smallPoint c) = if CharClass.of c = .capital then .letter else CharClass.of c := by
  rw [class_eq_asciiClass (isAscii_smallPoint hc), class_eq_asciiClass hc, smallPoint]
  by_cases h : 65 ≤ c ∧ c ≤ 90
  · have hlarge : ¬ c + 32 ≤ 90 := by omega
    simp [asciiClass, h, hlarge]
  · simp only [asciiClass, Bool.and_eq_true, decide_eq_true_eq, h, if_false]
    split
    · rfl
    · split <;> rfl

/-- **A word in ASCII becomes small letters or digits.** -/
theorem IsShape.isSmallRun_lower {w : Text} (h : IsShape CharClass.of w) (hascii : ∀ c ∈ w, c < 128) :
    IsSmallRun (Text.lower w) := by
  rw [lower_of_ascii hascii]
  refine ⟨by simp [h.ne_nil], ?_⟩
  cases h with
  | letters hfront _ hw =>
      refine .inl fun d hd => ?_
      obtain ⟨c, hc, rfl⟩ := List.mem_map.1 hd
      rw [class_smallPoint (hascii c hc)]
      rcases List.mem_append.1 hc with hc | hc
      · simp [hfront c (by simpa using hc)]
      · simp [hw c hc]
  | capitals _ hw =>
      refine .inl fun d hd => ?_
      obtain ⟨c, hc, rfl⟩ := List.mem_map.1 hd
      simp [class_smallPoint (hascii c hc), hw c hc]
  | digits _ hw =>
      refine .inr fun d hd => ?_
      obtain ⟨c, hc, rfl⟩ := List.mem_map.1 hd
      simp [class_smallPoint (hascii c hc), hw c hc]

/-- What is read for words is in the text without its accents. -/
theorem isAscii_plain_of_deburr {s : Text} (h : ∀ c ∈ Text.deburr s, c < 128) : ∀ c ∈ plain s, c < 128 := by
  intro c hc
  refine h c ?_
  obtain ⟨hmem, hmark⟩ := List.mem_filter.1 hc
  obtain ⟨d, hd, hcd⟩ := List.mem_flatMap.1 hmem
  exact List.mem_filter.2 ⟨List.mem_flatMap.2 ⟨d, (List.mem_filter.1 hd).1, hcd⟩, hmark⟩

theorem isSmallRun_of_mem {s w : Text} (h : ∀ c ∈ plain s, c < 128) (hw : w ∈ smallWords s) : IsSmallRun w := by
  obtain ⟨v, hv, rfl⟩ := List.mem_map.1 hw
  exact ((cuts_words s).shape v hv).isSmallRun_lower fun c hc => h c (mem_plain_of_mem_words hv hc)

theorem isAscii_smallWord {s w : Text} (h : ∀ c ∈ plain s, c < 128) (hw : w ∈ smallWords s) : ∀ c ∈ w, c < 128 := by
  obtain ⟨v, hv, rfl⟩ := List.mem_map.1 hw
  exact isAscii_lower fun c hc => h c (mem_plain_of_mem_words hv hc)

/-! ## Words that are joined -/

/-- A word in lower case is the first word of a text that begins with it, where a separator or the end is behind. -/
theorem IsSmallRun.isFirst {w r : Text} (h : IsSmallRun w) (hr : ∀ c ∈ r.head?, CharClass.of c = .separator) :
    IsFirst CharClass.of w r := by
  have hstop : ∀ k, k ≠ .separator → r.head?.any (isOf CharClass.of k) = false := by
    intro k hk
    cases r with
    | nil => rfl
    | cons c r => exact head?_any_isOf (hr c rfl) hk.symm
  obtain ⟨hne, hw | hw⟩ := h
  · exact .small hne hw (hstop _ (by simp))
  · exact .digits hne hw (hstop _ (by simp))

/-- **Joined words are the words of the text**: they are cut at the separators and nowhere else. -/
theorem cuts_join {sep : CodePoint} (hsep : CharClass.of sep = .separator) {ws : List Text}
    (h : ∀ w ∈ ws, IsSmallRun w) : Cuts CharClass.of (Text.join [sep] ws) ws := by
  -- On the words: each one ends where the separator in front of the next one stands.
  induction ws with
  | nil => exact .done
  | cons w ws ih =>
      have hw : IsSmallRun w := h w (by simp)
      have hrest := ih fun v hv => h v (List.mem_cons_of_mem w hv)
      cases ws with
      | nil =>
          have hlast : Cuts CharClass.of (w ++ []) [w] := .word (hw.isFirst (by simp)) .done
          rwa [List.append_nil] at hlast
      | cons v ws =>
          rw [Text.join_cons_cons, List.append_assoc, List.singleton_append]
          exact .word (hw.isFirst (by simpa using hsep)) (.separator hsep hrest)

/-- A text has one list of words. -/
theorem Cuts.unique {cls : CodePoint → CharClass} {t : Text} {vs ws : List Text} (hv : Cuts cls t vs)
    (hw : Cuts cls t ws) : vs = ws :=
  hv.segments_eq.symm.trans hw.segments_eq

/-- **The words of a name are read again**, whatever separator of ASCII stands between them. -/
theorem words_join {s : Text} (h : ∀ c ∈ plain s, c < 128) {sep : CodePoint} (hascii : sep < 128)
    (hsep : CharClass.of sep = .separator) (hquote : sep ≠ '\''.toNat) :
    words (Text.join [sep] (smallWords s)) = smallWords s := by
  have hpoint : ∀ c ∈ Text.join [sep] (smallWords s), c < 128 ∧ c ≠ '\''.toNat := by
    intro c hc
    rcases Text.mem_join hc with hc | ⟨w, hw, hc⟩
    · rw [List.mem_singleton.1 hc]
      exact ⟨hascii, hquote⟩
    · refine ⟨isAscii_smallWord h hw c hc, ?_⟩
      rintro rfl
      exact absurd ((smallWords_spec hw).2 _ hc) (by decide)
  have hplain : plain (Text.join [sep] (smallWords s)) = Text.join [sep] (smallWords s) := by
    rw [plain_of_ascii fun c hc => (hpoint c hc).1, List.filter_eq_self]
    exact fun c hc => decide_eq_true (hpoint c hc).2
  have hcuts := cuts_words (Text.join [sep] (smallWords s))
  rw [hplain] at hcuts
  exact hcuts.unique (cuts_join hsep fun w hw => isSmallRun_of_mem h hw)

/-! ## Names of names -/

/-- Words that are small already stay as they are in lower case. -/
theorem smallWords_of_words_eq {s t : Text} (h : words t = smallWords s) : smallWords t = smallWords s := by
  have hsame : ∀ w ∈ smallWords s, Text.lower w = w := fun w hw => Text.lower_eq_self (isSmallWord_of_mem hw).2
  rw [smallWords, h, List.map_congr_left hsame]
  exact List.map_id' _

/-- **Names are read again.** For every key whose text without accents is in ASCII, the words of its names in
snake and in kebab case are the words of the key in lower case. So the names of these names, in all three cases, are
the names of the key. -/
theorem names_read_again {s : Text} (h : ∀ c ∈ Text.deburr s, c < 128) :
    words (snakeCase s) = smallWords s ∧ words (kebabCase s) = smallWords s ∧
      (snakeCase (snakeCase s) = snakeCase s ∧ kebabCase (kebabCase s) = kebabCase s) ∧
      (snakeCase (kebabCase s) = snakeCase s ∧ kebabCase (snakeCase s) = kebabCase s) ∧
      camelCase (snakeCase s) = camelCase s ∧ camelCase (kebabCase s) = camelCase s := by
  have hplain := isAscii_plain_of_deburr h
  have hsnake : words (snakeCase s) = smallWords s := words_join hplain (by decide) (class_eq_asciiClass (by decide)) (by decide)
  have hkebab : words (kebabCase s) = smallWords s := words_join hplain (by decide) (class_eq_asciiClass (by decide)) (by decide)
  have hsnake' := smallWords_of_words_eq hsnake
  have hkebab' := smallWords_of_words_eq hkebab
  exact ⟨hsnake, hkebab, ⟨(snakeCase_eq_iff _ _).2 hsnake', (kebabCase_eq_iff _ _).2 hkebab'⟩,
    ⟨(snakeCase_eq_iff _ _).2 hkebab', (kebabCase_eq_iff _ _).2 hsnake'⟩, camelCase_congr hsnake',
    camelCase_congr hkebab'⟩

/-- A key with accents, capitals and a number, and its names. -/
theorem cremeBrulee_read_again :
    (∀ c ∈ Text.deburr "CrèmeBrûlée HTTP2", c < 128) ∧
      snakeCase "CrèmeBrûlée HTTP2" = ("creme_brulee_http_2" : Text) ∧
      words "creme_brulee_http_2" = smallWords "CrèmeBrûlée HTTP2" ∧
      camelCase "creme_brulee_http_2" = camelCase "CrèmeBrûlée HTTP2" := by
  have hascii : ∀ c ∈ Text.deburr "CrèmeBrûlée HTTP2", c < 128 := by decide +kernel
  have hsnake : snakeCase "CrèmeBrûlée HTTP2" = ("creme_brulee_http_2" : Text) := by decide +kernel
  obtain ⟨hwords, _, _, _, hcamel, _⟩ := names_read_again hascii
  rw [hsnake] at hwords hcamel
  exact ⟨hascii, hsnake, hwords, hcamel⟩

end StepForge.Naming
