import StepForge.Naming.Case

/-!
# `StepForge.Proofs.Naming.Ascii` — letters of ASCII in the tables

In each table of letters the rows of ASCII stand in front, and all others begin above it. So in ASCII the classes of
words, small letters and capitals can be said without a table, and what is made of ASCII stays in ASCII.

## Contents
- `tables_above_ascii` — where the tables leave ASCII.
- `asciiClass`, `class_eq_asciiClass` — the classes of ASCII.
- `smallPoint`, `capitalPoint`, `lowerLetter_of_ascii`, `upperLetter_of_ascii`, `lower_of_ascii` — letter case in ASCII.
- `isAscii_lower`, `plain_of_ascii`, `isAscii_plain` — texts in ASCII.
-/

namespace StepForge

/-! ## Rows of tables -/

namespace Text

/-- Of a table of which all rows but those in front begin above ASCII, these rows decide in ASCII. -/
theorem inRuns_of_front {n : Nat} {runs : List Run} (h : ∀ r ∈ runs.drop n, 128 ≤ r.first) {c : Nat} (hc : c < 128) :
    inRuns runs c = inRuns (runs.take n) c := by
  have hnone : inRuns (runs.drop n) c = false := by
    rw [inRuns, List.any_eq_false]
    intro r hr
    have hfirst : ¬ r.first ≤ c := Nat.not_le.2 (Nat.lt_of_lt_of_le hc (h r hr))
    simp [Run.contains, hfirst]
  have happend : inRuns (runs.take n ++ runs.drop n) c = (inRuns (runs.take n) c || inRuns (runs.drop n) c) :=
    List.any_append
  rw [List.take_append_drop, hnone, Bool.or_false] at happend
  exact happend

/-- Of the ASCII code points a table moves those of its first row, where all others begin above them. -/
theorem shifted?_of_first {s : Shift} {shifts : List Shift} (h : ∀ r ∈ shifts, 128 ≤ r.first) {c : Nat}
    (hc : c < 128) : shifted? (s :: shifts) c = s.image? c := by
  have hnone : shifts.findSome? (·.image? c) = none := by
    rw [List.findSome?_eq_none_iff]
    intro r hr
    have hfirst : ¬ r.first ≤ c := Nat.not_le.2 (Nat.lt_of_lt_of_le hc (h r hr))
    simp [Shift.image?, Run.contains, hfirst]
  rw [shifted?, List.findSome?_cons, hnone]
  cases s.image? c with
  | none => rfl
  | some d => rfl

/-- A table of which all rows are above ASCII has no row for it. -/
theorem find?_of_above {table : List (Nat × Text)} (h : ∀ row ∈ table, 128 ≤ row.1) {c : Nat} (hc : c < 128) :
    (table.find? fun row => row.1 == c) = none := by
  rw [List.find?_eq_none]
  intro row hrow heq
  rw [beq_iff_eq] at heq
  exact absurd (heq ▸ hc) (Nat.not_lt.2 (h row hrow))

end Text

namespace Naming

/-- Behind their first rows all tables are above ASCII. -/
theorem tables_above_ascii :
    ((∀ r ∈ Text.capitalRuns.drop 1, 128 ≤ r.first) ∧ (∀ r ∈ Text.letterRuns.drop 2, 128 ≤ r.first) ∧
      ∀ r ∈ Text.digitRuns.drop 1, 128 ≤ r.first) ∧
    ((∀ s ∈ Text.lowerShifts.tail, 128 ≤ s.first) ∧ (∀ s ∈ Text.upperShifts.tail, 128 ≤ s.first) ∧
      ∀ row ∈ Text.upperSequences, 128 ≤ row.1) ∧
    ∀ row ∈ Text.plainLatin, 128 ≤ row.1 := by
  decide +kernel

/-! ## Classes -/

/-- The classes of ASCII: capitals, small letters and digits, and whatever else is a break. -/
def asciiClass (c : CodePoint) : CharClass :=
  if 65 ≤ c && c ≤ 90 then .capital
  else if 97 ≤ c && c ≤ 122 then .letter
  else if 48 ≤ c && c ≤ 57 then .digit
  else .separator

/-- **In ASCII the classes are those of ASCII**: of each table the first rows decide. -/
theorem class_eq_asciiClass {c : Nat} (hc : c < 128) : CharClass.of c = asciiClass c := by
  obtain ⟨hcapitals, hletters, hdigits⟩ := tables_above_ascii.1
  have hcapital : Text.isCapital c = (65 ≤ c && c ≤ 90) := by
    rw [Text.isCapital, Text.inRuns_of_front hcapitals hc, show Text.capitalRuns.take 1 = [⟨65, 90, 1⟩] from rfl]
    simp [Text.inRuns, Text.Run.contains, Nat.mod_one]
  have hletter : Text.isLetter c = ((65 ≤ c && c ≤ 90) || (97 ≤ c && c ≤ 122)) := by
    rw [Text.isLetter, Text.inRuns_of_front hletters hc, show Text.letterRuns.take 2 = [⟨65, 90, 1⟩, ⟨97, 122, 1⟩] from rfl]
    simp [Text.inRuns, Text.Run.contains, Nat.mod_one]
  have hdigit : Text.isDigit c = (48 ≤ c && c ≤ 57) := by
    rw [Text.isDigit, Text.inRuns_of_front hdigits hc, show Text.digitRuns.take 1 = [⟨48, 57, 1⟩] from rfl]
    simp [Text.inRuns, Text.Run.contains, Nat.mod_one]
  rw [CharClass.of, hcapital, hletter, hdigit, asciiClass]
  by_cases h : (65 ≤ c && c ≤ 90) = true
  · rw [if_pos h, if_pos h]
  · rw [if_neg h, if_neg h, Bool.not_eq_true] at *
    rw [h, Bool.false_or]

/-! ## Letter case -/

/-- The small form of an ASCII code point. -/
def smallPoint (c : Nat) : Nat := if 65 ≤ c && c ≤ 90 then c + 32 else c

/-- The capital form of an ASCII code point. -/
def capitalPoint (c : Nat) : Nat := if 97 ≤ c && c ≤ 122 then c - 32 else c

/-- Small letters in ASCII. -/
theorem lowerLetter_of_ascii {c : Nat} (hc : c < 128) : Text.lowerLetter c = [smallPoint c] := by
  obtain ⟨hrows, _⟩ := tables_above_ascii.2.1
  have hdot : c ≠ 0x130 := by omega
  rw [Text.lowerLetter, if_neg hdot, show Text.lowerShifts = ⟨65, 90, 1, 97⟩ :: Text.lowerShifts.tail from rfl,
    Text.shifted?_of_first hrows hc]
  by_cases h : 65 ≤ c ∧ c ≤ 90
  · have hadd : 97 + (c - 65) = c + 32 := by omega
    simp [Text.Shift.image?, Text.Run.contains, smallPoint, h, Nat.mod_one, hadd]
  · simp [Text.Shift.image?, Text.Run.contains, smallPoint, h]

/-- Capitals in ASCII. -/
theorem upperLetter_of_ascii {c : Nat} (hc : c < 128) : Text.upperLetter c = [capitalPoint c] := by
  obtain ⟨_, hrows, hsequences⟩ := tables_above_ascii.2.1
  have hnone : Text.sequence? Text.upperSequences c = none := by
    rw [Text.sequence?, Text.find?_of_above hsequences hc, Option.map_none]
  rw [Text.upperLetter, show Text.upperShifts = ⟨97, 122, 1, 65⟩ :: Text.upperShifts.tail from rfl,
    Text.shifted?_of_first hrows hc, hnone]
  by_cases h : 97 ≤ c ∧ c ≤ 122
  · have hsub : 65 + (c - 97) = c - 32 := by omega
    simp [Text.Shift.image?, Text.Run.contains, capitalPoint, h, Nat.mod_one, hsub]
  · simp [Text.Shift.image?, Text.Run.contains, capitalPoint, h]

theorem isAscii_smallPoint {c : Nat} (hc : c < 128) : smallPoint c < 128 := by
  rw [smallPoint]
  split
  · next h =>
      simp only [Bool.and_eq_true, decide_eq_true_eq] at h
      omega
  · exact hc

theorem isAscii_upperLetter {c : Nat} (hc : c < 128) : ∀ d ∈ Text.upperLetter c, d < 128 := by
  intro d hd
  rw [upperLetter_of_ascii hc, List.mem_singleton] at hd
  rw [hd, capitalPoint]
  split
  · exact Nat.lt_of_le_of_lt (Nat.sub_le c 32) hc
  · exact hc

/-! ## Texts -/

/-- In ASCII lower case goes code point by code point. -/
theorem lower_of_ascii {t : Text} (h : ∀ c ∈ t, c < 128) : Text.lower t = t.map smallPoint := by
  have hfrom : ∀ done : Text, Text.lowerFrom done t = t.map smallPoint := by
    induction t with
    | nil => exact fun _ => rfl
    | cons c t ih =>
        intro done
        have hc : c < 128 := h c (by simp)
        have hsigma : c ≠ 0x3A3 := by
          rintro rfl
          exact absurd hc (by decide)
        rw [Text.lowerFrom, if_neg hsigma, lowerLetter_of_ascii hc, ih (fun d hd => h d (List.mem_cons_of_mem c hd))]
        rfl
  exact hfrom []

theorem isAscii_lower {t : Text} (h : ∀ c ∈ t, c < 128) : ∀ d ∈ Text.lower t, d < 128 := by
  intro d hd
  rw [lower_of_ascii h] at hd
  obtain ⟨c, hc, rfl⟩ := List.mem_map.1 hd
  exact isAscii_smallPoint (h c hc)

/-- A key in ASCII has no accents. -/
theorem plain_of_ascii {key : Text} (h : ∀ c ∈ key, c < 128) : plain key = key.filter (· ≠ '\''.toNat) := by
  have hkept : ∀ c < 128, Text.plainLatin? c = none := by
    intro c hc
    rw [Text.plainLatin?, Text.find?_of_above tables_above_ascii.2.2 hc, Option.map_none]
  have hmark : ∀ c : Nat, c < 128 → Text.isCombining c = false := by
    intro c hc
    have hlow : ¬ 0x300 ≤ c ∧ ¬ 0xFE20 ≤ c ∧ ¬ 0x20D0 ≤ c := by omega
    simp [Text.isCombining, hlow]
  have hascii : ∀ c ∈ key.filter (· ≠ '\''.toNat), c < 128 := fun c hc => h c (List.mem_filter.1 hc).1
  unfold plain Text.deburr
  generalize key.filter (· ≠ '\''.toNat) = t at hascii
  have hflat : (t.flatMap fun c => (Text.plainLatin? c).getD [c]) = t := by
    clear h
    induction t with
    | nil => rfl
    | cons c t ih =>
        rw [List.flatMap_cons, hkept c (hascii c (by simp)), ih fun d hd => hascii d (List.mem_cons_of_mem c hd)]
        rfl
  rw [hflat, List.filter_eq_self]
  intro c hc
  simp [hmark c (hascii c hc)]

theorem isAscii_plain {key : Text} (h : ∀ c ∈ key, c < 128) : ∀ c ∈ plain key, c < 128 := by
  intro c hc
  rw [plain_of_ascii h] at hc
  exact h c (List.mem_filter.1 hc).1

end Naming
end StepForge
