import StepForge.Text.Basic

/-!
# `StepForge.Proofs.Text.Literal` — the code points of a literal

The code points of a string are decoded out of its bytes, one position after another. The characters of a
literal are at hand without this, so a long literal is better replaced by them before it is computed with.

## Contents
- `ofString_ofList`, `ofString_eq` — the code points of a string that is made of characters.
- `toNat_mem_ofString` — the characters of a string by their code points.
-/

namespace StepForge.Text

theorem ofString_ofList (cs : List Char) : ofString (String.ofList cs) = cs.map Char.toNat := by
  rw [ofString, String.toList_ofList]

/-- The code points of a literal; that it is made of its characters holds by `rfl`. -/
theorem ofString_eq {s : String} {cs : List Char} (h : s = String.ofList cs) : ofString s = cs.map Char.toNat := by
  rw [h, ofString_ofList]

/-- A character is in a string exactly if its code point is in the text. -/
theorem toNat_mem_ofString {c : Char} {s : String} : c.toNat ∈ ofString s ↔ c ∈ s.toList := by
  rw [ofString, List.mem_map]
  constructor
  · rintro ⟨d, hd, heq⟩
    rwa [← Char.toNat_inj.1 heq]
  · intro hc
    exact ⟨c, hc, rfl⟩

end StepForge.Text
