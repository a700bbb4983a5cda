import TurtleGrammar.Text.Blank
import TurtleGrammar.Text.Letter

/-! Letters beside blanks. No letter of any script is blank, and of the first 128 characters only
the basic letters are letters. -/

namespace TurtleGrammar.Text

variable {c : Char}

theorem isUpper_iff : c.isUpper = true ↔ 65 ≤ c.toNat ∧ c.toNat ≤ 90 := by
  change decide (c.val ≥ 'A'.val ∧ c.val ≤ 'Z'.val) = true ↔ _
  simp [UInt32.le_iff_toNat_le]

theorem isLower_iff : c.isLower = true ↔ 97 ≤ c.toNat ∧ c.toNat ≤ 122 := by
  change (decide (c.val ≥ 'a'.val) && decide (c.val ≤ 'z'.val)) = true ↔ _
  simp [UInt32.le_iff_toNat_le]

theorem isAlpha_iff : c.isAlpha = true ↔ c.isUpper = true ∨ c.isLower = true :=
  Bool.or_eq_true_iff

/-- The blank characters as ranges of code points. -/
def blankRanges : List (Nat × Nat) := [
  (0x9, 0xD), (0x1C, 0x20), (0x85, 0x85), (0xA0, 0xA0), (0x1680, 0x1680), (0x2000, 0x200A),
  (0x2028, 0x2029), (0x202F, 0x202F), (0x205F, 0x205F), (0x3000, 0x3000)]

theorem isBlank_eq_inRanges (c : Char) : isBlank c = inRanges blankRanges c.toNat := by
  rw [Bool.eq_iff_iff]
  simp [isBlank, inRanges, blankRanges]
  omega

theorem letterRanges_apart :
    ∀ r ∈ letterRanges, 128 ≤ r.1 ∧ ∀ b ∈ blankRanges, r.2 < b.1 ∨ b.2 < r.1 := by
  decide +kernel

theorem isAlpha_or_inRanges (h : isLetter c = true) :
    c.isAlpha = true ∨ ∃ r ∈ letterRanges, r.1 ≤ c.toNat ∧ c.toNat ≤ r.2 := by
  rw [isLetter, Bool.or_eq_true, inRanges_iff] at h
  exact h

theorem isAlpha_iff_of_isLetter (h : isLetter c = true) :
    c.isAlpha = true ↔ c.toNat < 128 := by
  constructor
  · intro halpha
    rw [isAlpha_iff, isUpper_iff, isLower_iff] at halpha
    omega
  · intro hlt
    rcases isAlpha_or_inRanges h with halpha | ⟨r, hr, hlow, -⟩
    · exact halpha
    · have := (letterRanges_apart r hr).1
      omega

theorem isBlank_of_isLetter (h : isLetter c = true) : isBlank c = false := by
  refine Bool.eq_false_iff.mpr fun hblank => ?_
  rw [isBlank_eq_inRanges, inRanges_iff] at hblank
  obtain ⟨b, hb, hlow, hhigh⟩ := hblank
  rcases isAlpha_or_inRanges h with halpha | ⟨r, hr, hlow', hhigh'⟩
  · rw [isAlpha_iff, isUpper_iff, isLower_iff] at halpha
    have hbasic : ∀ b ∈ blankRanges, b.2 ≤ 32 ∨ 128 ≤ b.1 := by decide
    have := hbasic b hb
    omega
  · have := (letterRanges_apart r hr).2 b hb
    omega

end TurtleGrammar.Text
