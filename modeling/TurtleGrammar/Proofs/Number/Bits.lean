import Mathlib
import TurtleGrammar.Number.Binary64

/-! The bits of floating-point numbers. The pattern nearest to a quotient depends on its value only,
is zero for less than half a unit and overflows beyond the finite numbers, and the pattern nearest
to a finite number is its own. -/

namespace TurtleGrammar.Number

/-! ### Rounding -/

section Rounding

variable {k n d q : Nat}

theorem roundHalfEven_mul (hk : 0 < k) : roundHalfEven (k * n) (k * d) = roundHalfEven n d := by
  have hleft : 2 * (k * (n % d)) < k * d ↔ 2 * (n % d) < d := by
    rw [Nat.mul_left_comm, Nat.mul_lt_mul_left hk]
  have hright : k * d < 2 * (k * (n % d)) ↔ d < 2 * (n % d) := by
    rw [Nat.mul_left_comm, Nat.mul_lt_mul_left hk]
  simp only [roundHalfEven, Nat.mul_div_mul_left _ _ hk, Nat.mul_mod_mul_left, hleft, hright]

theorem roundHalfEven_mul_self (hd : 0 < d) : roundHalfEven (q * d) d = q := by
  simp [roundHalfEven, Nat.mul_div_cancel _ hd, hd]

theorem div_le_roundHalfEven (n d : Nat) : n / d ≤ roundHalfEven n d := by
  simp only [roundHalfEven]
  split
  · omega
  · split <;> omega

theorem roundHalfEven_of_small (h : 2 * n < d) : roundHalfEven n d = 0 := by
  have hlt : n < d := by omega
  simp [roundHalfEven, Nat.div_eq_of_lt hlt, Nat.mod_eq_of_lt hlt, h]

end Rounding

namespace Binary64

/-! ### The nearest pattern -/

variable {k n d n' d' units bits : Nat} {negative : Bool}

theorem nearestBits_mul (hk : 0 < k) : nearestBits (k * n) (k * d) = nearestBits n d := by
  simp only [nearestBits, Nat.mul_div_mul_left _ _ hk, Nat.mul_assoc, roundHalfEven_mul hk]

/-- Equal quotients have the same nearest pattern. -/
theorem nearestBits_congr (hd : 0 < d) (hd' : 0 < d') (h : n * d' = n' * d) :
    nearestBits n d = nearestBits n' d' := by
  rw [← nearestBits_mul hd', ← nearestBits_mul (n := n') hd, Nat.mul_comm d' n, h,
    Nat.mul_comm n' d, Nat.mul_comm d' d]

theorem nearestBits_of_small (h : 2 * n < d) : nearestBits n d = 0 := by
  have hlt : n < d := by omega
  simp [nearestBits, Nat.div_eq_of_lt hlt, roundHalfEven_of_small h]

theorem nearestBits_eq {shift : Nat} (h : (n / d).log2 - 52 = shift) :
    nearestBits n d = shift * 2 ^ 52 + roundHalfEven n (d * 2 ^ shift) := by
  subst h
  rfl

/-- A quotient of more than 53 bits has at least the exponent that these bits give it. -/
theorem le_nearestBits {s : Nat} (h : 2 ^ (s + 52) ≤ n / d) :
    (s + 1) * 2 ^ 52 ≤ nearestBits n d := by
  have hq : n / d ≠ 0 := Nat.ne_of_gt (Nat.lt_of_lt_of_le (Nat.two_pow_pos _) h)
  have hlog : s + 52 ≤ (n / d).log2 := (Nat.le_log2 hq).mpr h
  obtain ⟨shift, hshift⟩ : ∃ shift, (n / d).log2 = shift + 52 := ⟨(n / d).log2 - 52, by omega⟩
  have hround : 2 ^ 52 ≤ roundHalfEven n (d * 2 ^ shift) := by
    refine Nat.le_trans ?_ (div_le_roundHalfEven _ _)
    rw [← Nat.div_div_eq_div_mul, Nat.le_div_iff_mul_le (Nat.two_pow_pos _), ← Nat.pow_add,
      Nat.add_comm, ← hshift]
    exact Nat.log2_self_le hq
  have hmono : s * 2 ^ 52 ≤ shift * 2 ^ 52 := Nat.mul_le_mul_right _ (by omega)
  have hshift52 : (n / d).log2 - 52 = shift := by omega
  rw [nearestBits_eq hshift52, Nat.succ_mul]
  exact Nat.add_le_add hmono hround

/-- From 2 to the power 1024 on no number is finite. -/
theorem overflow_of_large (h : 2 ^ (2046 + 52) ≤ n / d) : overflowBits ≤ nearestBits n d :=
  le_nearestBits h

/-! ### Patterns -/

/-- The floating-point number of a pattern and a sign. -/
def signed (negative : Bool) (bits : Nat) : Float :=
  Float.ofBits (UInt64.ofNat (bits + if negative then Nat.pow 2 63 else 0))

/-- The nearest pattern to the value of a finite pattern is the pattern itself. -/
theorem nearestBits_units {e f : Nat} (hf : f < 2 ^ 52) :
    nearestBits (if e = 0 then f else (2 ^ 52 + f) * 2 ^ (e - 1)) 1 = e * 2 ^ 52 + f := by
  by_cases he : e = 0
  · subst he
    have hlog : f.log2 - 52 = 0 := by
      by_cases hf0 : f = 0
      · simp [hf0]
      · have := (Nat.log2_lt hf0).mpr hf
        omega
    simp [nearestBits, hlog, roundHalfEven, Nat.mod_one]
  · obtain ⟨k, rfl⟩ := Nat.exists_eq_succ_of_ne_zero he
    have hpos := Nat.two_pow_pos k
    have hlog : ((2 ^ 52 + f) * 2 ^ k).log2 = k + 52 := by
      rw [Nat.log2_eq_iff (Nat.mul_ne_zero (by omega) hpos.ne'), Nat.add_assoc k, Nat.pow_add,
        Nat.pow_add, Nat.mul_comm (2 ^ k), Nat.mul_comm (2 ^ k)]
      exact ⟨Nat.mul_le_mul_right _ (by omega), Nat.mul_lt_mul_of_pos_right (by omega) hpos⟩
    have hshift : ((2 ^ 52 + f) * 2 ^ k / 1).log2 - 52 = k := by rw [Nat.div_one, hlog]; omega
    rw [if_neg he, Nat.succ_sub_one, nearestBits_eq hshift, Nat.one_mul,
      roundHalfEven_mul_self hpos]
    omega

/-! ### Floating-point numbers -/

/-- There is one floating-point value that is not a number. -/
theorem eq_notANumber {x : Float} (he : x.toBits.toNat / 2 ^ 52 % 2 ^ 11 = 2047)
    (hf : x.toBits.toNat % 2 ^ 52 ≠ 0) : x = notANumber := by
  have hbits : x.toBits.toBitVec = Float.Model.UnpackedFloat.packedNaN .binary64 := by
    refine x.toModel.valid.eq_packedNaN ?_ fun hzero => hf ?_
    · rw [Float.Model.UnpackedFloat.unpackExponent_def, BitVec.toNat_inj.symm,
        BitVec.extractLsb'_toNat, Nat.shiftRight_eq_div_pow]
      exact he
    · rw [Float.Model.UnpackedFloat.unpackMantissa_def, BitVec.toNat_inj.symm,
        BitVec.extractLsb'_toNat] at hzero
      exact hzero
  have hnan : Float.Model.UnpackedFloat.packedNaN .binary64 =
      (0x7FF8000000000000 : UInt64).toBitVec := by decide +kernel
  rw [← Float.ofBits_toBits x, UInt64.toBitVec_inj.mp (hbits.trans hnan), notANumber]

theorem ofBits_cases (hbits : bits < 2 ^ 64) :
    ofBits bits = nan ∧ bits / 2 ^ 52 % 2 ^ 11 = 2047 ∧ bits % 2 ^ 52 ≠ 0 ∨
    (∃ negative, ofBits bits = infinite negative ∧
      bits = overflowBits + if negative then Nat.pow 2 63 else 0) ∨
    ∃ negative units, ofBits bits = finite negative units ∧ nearestBits units 1 < overflowBits ∧
      bits = nearestBits units 1 + if negative then Nat.pow 2 63 else 0 := by
  have hsum : bits = bits / 2 ^ 52 % 2 ^ 11 * 2 ^ 52 + bits % 2 ^ 52 +
      if bits / 2 ^ 63 % 2 == 1 then 2 ^ 63 else 0 := by
    split
    · next h =>
      rw [beq_iff_eq] at h
      omega
    · next h =>
      rw [beq_iff_eq] at h
      omega
  have hunits := nearestBits_units (e := bits / 2 ^ 52 % 2 ^ 11) (f := bits % 2 ^ 52)
    (Nat.mod_lt _ (Nat.two_pow_pos 52))
  have hmod := Nat.mod_lt bits (Nat.two_pow_pos 52)
  by_cases he : bits / 2 ^ 52 % 2 ^ 11 = 2047
  · by_cases hf : bits % 2 ^ 52 = 0
    · refine .inr (.inl ⟨bits / 2 ^ 63 % 2 == 1, ?_, ?_⟩)
      · simp only [ofBits, Nat.pow_eq, if_pos he, if_pos hf]
      · rwa [he, hf] at hsum
    · refine .inl ⟨?_, he, hf⟩
      simp only [ofBits, Nat.pow_eq, if_pos he, if_neg hf]
  · refine .inr (.inr ⟨bits / 2 ^ 63 % 2 == 1, _, ?_, ?_, hsum.trans (by rw [hunits]; rfl)⟩)
    · simp only [ofBits, Nat.pow_eq, if_neg he]
      split <;> rfl
    · rw [hunits, overflowBits, Nat.pow_eq]
      omega

/-- A floating-point number is the one value that is not a number, or an infinity, or the number of
the pattern nearest to its units. -/
theorem ofFloat_cases (x : Float) :
    ofFloat x = nan ∧ x = notANumber ∨
    (∃ negative, ofFloat x = infinite negative ∧ x = infinity negative) ∨
    ∃ negative units, ofFloat x = finite negative units ∧ nearestBits units 1 < overflowBits ∧
      x = signed negative (nearestBits units 1) := by
  have hx : x = Float.ofBits (UInt64.ofNat x.toBits.toNat) := by
    rw [UInt64.ofNat_toNat, Float.ofBits_toBits]
  rcases ofBits_cases x.toBits.toNat_lt with ⟨h, he, hf⟩ | ⟨negative, h, hbits⟩ |
    ⟨negative, units, h, hlt, hbits⟩
  · exact .inl ⟨h, eq_notANumber he hf⟩
  · exact .inr (.inl ⟨negative, h, by rw [hx, hbits, infinity]⟩)
  · exact .inr (.inr ⟨negative, units, h, hlt, by rw [hx, hbits, signed]⟩)

end Binary64

end TurtleGrammar.Number
