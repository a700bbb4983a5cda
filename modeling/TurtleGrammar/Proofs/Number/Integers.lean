import TurtleGrammar.Proofs.Number.Order
import TurtleGrammar.Proofs.Number.Shortest

/-! Integers as floating-point numbers. Those are refused that would be rounded to 2 to the power
1024 or more, and the others keep their sign. -/

namespace TurtleGrammar.Number.Binary64

open Float.Model.UnpackedFloat

variable {i : Int} {x : Float} {negative : Bool} {bits n : Nat}

/-! ### The range -/

/-- The quotient is rounded to an even number or beyond from half a unit below on. -/
theorem le_roundHalfEven_iff {k d : Nat} (hd : 0 < d) (hk : k % 2 = 0) :
    k ≤ roundHalfEven n d ↔ 2 * (k * d) ≤ 2 * n + d := by
  obtain ⟨habove, hbelow⟩ := roundHalfEven_near n d hd
  constructor
  · intro h
    have := Nat.mul_le_mul_right d h
    omega
  · intro h
    by_contra hlt
    have hmul : (roundHalfEven n d + 1) * d ≤ k * d := Nat.mul_le_mul_right d (not_le.mp hlt)
    rw [Nat.succ_mul] at hmul
    have heven := roundHalfEven_even n d hd (.inr (by omega))
    have heq : (roundHalfEven n d + 1) * d = k * d := by rw [Nat.succ_mul]; omega
    have := Nat.eq_of_mul_eq_mul_right hd heq
    omega

theorem roundHalfEven_le_of_div_lt {k d : Nat} (h : n / d < k) : roundHalfEven n d ≤ k := by
  simp only [roundHalfEven]
  split
  · omega
  · split <;> omega

/-- The pattern nearest to a number of so many bits. -/
theorem nearestBits_le_of_lt {k units : Nat} (h : units < 2 ^ (k + 53)) :
    nearestBits units 1 ≤ (k + 2) * 2 ^ 52 := by
  obtain ⟨shift, hshift⟩ : ∃ shift, (units / 1).log2 - 52 = shift := ⟨_, rfl⟩
  rw [nearestBits_eq hshift, Nat.one_mul]
  rw [Nat.div_one] at hshift
  by_cases hzero : units = 0
  · have hshift0 : shift = 0 := by rw [← hshift, hzero, Nat.log2_zero]
    have hround : roundHalfEven units (2 ^ shift) = 0 := by rw [hzero, hshift0]; decide
    omega
  · have hlog : units.log2 < k + 53 := (Nat.log2_lt hzero).mpr h
    have hround : roundHalfEven units (2 ^ shift) ≤ 2 ^ 53 := by
      refine roundHalfEven_le_of_div_lt ((Nat.div_lt_iff_lt_mul (Nat.two_pow_pos _)).mpr ?_)
      rw [← Nat.pow_add]
      exact (Nat.log2_lt hzero).mp (by omega)
    have hle : shift * 2 ^ 52 ≤ k * 2 ^ 52 := Nat.mul_le_mul_right _ (by omega)
    rw [Nat.add_mul]
    exact Nat.add_le_add hle hround

/-- The first integers that are too large lie halfway between the greatest significand of 53 bits
and the next number, as the even of the two is the next one. -/
theorem nearestBits_lt_iff {d a b m j k e : Nat} (n : Nat) (hd : d = 2 ^ m)
    (ha : a = 2 ^ j) (hb : b = 2 ^ k) (hk : k = j + 54) (he : e = m + j + 3) :
    nearestBits (n * d) 1 < e * Nat.pow 2 52 ↔ n + a < b := by
  subst hd ha hb hk he
  simp only [Nat.pow_eq]
  have hpos := Nat.two_pow_pos m
  have hpos' := Nat.two_pow_pos j
  have hpow : 2 ^ (j + 54) = 2 * 2 ^ (j + 53) := Nat.pow_succ'
  have hsmall : 2 ^ j < 2 ^ (j + 53) := Nat.pow_lt_pow_right (by decide) (by omega)
  by_cases hlow : n < 2 ^ (j + 53)
  · have hunits : n * 2 ^ m < 2 ^ (m + j + 53) := by
      rw [Nat.add_assoc, Nat.add_comm m, Nat.pow_add]
      exact Nat.mul_lt_mul_of_pos_right hlow hpos
    have hbits := nearestBits_le_of_lt hunits
    exact iff_of_true (by omega) (by omega)
  · by_cases hhigh : n < 2 ^ (j + 54)
    · have hlog : (n * 2 ^ m / 1).log2 - 52 = m + j + 1 := by
        have hzero : n * 2 ^ m ≠ 0 := Nat.mul_ne_zero (by omega) hpos.ne'
        have : (n * 2 ^ m).log2 = j + 53 + m := by
          rw [Nat.log2_eq_iff hzero, Nat.pow_add, Nat.add_right_comm, Nat.pow_add 2 (j + 53 + 1)]
          exact ⟨Nat.mul_le_mul_right _ (not_lt.mp hlow), Nat.mul_lt_mul_of_pos_right hhigh hpos⟩
        rw [Nat.div_one, this]
        omega
      have hhalf := le_roundHalfEven_iff (n := n * 2 ^ m) (k := 2 ^ 53)
        (Nat.two_pow_pos (m + j + 1)) (by decide)
      have hscale : 2 ^ (m + j + 1) = 2 * (2 ^ j * 2 ^ m) := by
        rw [← Nat.pow_add, Nat.pow_succ', Nat.add_comm m]
      have hscale' : 2 ^ 53 * (2 ^ j * 2 ^ m) = 2 ^ (j + 53) * 2 ^ m := by
        rw [Nat.add_comm j, Nat.pow_add 2 53, Nat.mul_assoc]
      have hdivide : 2 ^ (j + 54) * 2 ^ m ≤ (n + 2 ^ j) * 2 ^ m ↔ 2 ^ (j + 54) ≤ n + 2 ^ j :=
        Nat.mul_le_mul_right_iff hpos
      rw [Nat.add_mul, hpow, Nat.mul_assoc, ← hscale'] at hdivide
      rw [nearestBits_eq hlog, Nat.one_mul]
      rw [hscale] at hhalf ⊢
      omega
    · have hunits : 2 ^ (m + j + 2 + 52) ≤ n * 2 ^ m / 1 := by
        rw [Nat.div_one, Nat.add_assoc, Nat.add_assoc, Nat.add_comm m, Nat.pow_add]
        exact Nat.mul_le_mul_right _ (not_lt.mp hhigh)
      have hbits := le_nearestBits hunits
      exact iff_of_false (by omega) (by omega)

/-- An integer is in the range of the floating-point numbers: below what lies halfway between the
greatest of them and 2 to the power 1024. -/
def InRange (i : Int) : Prop := i.natAbs + 2 ^ 970 < 2 ^ 1024

theorem ofInt?_eq_none_iff : ofInt? i = none ↔ ¬InRange i := by
  have hbits : nearestBits (i.natAbs * unitsPerOne) 1 < 2047 * Nat.pow 2 52 ↔ InRange i :=
    nearestBits_lt_iff (m := 1074) (j := 970) (k := 1024) i.natAbs  (by decide +kernel)
      (by decide +kernel) (by decide +kernel) rfl rfl
  rw [ofInt?, nearest?, overflowBits]
  simp only [ite_eq_right_iff, reduceCtorEq, imp_false, hbits]

/-! ### The sign -/

theorem toBits_ofBits {b : UInt64} (h : b.toNat / 2 ^ 52 % 2 ^ 11 ≠ 2047) :
    (Float.ofBits b).toBits = b := by
  have hnumber : @isNaNBits .binary64 b.toBitVec = false := by
    refine Bool.eq_false_iff.mpr fun hnan => h ?_
    have hexponent := congrArg BitVec.toNat (of_decide_eq_true hnan).1
    rw [unpackExponent_def, BitVec.extractLsb'_toNat, Nat.shiftRight_eq_div_pow] at hexponent
    exact hexponent
  show UInt64.ofBitVec (pack .binary64 (unpack .binary64 b.toBitVec)) = b
  rw [pack_unpack, hnumber]
  rfl

/-- The number of a finite pattern has some units unless the pattern is zero. -/
theorem ofFloat_signed (h : bits < overflowBits) (negative : Bool) :
    ∃ units, ofFloat (signed negative bits) = finite negative units ∧ (0 < units ↔ 0 < bits) := by
  have hbits : bits < 2047 * 2 ^ 52 := h
  obtain ⟨whole, hwhole⟩ : ∃ whole, bits + (if negative then Nat.pow 2 63 else 0) = whole :=
    ⟨_, rfl⟩
  have hcases : negative = true ∧ whole = bits + 2 ^ 63 ∨ negative = false ∧ whole = bits := by
    cases negative with
    | false => exact .inr ⟨rfl, hwhole.symm⟩
    | true => exact .inl ⟨rfl, hwhole.symm⟩
  have hnat : (UInt64.ofNat whole).toNat = whole := UInt64.toNat_ofNat_of_lt' (by
    show whole < 2 ^ 64
    omega)
  have hexponent : ¬whole / 2 ^ 52 % 2 ^ 11 = 2047 := by omega
  have hsign : (whole / 2 ^ 63 % 2 == 1) = negative := by
    rcases hcases with ⟨rfl, h⟩ | ⟨rfl, h⟩
    · rw [beq_iff_eq]; omega
    · rw [beq_eq_false_iff_ne]; omega
  rw [ofFloat, signed, hwhole, toBits_ofBits (by rw [hnat]; exact hexponent), hnat, ofBits]
  simp only [Nat.pow_eq, if_neg hexponent, hsign]
  split
  · next hzero => exact ⟨_, rfl, by omega⟩
  · next hzero =>
    refine ⟨_, rfl, iff_of_true ?_ (by omega)⟩
    exact Nat.mul_pos (by omega) (Nat.two_pow_pos _)

/-- An integer is positive as a floating-point number when it is positive. -/
theorem pos_ofInt?_iff (h : ofInt? i = some x) : 0 < x ↔ 0 < i := by
  rw [ofInt?, nearest?] at h
  split at h
  case isFalse => cases h
  case isTrue hlt =>
    cases h
    obtain ⟨units, hunits, hunitsPos⟩ := ofFloat_signed hlt (i < 0)
    have hbits : 0 < nearestBits (i.natAbs * unitsPerOne) 1 ↔ i ≠ 0 := by
      constructor
      · rintro h rfl
        exact absurd h (by decide +kernel)
      · intro h
        refine nearestBits_pos ?_
        rw [Nat.div_one]
        exact Nat.mul_ne_zero (Int.natAbs_ne_zero.mpr h) unitsPerOne_pos.ne'
    show 0 < signed (i < 0) _ ↔ _
    rw [pos_iff, hunits]
    constructor
    · rintro (h | ⟨units', hpos, h⟩)
      · cases h
      · obtain ⟨hsign, rfl⟩ := finite.inj h
        have hnonneg := not_lt.mp (of_decide_eq_false hsign)
        exact lt_of_le_of_ne hnonneg (hbits.mp (hunitsPos.mp hpos)).symm
    · intro h
      refine .inr ⟨units, hunitsPos.mpr (hbits.mpr h.ne'), ?_⟩
      rw [decide_eq_false h.not_gt]

end TurtleGrammar.Number.Binary64
