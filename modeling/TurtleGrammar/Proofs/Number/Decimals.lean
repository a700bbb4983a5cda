import TurtleGrammar.Number.Fixed
import TurtleGrammar.Proofs.Number.Order

/-! Rounding to a number of decimals. The exact value of a finite floating-point number is a
rational number; the rounded value is a whole number of the units that the decimals count in, at
most half a unit away, and the even one where two are equally near. -/

namespace TurtleGrammar.Number

/-! ### The nearest integer -/

/-- An integer is nearest to a number. Of two equally near, the even one is. -/
structure IsNearest (x : ℚ) (n : ℤ) : Prop where
  near : |x - n| ≤ 1 / 2
  even : |x - n| = 1 / 2 → Even n

namespace IsNearest

variable {x y : ℚ} {m n : ℤ}

theorem neg (h : IsNearest x n) : IsNearest (-x) (-n) := by
  have habs : |-x - (-n : ℤ)| = |x - n| := by
    rw [Int.cast_neg, neg_sub_neg, abs_sub_comm]
  exact ⟨habs ▸ h.near, fun heq => (h.even (habs ▸ heq)).neg⟩

/-- If the integers were in the other order, both numbers would be halfway between them, and both
integers even. -/
theorem mono (hx : IsNearest x m) (hy : IsNearest y n) (h : x ≤ y) : m ≤ n := by
  by_contra hlt
  obtain ⟨hleft, hright⟩ := abs_le.mp hx.near
  obtain ⟨hleft', hright'⟩ := abs_le.mp hy.near
  have hcast : (n : ℚ) + 1 ≤ m := by exact_mod_cast not_le.mp hlt
  have hm : (m : ℚ) = n + 1 := by linarith
  have hevenX := hx.even (by rw [abs_sub_comm, abs_of_nonneg] <;> linarith)
  have hevenY := hy.even (by rw [abs_of_nonneg] <;> linarith)
  have hsucc : m = n + 1 := by exact_mod_cast hm
  rw [hsucc, Int.even_add_one] at hevenX
  exact hevenX hevenY

end IsNearest

theorem roundHalfEven_isNearest (n : Nat) {d : Nat} (hd : 0 < d) :
    IsNearest (n / d : ℚ) (roundHalfEven n d) := by
  have hd' : (0 : ℚ) < d := by exact_mod_cast hd
  obtain ⟨habove, hbelow⟩ := roundHalfEven_near n d hd
  have habove' : 2 * ((roundHalfEven n d : ℚ) * d) ≤ 2 * n + d := by exact_mod_cast habove
  have hbelow' : 2 * (n : ℚ) ≤ 2 * ((roundHalfEven n d : ℚ) * d) + d := by exact_mod_cast hbelow
  have hdiff : (n / d : ℚ) - ((roundHalfEven n d : ℤ) : ℚ) = (n - roundHalfEven n d * d) / d := by
    rw [Int.cast_natCast, sub_div, mul_div_cancel_right₀ _ hd'.ne']
  constructor
  · rw [hdiff, abs_div, abs_of_pos hd', div_le_iff₀ hd', abs_le]
    constructor <;> linarith
  · rw [hdiff, abs_div, abs_of_pos hd', div_eq_iff hd'.ne']
    intro h
    have hhalf : 2 * n + d = 2 * (roundHalfEven n d * d) ∨
        2 * n = 2 * (roundHalfEven n d * d) + d := by
      rcases eq_or_eq_neg_of_abs_eq h with h | h
      · exact .inr (by exact_mod_cast (by linarith : (2 * n : ℚ) = 2 * (roundHalfEven n d * d) + d))
      · exact .inl (by exact_mod_cast (by linarith : (2 * n + d : ℚ) = 2 * (roundHalfEven n d * d)))
    exact_mod_cast Nat.even_iff.mpr (roundHalfEven_even n d hd hhalf)

/-! ### Exact values -/

namespace Binary64

variable {x y : Float} {negative : Bool} {units : Nat}

/-- The exact value of a finite floating-point number. -/
def value? : Binary64 → Option ℚ
  | finite negative units => some (counted negative units / unitsPerOne)
  | _ => none

theorem exists_of_value? {v : ℚ} (h : (ofFloat x).value? = some v) :
    ∃ negative units, ofFloat x = finite negative units ∧
      v = counted negative units / unitsPerOne := by
  cases hx : ofFloat x with
  | nan => rw [hx] at h; cases h
  | infinite _ => rw [hx] at h; cases h
  | finite negative units =>
    rw [hx] at h
    exact ⟨negative, units, rfl, (Option.some.inj h).symm⟩

/-- Finite floating-point numbers are in the order of their exact values. -/
theorem value_le_of_le {v w : ℚ} (hv : (ofFloat x).value? = some v)
    (hw : (ofFloat y).value? = some w) (h : x ≤ y) : v ≤ w := by
  obtain ⟨p, q, hp, hq, hpq⟩ := le_iff.mp h
  obtain ⟨negative, units, hx, rfl⟩ := exists_of_value? hv
  obtain ⟨negative', units', hy, rfl⟩ := exists_of_value? hw
  rw [hx] at hp
  rw [hy] at hq
  cases hp
  cases hq
  rw [WithBot.coe_le_coe, WithTop.coe_le_coe] at hpq
  exact div_le_div_of_nonneg_right (by exact_mod_cast hpq) (by positivity)

end Binary64

/-! ### Decimals -/

/-- A value rounded to so many decimals. -/
def RoundsTo (places : Nat) (v r : ℚ) : Prop :=
  ∃ count : ℤ, IsNearest (v * 10 ^ places) count ∧ r = count / 10 ^ places

theorem RoundsTo.mono {places : Nat} {v w r s : ℚ} (hr : RoundsTo places v r)
    (hs : RoundsTo places w s) (h : v ≤ w) : r ≤ s := by
  obtain ⟨m, hm, rfl⟩ := hr
  obtain ⟨n, hn, rfl⟩ := hs
  have hmn := hm.mono hn (mul_le_mul_of_nonneg_right h (by positivity))
  exact div_le_div_of_nonneg_right (by exact_mod_cast hmn) (by positivity)

/-- A value of more than half a unit of the last decimal does not round to zero. -/
theorem RoundsTo.pos {places : Nat} {v r : ℚ} (hr : RoundsTo places v r)
    (h : 1 / 2 < v * 10 ^ places) : 0 < r := by
  obtain ⟨count, hcount, rfl⟩ := hr
  have hnear := (abs_le.mp hcount.near).2
  have hpos : (0 : ℚ) < count := by linarith
  positivity

theorem scaled_isNearest (places : Nat) (negative : Bool) (units : Nat) :
    IsNearest ((Binary64.counted negative units / Binary64.unitsPerOne : ℚ) * 10 ^ places)
      (Binary64.counted negative (Fixed.scaled places units)) := by
  rw [Fixed.scaled, Nat.pow_eq]
  have hpos := Binary64.unitsPerOne_pos
  generalize Binary64.unitsPerOne = d at hpos ⊢
  have h := roundHalfEven_isNearest (units * 10 ^ places) hpos
  rw [Nat.cast_mul, Nat.cast_pow, Nat.cast_ofNat, mul_div_right_comm] at h
  cases negative with
  | false => exact h
  | true => simpa [Binary64.counted, neg_div] using h.neg

/-! ### The number of digits -/

namespace Fixed

variable {places units k : Nat} {negative : Bool} {x : Float}

theorem digitCount_le_iff {n : Nat} : digitCount n ≤ k ↔ n < 10 ^ k := by
  rw [digitCount]
  split
  · next h => simp [h]
  · next h =>
    rcases Nat.eq_zero_or_pos k with rfl | hk
    · have hpos := Nat.length_toDigits_pos (b := 10) (n := n)
      rw [Nat.pow_zero]
      omega
    · exact Nat.length_toDigits_le_iff (by decide) hk

/-- A number is less than 2 to the power 1024, which has 309 digits. -/
theorem digitCount_whole_le (hx : Binary64.ofFloat x = .finite negative units) :
    digitCount (units / Binary64.unitsPerOne) ≤ 309 := by
  have hunits : units < 2 ^ (2046 + 52) := by
    rcases Binary64.ofFloat_cases x with ⟨h, -⟩ | ⟨_, h, -⟩ | ⟨negative', units', h, hlt, -⟩
    · cases h.symm.trans hx
    · cases h.symm.trans hx
    · cases h.symm.trans hx
      by_contra hle
      have hoverflow := Binary64.overflow_of_large (n := units) (d := 1)
        (by rw [Nat.div_one]; exact not_lt.mp hle)
      omega
  have hpow : 2 ^ (2046 + 52) = 2 ^ 1024 * Binary64.unitsPerOne := by decide +kernel
  rw [digitCount_le_iff]
  refine Nat.lt_trans ((Nat.div_lt_iff_lt_mul Binary64.unitsPerOne_pos).mpr ?_)
    (by decide +kernel : 2 ^ 1024 < 10 ^ 309)
  rwa [← hpow]

/-- With so few decimals the digits of every number can be counted. -/
theorem shown_of_places_le (hplaces : places ≤ 2 ^ 31 - 310)
    (hx : Binary64.ofFloat x = .finite negative units) :
    shown places units = scaled places units := by
  have hcount := digitCount_whole_le hx
  have hover : overflows places units = false := by
    rw [overflows, Nat.pow_eq, decide_eq_false (by omega), Bool.false_and]
  rw [shown, hover, if_neg Bool.false_ne_true]

end Fixed

end TurtleGrammar.Number
