import TurtleGrammar.Number.Shortest
import TurtleGrammar.Proofs.Number.Bits
import TurtleGrammar.Proofs.Text.Digits

/-! Decimal fractions as floating-point numbers. What a fraction is read as depends on its value
only, and the shortest decimal fraction of a number of units is read as that number. -/

namespace TurtleGrammar.Number

namespace Binary64

theorem nearestBits_pos {n d : Nat} (h : n / d ≠ 0) : 0 < nearestBits n d := by
  have hlog : (n / d).log2 - 52 ≤ (n / d).log2 := Nat.sub_le _ _
  have hround := div_le_roundHalfEven n (d * 2 ^ ((n / d).log2 - 52))
  have hpos : 0 < n / d / 2 ^ ((n / d).log2 - 52) := by
    refine Nat.div_pos (Nat.le_trans ?_ (Nat.log2_self_le h)) (Nat.two_pow_pos _)
    exact Nat.pow_le_pow_right (by decide) hlog
  rw [← Nat.div_div_eq_div_mul] at hround
  rw [nearestBits_eq rfl]
  omega

end Binary64

namespace Shortest

variable {n k units : Nat} {e : Int} {d : Decimal}

/-- The pattern of the floating-point number nearest to a decimal fraction. -/
def Decimal.bits (d : Decimal) : Nat :=
  Binary64.nearestBits (d.ratio.1 * Binary64.unitsPerOne) d.ratio.2

theorem Decimal.readsAs_iff : d.readsAs units = true ↔ d.bits = Binary64.nearestBits units 1 :=
  beq_iff_eq

theorem Decimal.denominator_pos (d : Decimal) : 0 < d.ratio.2 := Nat.pow_pos (by decide)

/-- Zeros at the end of the digits count as powers of ten. -/
theorem Decimal.bits_shift (n k : Nat) (e : Int) :
    Decimal.bits ⟨n * 10 ^ k, e⟩ = Decimal.bits ⟨n, e + k⟩ := by
  refine Binary64.nearestBits_congr (denominator_pos _) (denominator_pos _) ?_
  have hpow : 10 ^ k * 10 ^ e.toNat * 10 ^ (-(e + k)).toNat =
      10 ^ (e + k).toNat * 10 ^ (-e).toNat := by
    rw [← Nat.pow_add, ← Nat.pow_add, ← Nat.pow_add]
    congr 1
    omega
  simp only [Decimal.ratio, Nat.pow_eq]
  calc n * 10 ^ k * 10 ^ e.toNat * Binary64.unitsPerOne * 10 ^ (-(e + k)).toNat
      = n * Binary64.unitsPerOne * (10 ^ k * 10 ^ e.toNat * 10 ^ (-(e + k)).toNat) := by ring
    _ = n * 10 ^ (e + k).toNat * Binary64.unitsPerOne * 10 ^ (-e).toNat := by rw [hpow]; ring

theorem Decimal.bits_zero (h : d.digits = 0) : d.bits = 0 := by
  refine Binary64.nearestBits_of_small ?_
  rw [Decimal.ratio, h, Nat.zero_mul, Nat.zero_mul, Nat.mul_zero]
  exact Nat.pow_pos (by decide)

/-! ### The shortest fraction -/

theorem neighbour_readsAs (h : neighbour? units e = some d) : d.readsAs units = true := by
  simp only [neighbour?] at h
  exact List.find?_some h

theorem bits_tenths {m : Nat} (hm : Binary64.unitsPerOne = Nat.pow 2 m) :
    Decimal.bits ⟨units * Nat.pow 5 m, -(m : Int)⟩ = Binary64.nearestBits units 1 := by
  refine Binary64.nearestBits_congr (Decimal.denominator_pos _) Nat.one_pos ?_
  simp only [Decimal.ratio, hm, Int.neg_neg, Int.toNat_natCast, Int.toNat_neg_natCast, Nat.pow_eq,
    Nat.pow_zero, Nat.mul_one, Nat.mul_assoc, ← Nat.mul_pow, Nat.reduceMul]

theorem exact_readsAs (units : Nat) : (exact units).readsAs units = true := by
  have hexponent : (-1074 : Int) = -((1074 : Nat) : Int) := rfl
  have hunits : Binary64.unitsPerOne = Nat.pow 2 1074 := by rw [Binary64.unitsPerOne]
  rw [Decimal.readsAs_iff, exact, hexponent, bits_tenths hunits]

theorem find_readsAs (units : Nat) : (find units).readsAs units = true := by
  simp only [find]
  cases h : (List.range 17).findSome? fun (k : Nat) => neighbour? units (magnitude units - k) with
  | none => exact exact_readsAs units
  | some d =>
    obtain ⟨k, -, hk⟩ := List.exists_of_findSome?_eq_some h
    exact neighbour_readsAs hk

/-! ### The reading of a fraction -/

/-- A fraction that is not read as zero or as more than a finite number is read as its pattern, and
its number of digits does not settle it before. -/
theorem ofDecimal_eq {negative : Bool} (hzero : d.bits ≠ 0)
    (hover : d.bits < Binary64.overflowBits) :
    Binary64.ofDecimal negative d.digits d.exponent = Binary64.signed negative d.bits := by
  obtain ⟨n, e⟩ := d
  have hn : n ≠ 0 := by
    rintro rfl
    exact hzero (Decimal.bits_zero rfl)
  have hpos := Nat.length_toDigits_pos (b := 10) (n := n)
  have hupper := Text.lt_pow_length_toDigits n
  have hlower := Text.pow_length_toDigits_le hn
  generalize hl : (Nat.toDigits 10 n).length = l at *
  have hsmall : ¬(l + e < -330) := by
    intro hsize
    refine hzero (Binary64.nearestBits_of_small ?_)
    obtain ⟨m, rfl⟩ : ∃ m : Nat, e = -(m : Int) := ⟨(-e).toNat, by omega⟩
    simp only [Decimal.ratio, Int.toNat_neg_natCast, Int.neg_neg, Int.toNat_natCast, Nat.pow_eq,
      Nat.pow_zero, Nat.mul_one]
    calc 2 * (n * Binary64.unitsPerOne) < 10 ^ l * (2 * Binary64.unitsPerOne) := by
          rw [Nat.mul_left_comm]
          exact Nat.mul_lt_mul_of_pos_right hupper
            (Nat.mul_pos Nat.two_pos Binary64.unitsPerOne_pos)
      _ ≤ 10 ^ l * 10 ^ 330 := Nat.mul_le_mul_left _ (by decide +kernel)
      _ = 10 ^ (l + 330) := by rw [Nat.pow_add]
      _ ≤ 10 ^ m := Nat.pow_le_pow_right (by decide) (by omega)
  have hlarge : ¬(330 < l + e) := by
    intro hsize
    refine Nat.not_lt.mpr (Binary64.overflow_of_large ?_) hover
    rw [Nat.le_div_iff_mul_le (Decimal.denominator_pos _)]
    calc 2 ^ (2046 + 52) * 10 ^ (-e).toNat
        ≤ 10 ^ 330 * Binary64.unitsPerOne * 10 ^ (-e).toNat :=
          Nat.mul_le_mul_right _ (by decide +kernel)
      _ = 10 ^ (330 + (-e).toNat) * Binary64.unitsPerOne := by
          rw [Nat.pow_add, Nat.mul_right_comm]
      _ ≤ 10 ^ (l - 1 + e.toNat) * Binary64.unitsPerOne :=
          Nat.mul_le_mul_right _ (Nat.pow_le_pow_right (by decide) (by omega))
      _ ≤ n * 10 ^ e.toNat * Binary64.unitsPerOne := by
          rw [Nat.pow_add]
          exact Nat.mul_le_mul_right _ (Nat.mul_le_mul_right _ hlower)
  simp only [Binary64.ofDecimal, hl, hn, hsmall, hlarge, or_self, if_false]
  rw [Binary64.nearest, Binary64.nearest?]
  exact (congrArg (Option.getD · _) (if_pos hover)).trans rfl

theorem ofDecimal_zero {negative : Bool} :
    Binary64.ofDecimal negative 0 e = Binary64.signed negative 0 := by
  have hbits : Binary64.nearestBits (0 * Binary64.unitsPerOne) 1 = 0 := by
    rw [Nat.zero_mul]
    exact Binary64.nearestBits_of_small Nat.one_pos
  simp only [Binary64.ofDecimal, true_or, if_true, Binary64.nearest, Binary64.nearest?, hbits]
  rfl

/-- The digits of a fraction without the zeros at its end: they are there, the first is not zero, and
with the place of the point they stand for the same number. -/
theorem significant_spec (hd : d.digits ≠ 0) :
    ∃ c rest, (significant d).1 = c :: rest ∧ c ≠ '0' ∧
      (∀ x ∈ c :: rest, Text.isDigit x = true) ∧
      Decimal.bits ⟨Text.ofDigits (c :: rest), (significant d).2 - (c :: rest).length⟩ = d.bits := by
  obtain ⟨n, e⟩ := d
  obtain ⟨c, rest, hdigits, hc⟩ := Text.exists_toDigits_cons hd
  obtain ⟨k, hk⟩ := Text.exists_append_zeros (Nat.toDigits 10 n)
  have hsignificant : significant ⟨n, e⟩ =
      ((Nat.toDigits 10 n).rdropWhile (· == '0'), e + (Nat.toDigits 10 n).length) := rfl
  have hn : n = Text.ofDigits ((Nat.toDigits 10 n).rdropWhile (· == '0')) * 10 ^ k := by
    rw [← Text.ofDigits_append_zeros, ← hk, Text.ofDigits_toDigits]
  rw [hsignificant]
  cases hcut : (Nat.toDigits 10 n).rdropWhile (· == '0') with
  | nil =>
    rw [hcut] at hn
    exact absurd (by simpa [Text.ofDigits] using hn) hd
  | cons c' rest' =>
    rw [hcut] at hn hk
    have hc' : c' = c := by
      rw [hdigits] at hk
      exact (List.cons.inj hk).1.symm
    refine ⟨c', rest', rfl, hc' ▸ hc, fun x hx => ?_, ?_⟩
    · refine Text.isDigit_of_mem_toDigits (n := n) ?_
      rw [hk]
      exact List.mem_append_left _ hx
    · have hpoint : (e + (Nat.toDigits 10 n).length : Int) - (c' :: rest').length = e + k := by
        rw [hk, List.length_append, List.length_replicate]
        omega
      rw [hpoint, ← Decimal.bits_shift, ← hn]

theorem write_of_finite {spelling : Spelling} {x : Float} {negative : Bool}
    (h : Binary64.ofFloat x = .finite negative units) (hunits : units ≠ 0) :
    write spelling x = Fixed.sign negative ++
      layOut (significant (find units)).1 (significant (find units)).2 := by
  rw [write, h]
  generalize hsignificant : significant (find units) = numeral
  split
  · next h => cases h
  · next h => cases h
  · next h =>
    cases h
    contradiction
  · next h =>
    cases h
    rw [hsignificant]

end Shortest

end TurtleGrammar.Number
