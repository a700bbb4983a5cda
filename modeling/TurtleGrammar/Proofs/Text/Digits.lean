import Mathlib.Algebra.GroupWithZero.Nat
import Mathlib.Data.List.DropRight
import TurtleGrammar.Text.Digit

/-! Decimal digits. The digits that a number is written with are those it is read from, and the first
of them is not zero unless the number is. -/

namespace TurtleGrammar.Text

variable {n : Nat} {c : Char} {digits more : List Char}

theorem ofDigits_eq (digits : List Char) : ofDigits digits = Nat.ofDigitChars 10 digits 0 := rfl

@[simp] theorem ofDigits_toDigits (n : Nat) : ofDigits (Nat.toDigits 10 n) = n :=
  Nat.ofDigitChars_toDigits (by decide) (by decide)

theorem ofDigits_append :
    ofDigits (digits ++ more) = ofDigits digits * 10 ^ more.length + ofDigits more := by
  rw [ofDigits_eq, Nat.ofDigitChars_append, Nat.ofDigitChars_eq_ofDigitChars_zero, Nat.mul_comm]
  rfl

/-- Zeros in front do not count. -/
theorem ofDigits_zeros_append (k : Nat) :
    ofDigits (List.replicate k '0' ++ digits) = ofDigits digits := by
  rw [ofDigits_eq, Nat.ofDigitChars_append, Nat.ofDigitChars_replicate_zero, Nat.mul_zero]
  rfl

/-- Zeros behind count as powers of ten. -/
theorem ofDigits_append_zeros (k : Nat) :
    ofDigits (digits ++ List.replicate k '0') = ofDigits digits * 10 ^ k := by
  rw [ofDigits_eq, Nat.ofDigitChars_append, Nat.ofDigitChars_replicate_zero, Nat.mul_comm]
  rfl

theorem isDigit_iff : isDigit c = true ↔ 48 ≤ c.toNat ∧ c.toNat ≤ 57 := by
  simp only [isDigit, Bool.and_eq_true, decide_eq_true_eq]
  exact Iff.rfl

theorem isDigit_of_mem_toDigits (h : c ∈ Nat.toDigits 10 n) : isDigit c = true :=
  isDigit_iff.mpr (Char.isDigit_iff_toNat.mp (Nat.isDigit_of_mem_toDigits (by decide) (by decide) h))

theorem ofDigits_lt (h : ∀ c ∈ digits, isDigit c = true) : ofDigits digits < 10 ^ digits.length := by
  induction digits with
  | nil => decide
  | cons c digits ih =>
    rw [List.forall_mem_cons, isDigit_iff] at h
    have hdigits := ih h.2
    have hcons : ofDigits (c :: digits) = (c.toNat - 48) * 10 ^ digits.length + ofDigits digits := by
      rw [← List.singleton_append, ofDigits_append]
      simp [ofDigits]
    have hmul : (c.toNat - 48) * 10 ^ digits.length ≤ 9 * 10 ^ digits.length :=
      Nat.mul_le_mul_right _ (by omega)
    rw [hcons, List.length_cons, Nat.pow_succ]
    omega

theorem lt_pow_length_toDigits (n : Nat) : n < 10 ^ (Nat.toDigits 10 n).length :=
  (Nat.length_toDigits_le_iff (by decide) Nat.length_toDigits_pos).mp (Nat.le_refl _)

theorem pow_length_toDigits_le (hn : n ≠ 0) : 10 ^ ((Nat.toDigits 10 n).length - 1) ≤ n := by
  by_cases h : (Nat.toDigits 10 n).length - 1 = 0
  · rw [h]
    omega
  · have hlength := Nat.length_toDigits_le_iff (n := n) (b := 10) (by decide) (Nat.pos_of_ne_zero h)
    by_contra hlt
    have := hlength.mpr (Nat.lt_of_not_le hlt)
    omega

theorem length_toDigits_pow (k : Nat) : (Nat.toDigits 10 (10 ^ k)).length = k + 1 := by
  have hpow : 10 ^ k < 10 ^ (k + 1) := Nat.pow_lt_pow_right (by decide) (Nat.lt_succ_self k)
  refine Nat.le_antisymm ((Nat.length_toDigits_le_iff (by decide) (by omega)).mpr hpow) ?_
  by_contra hlength
  cases k with
  | zero => exact hlength (Nat.succ_le_of_lt Nat.length_toDigits_pos)
  | succ k =>
    exact Nat.lt_irrefl _ ((Nat.length_toDigits_le_iff (by decide) (Nat.succ_pos k)).mp
      (Nat.le_of_not_lt hlength))

/-- A number other than zero starts with a digit other than zero. -/
theorem exists_toDigits_cons (hn : n ≠ 0) :
    ∃ c rest, Nat.toDigits 10 n = c :: rest ∧ c ≠ '0' := by
  cases h : Nat.toDigits 10 n with
  | nil => exact absurd h (List.ne_nil_of_length_pos Nat.length_toDigits_pos)
  | cons c rest =>
    refine ⟨c, rest, rfl, ?_⟩
    rintro rfl
    have hdigits : ∀ c ∈ rest, isDigit c = true := fun c hc =>
      isDigit_of_mem_toDigits (n := n) (by simp [h, hc])
    have hle := pow_length_toDigits_le hn
    have hvalue : ofDigits rest = n := by
      rw [← ofDigits_toDigits n, h, ← ofDigits_zeros_append 1]
      rfl
    have hlt := ofDigits_lt hdigits
    rw [h, List.length_cons, Nat.add_sub_cancel] at hle
    omega

/-- What was cut off the end of the digits are zeros. -/
theorem exists_append_zeros (digits : List Char) :
    ∃ k, digits = digits.rdropWhile (· == '0') ++ List.replicate k '0' := by
  refine ⟨(digits.reverse.takeWhile (· == '0')).length, ?_⟩
  have hzeros : digits.reverse.takeWhile (· == '0') =
      List.replicate (digits.reverse.takeWhile (· == '0')).length '0' :=
    List.eq_replicate_iff.mpr ⟨rfl, fun c hc => by simpa using List.mem_takeWhile_imp hc⟩
  have hsplit := congrArg List.reverse
    (List.takeWhile_append_dropWhile (p := (· == '0')) (l := digits.reverse))
  rw [List.reverse_append, List.reverse_reverse, hzeros, List.reverse_replicate] at hsplit
  exact hsplit.symm

end TurtleGrammar.Text
