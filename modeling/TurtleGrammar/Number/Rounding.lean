/-! Rounding of a quotient of natural numbers to the nearest natural number. -/

namespace TurtleGrammar.Number

/-- The natural number nearest to `n / d`; of two equally near, the even one. -/
def roundHalfEven (n d : Nat) : Nat :=
  let q := n / d
  let twice := 2 * (n % d)
  if twice < d then q
  else if d < twice then q + 1
  else q + q % 2

/-- The result is at most half a unit away from the quotient. -/
theorem roundHalfEven_near (n d : Nat) (hd : 0 < d) :
    2 * (roundHalfEven n d * d) ≤ 2 * n + d ∧ 2 * n ≤ 2 * (roundHalfEven n d * d) + d := by
  have hdiv : n / d * d + n % d = n := by rw [Nat.mul_comm]; exact Nat.div_add_mod n d
  have hlt := Nat.mod_lt n hd
  simp only [roundHalfEven]
  split
  · omega
  · split
    · rw [Nat.add_mul]; omega
    · rcases Nat.mod_two_eq_zero_or_one (n / d) with h | h
      · rw [h, Nat.add_zero]; omega
      · rw [h, Nat.add_mul]; omega

/-- A result half a unit away from the quotient is even. -/
theorem roundHalfEven_even (n d : Nat) (hd : 0 < d)
    (h : 2 * n + d = 2 * (roundHalfEven n d * d) ∨ 2 * n = 2 * (roundHalfEven n d * d) + d) :
    roundHalfEven n d % 2 = 0 := by
  have hdiv : n / d * d + n % d = n := by rw [Nat.mul_comm]; exact Nat.div_add_mod n d
  have hlt := Nat.mod_lt n hd
  simp only [roundHalfEven] at h ⊢
  split at h <;> rename_i h1
  · omega
  · split at h <;> rename_i h2
    · rw [Nat.add_mul] at h; omega
    · rw [if_neg h1, if_neg h2]; omega

end TurtleGrammar.Number
