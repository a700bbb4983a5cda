import Mathlib
import TurtleGrammar.Proofs.Number.Bits

/-! The order of floating-point numbers. A number other than the one value that is not a number has
its place between minus and plus infinity, a finite one that of its units, and the comparisons of
floating-point numbers are those of their places. -/

namespace TurtleGrammar.Number.Binary64

open Float.Model (UnpackedFloat)
open Float.Model.UnpackedFloat

variable {x y : Float} {negative : Bool} {units : Nat}

/-- A number of units with its sign. -/
def counted (negative : Bool) (units : Nat) : Int := if negative then -units else units

/-- The place of a floating-point number between minus and plus infinity, in units. -/
def place? : Binary64 → Option (WithBot (WithTop Int))
  | nan => none
  | infinite true => some ⊥
  | infinite false => some ⊤
  | finite negative units => some ((counted negative units : WithTop Int) : WithBot (WithTop Int))

/-! ### The parts of a floating-point number -/

/-- The parts of a floating-point number stand for its value. The significand has 53 bits, or fewer
with the least exponent. -/
inductive Unpacks : UnpackedFloat → Binary64 → Prop
  | nan : Unpacks .notANumber .nan
  | infinite (s : Sign) : Unpacks (.infinity s) (.infinite (s == .negative))
  | zero (s : Sign) : Unpacks (.zero s) (.finite (s == .negative) 0)
  | finite (s : Sign) (m k : Nat) (h : 0 < m) (hm : m < 2 ^ 53) (hk : k ≠ 0 → 2 ^ 52 ≤ m) :
    Unpacks (.finite s m (k - 1074) h) (.finite (s == .negative) (m * 2 ^ k))

theorem toNat_exponent (x : Float) :
    (@unpackExponent .binary64 x.toBits.toBitVec).toNat =
      x.toBits.toNat / 2 ^ 52 % 2 ^ 11 := by
  rw [unpackExponent_def, BitVec.extractLsb'_toNat, Nat.shiftRight_eq_div_pow]
  rfl

theorem toNat_mantissa (x : Float) :
    (@unpackMantissa .binary64 x.toBits.toBitVec).toNat = x.toBits.toNat % 2 ^ 52 := by
  rw [unpackMantissa_def, BitVec.extractLsb'_toNat, Nat.shiftRight_zero]
  rfl

theorem isNegative_ofBitVec (x : Float) :
    (Sign.ofBitVec (@unpackSign .binary64 x.toBits.toBitVec) == .negative) =
      (x.toBits.toNat / 2 ^ 63 % 2 == 1) := by
  have hsign : (@unpackSign .binary64 x.toBits.toBitVec).toNat =
      x.toBits.toNat / 2 ^ 63 % 2 := by
    rw [unpackSign_def, BitVec.extractLsb'_toNat, Nat.shiftRight_eq_div_pow]
    rfl
  rw [← hsign]
  generalize @unpackSign .binary64 x.toBits.toBitVec = s
  revert s
  decide

theorem Unpacks.of_units {s : Sign} {m k : Nat} {e : Int} {h : 0 < m} (he : e = k - 1074)
    (hunits : units = m * 2 ^ k) (hm : m < 2 ^ 53) (hk : k ≠ 0 → 2 ^ 52 ≤ m) :
    Unpacks (.finite s m e h) (.finite (s == .negative) units) := by
  subst he hunits
  exact .finite s m k h hm hk

theorem unpacks (x : Float) : Unpacks x.toModel.unpack (ofFloat x) := by
  rw [ofFloat, ofBits]
  simp only [Nat.pow_eq]
  rw [← isNegative_ofBitVec, ← toNat_exponent, ← toNat_mantissa]
  show Unpacks (UnpackedFloat.unpack .binary64 x.toBits.toBitVec) _
  have hfraction := (@unpackMantissa .binary64 x.toBits.toBitVec).isLt
  fun_cases UnpackedFloat.unpack with
  | case1 m e s _ he hm =>
    have he' : e.toNat = 2047 := by rw [he]; rfl
    have hm' : m.toNat = 0 := by rw [hm]; rfl
    rw [if_pos he', if_pos hm']
    exact .infinite _
  | case2 m e he hm =>
    have he' : e.toNat = 2047 := by rw [he]; rfl
    have hm' : ¬m.toNat = 0 := fun h => hm (BitVec.eq_of_toNat_eq h)
    rw [if_pos he', if_neg hm']
    exact .nan
  | case3 m e s _ _ he hm =>
    have he' : e.toNat = 0 := by rw [he]; rfl
    have hm' : m.toNat = 0 := by rw [hm]; rfl
    rw [if_neg (he' ▸ by decide : ¬e.toNat = 2047), if_pos he', hm']
    exact .zero _
  | case4 m e exponent s _ _ he hm =>
    have he' : e.toNat = 0 := by rw [he]; rfl
    have hexponent : exponent + 1 = ((0 : Nat) : Int) - 1074 := by
      show (e.toNat : Int) - (1023 + 52) + 1 = _
      rw [he']
      rfl
    rw [if_neg (he' ▸ by decide : ¬e.toNat = 2047), if_pos he']
    exact .of_units hexponent (Nat.mul_one _).symm (Nat.lt_trans hfraction (by decide)) (absurd rfl)
  | case5 m e exponent s _ hinfinite hzero =>
    have he : ¬e.toNat = 2047 := fun h => hinfinite (BitVec.eq_of_toNat_eq h)
    have he' : ¬e.toNat = 0 := fun h => hzero (BitVec.eq_of_toNat_eq h)
    have hlt : m.toNat < 2 ^ 52 := hfraction
    have hwhole : (1#1 ++ m).toNat = 2 ^ 52 + m.toNat := by
      rw [BitVec.toNat_append, ← Nat.shiftLeft_add_eq_or_of_lt hfraction]
      rfl
    have hexponent : exponent = ((e.toNat - 1 : Nat) : Int) - 1074 := by
      show (e.toNat : Int) - (1023 + 52) = _
      omega
    rw [if_neg he, if_neg he']
    exact .of_units hexponent (by rw [hwhole]) (by omega) (by omega)

/-! ### Comparisons -/

section Comparisons

variable {m n k l : Nat} {u v : UnpackedFloat} {a b : Binary64} {p q : WithBot (WithTop Int)}

theorem units_lt_of_lt (hm : m < 2 ^ 53) (hl : l ≠ 0 → 2 ^ 52 ≤ n) (h : k < l) :
    m * 2 ^ k < n * 2 ^ l := by
  calc m * 2 ^ k < 2 ^ 53 * 2 ^ k := Nat.mul_lt_mul_of_pos_right hm (Nat.two_pow_pos k)
    _ = 2 ^ 52 * 2 ^ (k + 1) := by rw [Nat.pow_succ]; ring
    _ ≤ 2 ^ 52 * 2 ^ l := Nat.mul_le_mul_left _ (Nat.pow_le_pow_right (by decide) h)
    _ ≤ n * 2 ^ l := Nat.mul_le_mul_right _ (hl (by omega))

/-- Exponents and then significands are in the order of the units. -/
theorem compare_units (hm : m < 2 ^ 53) (hk : k ≠ 0 → 2 ^ 52 ≤ m) (hn : n < 2 ^ 53)
    (hl : l ≠ 0 → 2 ^ 52 ≤ n) :
    (compare ((k : Int) - 1074) (l - 1074)).then (compare m n) =
      cmp ((m * 2 ^ k : Nat) : Int) (n * 2 ^ l : Nat) := by
  rcases Nat.lt_trichotomy k l with h | rfl | h
  · have hlt := units_lt_of_lt hm hl h
    rw [Int.compare_eq_lt.mpr (by omega), (cmp_eq_lt_iff _ _).mpr (by exact_mod_cast hlt)]
    rfl
  · have hpos := Nat.two_pow_pos k
    rw [Int.compare_eq_eq.mpr rfl, Ordering.eq_then, ← cmp_eq_compare]
    simp only [cmp, cmpUsing, Nat.cast_lt, Nat.mul_lt_mul_right hpos]
  · have hlt := units_lt_of_lt hn hk h
    rw [Int.compare_eq_gt.mpr (by omega), (cmp_eq_gt_iff _ _).mpr (by exact_mod_cast hlt)]
    rfl

theorem cmp_coe (a b : Int) :
    cmp ((a : WithTop Int) : WithBot (WithTop Int)) (b : WithTop Int) = cmp a b := by
  simp only [cmp, cmpUsing, WithBot.coe_lt_coe, WithTop.coe_lt_coe]

theorem cmp_neg (a b : Int) : cmp (-a) (-b) = (cmp a b).swap := by
  rw [cmp_swap]
  simp only [cmp, cmpUsing, neg_lt_neg_iff]

theorem some_lt_eq {a b : Int} (h : a < b) : some Ordering.lt = some (cmp a b) :=
  congrArg some ((cmp_eq_lt_iff a b).mpr h).symm

theorem some_gt_eq {a b : Int} (h : b < a) : some Ordering.gt = some (cmp a b) :=
  congrArg some ((cmp_eq_gt_iff a b).mpr h).symm

/-- The comparison of the parts is that of the places. -/
theorem Unpacks.compare_eq (hu : Unpacks u a) (hv : Unpacks v b) (hp : a.place? = some p)
    (hq : b.place? = some q) : u.compare v = some (cmp p q) := by
  cases hu with
  | nan => cases hp
  | infinite s =>
    cases hv with
    | nan => cases hq
    | infinite t => cases s <;> cases t <;> cases hp <;> cases hq <;> decide
    | zero t => cases s <;> cases hp <;> cases hq <;> simp [UnpackedFloat.compare, cmp, cmpUsing]
    | finite t n l hn hl =>
      cases s <;> cases hp <;> cases hq <;> simp [UnpackedFloat.compare, cmp, cmpUsing]
  | zero s =>
    cases hv with
    | nan => cases hq
    | infinite t =>
      cases t <;> cases hp <;> cases hq <;> simp [UnpackedFloat.compare, cmp, cmpUsing]
    | zero t => cases hp; cases hq; simp [UnpackedFloat.compare, counted]
    | finite t n l h hn hl =>
      have hpos : 0 < ((n * 2 ^ l : Nat) : Int) := by positivity
      cases hp
      cases hq
      rw [cmp_coe]
      cases t with
      | positive => exact some_lt_eq (by simpa [counted] using hpos)
      | negative => exact some_gt_eq (by simpa [counted] using hpos)
  | finite s m k h hm hk =>
    have hpos : 0 < ((m * 2 ^ k : Nat) : Int) := by positivity
    cases hv with
    | nan => cases hq
    | infinite t =>
      cases t <;> cases hp <;> cases hq <;> simp [UnpackedFloat.compare, cmp, cmpUsing]
    | zero t =>
      cases hp
      cases hq
      rw [cmp_coe]
      cases s with
      | positive => exact some_gt_eq (by simpa [counted] using hpos)
      | negative => exact some_lt_eq (by simpa [counted] using hpos)
    | finite t n l h' hn hl =>
      have hpos' : 0 < ((n * 2 ^ l : Nat) : Int) := by positivity
      have hunits := compare_units hm hk hn hl
      cases hp
      cases hq
      rw [cmp_coe]
      cases s with
      | positive =>
        cases t with
        | positive => exact congrArg some hunits
        | negative => exact some_gt_eq ((neg_lt_zero.mpr hpos').trans hpos)
      | negative =>
        cases t with
        | positive => exact some_lt_eq ((neg_lt_zero.mpr hpos).trans hpos')
        | negative => exact congrArg some ((congrArg Ordering.swap hunits).trans (cmp_neg _ _).symm)

theorem Unpacks.eq_nan (hu : Unpacks u a) (h : a.place? = none) : u = .notANumber := by
  cases hu with
  | nan => rfl
  | infinite s => cases s <;> cases h
  | zero s => cases h
  | finite s m k hpos hm hk => cases h

/-- What is not a number does not compare. -/
theorem Unpacks.compare_eq_none (hu : Unpacks u a) (hv : Unpacks v b)
    (h : a.place? = none ∨ b.place? = none) : u.compare v = none := by
  rcases h with h | h
  · rw [hu.eq_nan h]
    rfl
  · rw [hv.eq_nan h]
    cases u <;> rfl

end Comparisons

theorem compare_eq_some_iff {r : Ordering} :
    x.toModel.unpack.compare y.toModel.unpack = some r ↔
      ∃ p q, (ofFloat x).place? = some p ∧ (ofFloat y).place? = some q ∧ cmp p q = r := by
  cases hp : (ofFloat x).place? with
  | none => simp [(unpacks x).compare_eq_none (unpacks y) (.inl hp)]
  | some p =>
    cases hq : (ofFloat y).place? with
    | none => simp [(unpacks x).compare_eq_none (unpacks y) (.inr hq)]
    | some q => simp [(unpacks x).compare_eq (unpacks y) hp hq]

/-- One floating-point number is less than another when its place is. -/
theorem lt_iff : x < y ↔
    ∃ p q, (ofFloat x).place? = some p ∧ (ofFloat y).place? = some q ∧ p < q := by
  have hlt : x < y ↔ x.toModel.unpack.compare y.toModel.unpack = some .lt := by
    show (decide (x.toModel < y.toModel)) = true ↔ _
    rw [decide_eq_true_iff]
    show (x.toModel.unpack.compare y.toModel.unpack == some .lt) = true ↔ _
    exact beq_iff_eq
  rw [hlt, compare_eq_some_iff]
  simp only [cmp_eq_lt_iff]

/-- One floating-point number is at most another when its place is. -/
theorem le_iff : x ≤ y ↔
    ∃ p q, (ofFloat x).place? = some p ∧ (ofFloat y).place? = some q ∧ p ≤ q := by
  have hle : x ≤ y ↔ ∃ r, x.toModel.unpack.compare y.toModel.unpack = some r ∧ r ≠ .gt := by
    show (decide (x.toModel ≤ y.toModel)) = true ↔ _
    rw [decide_eq_true_iff]
    show (x.toModel.unpack.compare y.toModel.unpack).any (·.isLE) = true ↔ _
    simp only [Option.any_eq_true, Ordering.isLE_iff_ne_gt]
  rw [hle]
  constructor
  · rintro ⟨r, h, hr⟩
    obtain ⟨p, q, hp, hq, rfl⟩ := compare_eq_some_iff.mp h
    exact ⟨p, q, hp, hq, not_lt.mp fun hlt => hr ((cmp_eq_gt_iff p q).mpr hlt)⟩
  · rintro ⟨p, q, hp, hq, hpq⟩
    exact ⟨_, compare_eq_some_iff.mpr ⟨p, q, hp, hq, rfl⟩,
      fun h => not_lt.mpr hpq ((cmp_eq_gt_iff p q).mp h)⟩

/-- The finite numbers are those that are a number of units. -/
theorem isFinite_iff : x.isFinite ↔ ∃ negative units, ofFloat x = finite negative units := by
  show x.toModel.unpack.isFinite = true ↔ _
  have h := unpacks x
  generalize x.toModel.unpack = u at h ⊢
  generalize ofFloat x = a at h ⊢
  cases h <;> simp [UnpackedFloat.isFinite]

theorem isNaN_iff : x.isNaN ↔ ofFloat x = nan := by
  show x.toModel.unpack.isNaN = true ↔ _
  have h := unpacks x
  generalize x.toModel.unpack = u at h ⊢
  generalize ofFloat x = a at h ⊢
  cases h <;> simp [UnpackedFloat.isNaN]

theorem isInf_iff : x.isInf ↔ ∃ negative, ofFloat x = infinite negative := by
  show x.toModel.unpack.isInf = true ↔ _
  have h := unpacks x
  generalize x.toModel.unpack = u at h ⊢
  generalize ofFloat x = a at h ⊢
  cases h <;> simp [UnpackedFloat.isInf]

/-- The positive numbers are those of some units and plus infinity. -/
theorem pos_iff : 0 < x ↔ ofFloat x = infinite false ∨
    ∃ units, 0 < units ∧ ofFloat x = finite false units := by
  have hzero : (ofFloat 0).place? = some (((0 : Int) : WithTop Int) : WithBot (WithTop Int)) := by
    decide +kernel
  rw [lt_iff, hzero]
  cases hx : ofFloat x with
  | nan => simp [place?]
  | infinite negative =>
    cases negative with
    | false =>
      exact ⟨fun _ => .inl rfl,
        fun _ => ⟨_, _, rfl, rfl, WithBot.coe_lt_coe.mpr (WithTop.coe_lt_top 0)⟩⟩
    | true => simp [place?]
  | finite negative units => cases negative <;> simp [place?, counted]

/-- A difference with what is not a number is not a number. -/
theorem sub_eq_nan (h : x.isNaN ∨ y.isNaN) : ofFloat (x - y) = nan := by
  have hsub : x.toModel.unpack.sub .binary64 y.toModel.unpack = .notANumber := by
    rcases h with h | h
    · have hx : x.toModel.unpack = .notANumber := UnpackedFloat.isNaN_iff.mp h
      rw [hx]
      rfl
    · have hy : y.toModel.unpack = .notANumber := UnpackedFloat.isNaN_iff.mp h
      rw [hy]
      cases x.toModel.unpack <;> rfl
  show ofFloat (.ofModel (.pack (x.toModel.unpack.sub .binary64 y.toModel.unpack))) = nan
  rw [hsub]
  decide +kernel

theorem isNaN_of_pos (h : 0 < x) : x.isNaN = false := by
  refine Bool.eq_false_iff.mpr fun hnan => ?_
  rcases pos_iff.mp h with h | ⟨units, -, h⟩ <;> rw [isNaN_iff.mp hnan] at h <;> cases h

theorem isNaN_of_pos_sub (h : 0 < x - y) : x.isNaN = false ∧ y.isNaN = false := by
  have hnan : ¬(x.isNaN ∨ y.isNaN) := fun hnan =>
    Bool.eq_false_iff.mp (isNaN_of_pos h) (isNaN_iff.mpr (sub_eq_nan hnan))
  rw [not_or] at hnan
  exact ⟨Bool.eq_false_iff.mpr hnan.1, Bool.eq_false_iff.mpr hnan.2⟩

/-! ### A linear order -/

section Linear

variable {z : Float}

theorem place?_eq_none_iff : (ofFloat x).place? = none ↔ x.isNaN = true := by
  rw [isNaN_iff]
  cases ofFloat x with
  | nan => simp [place?]
  | infinite negative => cases negative <;> simp [place?]
  | finite negative units => simp [place?]

theorem exists_place_iff : (∃ p, (ofFloat x).place? = some p) ↔ x.isNaN = false := by
  rw [← Option.isSome_iff_exists, ← Option.ne_none_iff_isSome, ne_eq, place?_eq_none_iff,
    Bool.not_eq_true]

/-- Floating-point numbers are equal when their places are. -/
theorem beq_iff : (x == y) = true ↔
    ∃ p, (ofFloat x).place? = some p ∧ (ofFloat y).place? = some p := by
  have heq : (x == y) = true ↔ x.toModel.unpack.compare y.toModel.unpack = some .eq := by
    show (x.toModel.unpack.compare y.toModel.unpack == some .eq) = true ↔ _
    exact beq_iff_eq
  rw [heq, compare_eq_some_iff]
  constructor
  · rintro ⟨p, q, hp, hq, hpq⟩
    obtain rfl := (cmp_eq_eq_iff p q).mp hpq
    exact ⟨p, hp, hq⟩
  · rintro ⟨p, hp, hq⟩
    exact ⟨p, p, hp, hq, (cmp_eq_eq_iff p p).mpr rfl⟩

theorem beq_iff_le : (x == y) = true ↔ x ≤ y ∧ y ≤ x := by
  rw [beq_iff, le_iff, le_iff]
  constructor
  · rintro ⟨p, hp, hq⟩
    exact ⟨⟨p, p, hp, hq, le_rfl⟩, p, p, hq, hp, le_rfl⟩
  · rintro ⟨⟨p, q, hp, hq, hpq⟩, q', p', hq', hp', hqp⟩
    obtain rfl := Option.some.inj (hp.symm.trans hp')
    obtain rfl := Option.some.inj (hq.symm.trans hq')
    exact ⟨p, hp, le_antisymm hqp hpq ▸ hq⟩

theorem le_self (hx : x.isNaN = false) : x ≤ x := by
  obtain ⟨p, hp⟩ := exists_place_iff.mpr hx
  exact le_iff.mpr ⟨p, p, hp, hp, le_rfl⟩

theorem le_trans (hxy : x ≤ y) (hyz : y ≤ z) : x ≤ z := by
  obtain ⟨p, q, hp, hq, hpq⟩ := le_iff.mp hxy
  obtain ⟨q', r, hq', hr, hqr⟩ := le_iff.mp hyz
  obtain rfl := Option.some.inj (hq.symm.trans hq')
  exact le_iff.mpr ⟨p, r, hp, hr, hpq.trans hqr⟩

theorem le_of_lt (h : x < y) : x ≤ y := by
  obtain ⟨p, q, hp, hq, hpq⟩ := lt_iff.mp h
  exact le_iff.mpr ⟨p, q, hp, hq, hpq.le⟩

theorem isNaN_of_lt (h : x < y) : x.isNaN = false ∧ y.isNaN = false := by
  obtain ⟨p, q, hp, hq, -⟩ := lt_iff.mp h
  exact ⟨exists_place_iff.mp ⟨p, hp⟩, exists_place_iff.mp ⟨q, hq⟩⟩

theorem le_of_not_lt (hx : x.isNaN = false) (hy : y.isNaN = false) (h : ¬x < y) : y ≤ x := by
  obtain ⟨p, hp⟩ := exists_place_iff.mpr hx
  obtain ⟨q, hq⟩ := exists_place_iff.mpr hy
  exact le_iff.mpr ⟨q, p, hq, hp, not_lt.mp fun hpq => h (lt_iff.mpr ⟨p, q, hp, hq, hpq⟩)⟩

theorem place?_infinity (negative : Bool) :
    (ofFloat (infinity negative)).place? = some (if negative then ⊥ else ⊤) := by
  cases negative <;> decide +kernel

theorem eq_infinity {negative : Bool} (h : ofFloat x = infinite negative) : x = infinity negative := by
  rcases ofFloat_cases x with ⟨hx, -⟩ | ⟨negative', hx, rfl⟩ | ⟨_, _, hx, -⟩
  · cases h.symm.trans hx
  · cases h.symm.trans hx
    rfl
  · cases h.symm.trans hx

/-- Nothing comes after plus infinity. -/
theorem eq_of_infinity_le (h : infinity false ≤ x) : x = infinity false := by
  obtain ⟨p, q, hp, hq, hpq⟩ := le_iff.mp h
  rw [place?_infinity] at hp
  cases hp
  obtain rfl : q = ⊤ := top_le_iff.mp hpq
  cases hx : ofFloat x with
  | nan => simp [hx, place?] at hq
  | finite negative units => simp [hx, place?] at hq
  | infinite negative =>
    cases negative with
    | false => exact eq_infinity hx
    | true => simp [hx, place?] at hq

/-- Nothing comes before minus infinity. -/
theorem eq_of_le_infinity (h : x ≤ infinity true) : x = infinity true := by
  obtain ⟨p, q, hp, hq, hpq⟩ := le_iff.mp h
  rw [place?_infinity] at hq
  cases hq
  obtain rfl : p = ⊥ := le_bot_iff.mp hpq
  cases hx : ofFloat x with
  | nan => simp [hx, place?] at hp
  | finite negative units => simp [hx, place?] at hp
  | infinite negative =>
    cases negative with
    | false => simp [hx, place?] at hp
    | true => exact eq_infinity hx

end Linear

end TurtleGrammar.Number.Binary64
