import TurtleGrammar.Number.Rounding

/-! Binary floating-point numbers of 64 bits as exact values. Every finite one is a whole number of
units, where the unit is the least positive one, 2 to the power -1074. -/

namespace TurtleGrammar.Number

/-- The value of a floating-point number. A zero keeps its sign. -/
inductive Binary64
  | nan
  | infinite (negative : Bool)
  | finite (negative : Bool) (units : Nat)
deriving DecidableEq, Repr

namespace Binary64

/-- How many units make one. -/
def unitsPerOne : Nat := Nat.pow 2 1074

theorem unitsPerOne_pos : 0 < unitsPerOne := by
  simp only [unitsPerOne, Nat.pow_eq, Nat.two_pow_pos]

/-- The value that a pattern of 64 bits stands for: a sign, eleven bits of exponent and fifty-two
of fraction. -/
def ofBits (bits : Nat) : Binary64 :=
  let negative := bits / Nat.pow 2 63 % 2 == 1
  let exponent := bits / Nat.pow 2 52 % Nat.pow 2 11
  let fraction := bits % Nat.pow 2 52
  if exponent = 2047 then if fraction = 0 then infinite negative else nan
  else if exponent = 0 then finite negative fraction
  else finite negative ((Nat.pow 2 52 + fraction) * Nat.pow 2 (exponent - 1))

/-- The value of a floating-point number. -/
def ofFloat (x : Float) : Binary64 := ofBits x.toBits.toNat

/-- The first pattern of bits, the sign apart, that stands for no finite value. -/
def overflowBits : Nat := 2047 * Nat.pow 2 52

/-- The pattern of bits, the sign apart, of the floating-point number nearest to `n / d` units, of
two equally near that with the even pattern. The quotient is cut to a significand of 53 bits, and
one that rounds up to 54 carries into the exponent, which lies above it. The result may reach or
pass `overflowBits`. -/
def nearestBits (n d : Nat) : Nat :=
  let shift := (n / d).log2 - 52
  shift * Nat.pow 2 52 + roundHalfEven n (d * Nat.pow 2 shift)

/-- The floating-point number nearest to `n / d`, with the given sign, or none if its size is
beyond the finite ones. -/
def nearest? (negative : Bool) (n d : Nat) : Option Float :=
  let bits := nearestBits (n * unitsPerOne) d
  if bits < overflowBits then
    some (Float.ofBits (UInt64.ofNat (bits + if negative then Nat.pow 2 63 else 0)))
  else none

/-- The floating-point value that is not a number. -/
def notANumber : Float := Float.ofBits 0x7FF8000000000000

/-- The infinity of a sign. -/
def infinity (negative : Bool) : Float :=
  Float.ofBits (UInt64.ofNat (overflowBits + if negative then Nat.pow 2 63 else 0))

/-- The floating-point number nearest to `n / d`, with the given sign. -/
def nearest (negative : Bool) (n d : Nat) : Float :=
  (nearest? negative n d).getD (infinity negative)

/-- The floating-point number nearest to an integer, or none if its size is beyond the finite
ones. -/
def ofInt? (i : Int) : Option Float := nearest? (i < 0) i.natAbs 1

/-- The floating-point number nearest to `digits` times ten to the power `exponent`. A numeral so
long or so short that its size is settled by its number of digits is not multiplied out. -/
def ofDecimal (negative : Bool) (digits : Nat) (exponent : Int) : Float :=
  let size := (Nat.toDigits 10 digits).length + exponent
  if digits = 0 ∨ size < -330 then nearest negative 0 1
  else if 330 < size then infinity negative
  else nearest negative (digits * Nat.pow 10 exponent.toNat) (Nat.pow 10 (-exponent).toNat)

end Binary64

end TurtleGrammar.Number
