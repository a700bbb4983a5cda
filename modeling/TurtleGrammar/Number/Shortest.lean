import TurtleGrammar.Number.Fixed

/-! The shortest decimal numeral that reads back as the same floating-point number, of the shortest
ones the nearest to it, and of two equally near the one with an even last digit. -/

namespace TurtleGrammar.Number.Shortest

/-- A decimal fraction: `digits` times ten to the power `exponent`. -/
structure Decimal where
  digits : Nat
  exponent : Int
deriving DecidableEq, Repr

/-- The numerator and denominator of a decimal fraction. -/
def Decimal.ratio (d : Decimal) : Nat × Nat :=
  (d.digits * Nat.pow 10 d.exponent.toNat, Nat.pow 10 (-d.exponent).toNat)

/-- Whether a decimal fraction has the same nearest floating-point number as `units` units. -/
def Decimal.readsAs (units : Nat) (d : Decimal) : Bool :=
  let (n, m) := d.ratio
  Binary64.nearestBits (n * Binary64.unitsPerOne) m == Binary64.nearestBits units 1

/-- Whether a decimal fraction is at most `units` units. -/
def Decimal.isWithin (units : Nat) (d : Decimal) : Bool :=
  let (n, m) := d.ratio
  n * Binary64.unitsPerOne ≤ units * m

/-- The power of ten at the first digit of a positive number of units. The power of two at its first
bit tells it but for one: its logarithm to base ten is 0.30103 times as large. -/
def magnitude (units : Nat) : Int :=
  let guess := ((units.log2 : Int) - 1074) * 30103 / 100000
  if Decimal.isWithin units ⟨1, guess + 1⟩ then guess + 1 else guess

/-- The whole number of the power of ten `exponent` nearest to `units` units that reads back,
if one of the two neighbours does. -/
def neighbour? (units : Nat) (exponent : Int) : Option Decimal :=
  let n := units * Nat.pow 10 (-exponent).toNat
  let d := Binary64.unitsPerOne * Nat.pow 10 exponent.toNat
  let nearest := roundHalfEven n d
  let other := if nearest = n / d then nearest + 1 else n / d
  [Decimal.mk nearest exponent, ⟨other, exponent⟩].find? (Decimal.readsAs units)

/-- The exact value of `units` units, whose thousand and more decimals all count. -/
def exact (units : Nat) : Decimal := ⟨units * Nat.pow 5 1074, -1074⟩

/-- The shortest decimal fraction for a positive number of units. Seventeen digits are always
enough. -/
def find (units : Nat) : Decimal :=
  let top := magnitude units
  ((List.range 17).findSome? fun (k : Nat) => neighbour? units (top - k)).getD (exact units)

/-- How numbers that are not finite are spelled. -/
structure Spelling where
  nan : List Char
  infinity : List Char

/-- The digits of a decimal fraction without the zeros at its end, and the place of the point,
counted from the first digit. -/
def significant (d : Decimal) : List Char × Int :=
  let digits := Nat.toDigits 10 d.digits
  ((digits.reverse.dropWhile (· == '0')).reverse, d.exponent + digits.length)

/-- The exponent of a numeral: its sign and at least two digits. -/
def exponentText (e : Int) : List Char :=
  let digits := Nat.toDigits 10 e.natAbs
  (if e < 0 then '-' else '+') :: List.replicate (2 - digits.length) '0' ++ digits

/-- The digits with the point at its place. A number from a ten thousandth up to ten to the power
of sixteen is written out, with a digit on either side of the point; any other has one digit before
the point, a fraction if it has more digits, and an exponent. -/
def layOut (digits : List Char) (point : Int) : List Char :=
  if -4 < point ∧ point ≤ 0 then
    "0.".toList ++ List.replicate (-point).toNat '0' ++ digits
  else if 0 < point ∧ point ≤ 16 then
    let before := digits.take point.toNat
    let after := digits.drop point.toNat
    before ++ List.replicate (point.toNat - digits.length) '0' ++
      '.' :: (if after.isEmpty then ['0'] else after)
  else
    let fraction := digits.drop 1
    digits.take 1 ++ (if fraction.isEmpty then [] else '.' :: fraction) ++
      'e' :: exponentText (point - 1)

/-- The numeral of a floating-point number. -/
def write (spelling : Spelling) (x : Float) : List Char :=
  match Binary64.ofFloat x with
  | .nan => spelling.nan
  | .infinite negative => Fixed.sign negative ++ spelling.infinity
  | .finite negative 0 => Fixed.sign negative ++ "0.0".toList
  | .finite negative units =>
    let (digits, point) := significant (find units)
    Fixed.sign negative ++ layOut digits point

/-- In messages and listings the words are lowercase and short. -/
def plain : Spelling := ⟨"nan".toList, "inf".toList⟩

/-- The numeral as a string. -/
def text (x : Float) : String := String.ofList (write plain x)

end TurtleGrammar.Number.Shortest
