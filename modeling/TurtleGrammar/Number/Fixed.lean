import TurtleGrammar.Number.Binary64

/-! Decimal numerals with a fixed number of places, and compact ones. The exact value is rounded, a
half to the even neighbour, and every digit before the point is written out. A compact numeral has
at most a given number of places, no zero at the end of a fraction, and no negative zero. -/

namespace TurtleGrammar.Number

namespace Fixed

/-- Why a number of decimals is refused. -/
inductive PlacesError
  | negative
  | tooLarge
  /-- Too large even to be read. -/
  | tooLong
deriving DecidableEq, Repr

/-- The words in which an error is reported. -/
def PlacesError.message : PlacesError → String
  | .negative => "Format specifier missing precision"
  | .tooLarge => "precision too big"
  | .tooLong => "Too many decimal digits in format string"

/-- A number of decimals that numerals can have. -/
def places? (n : Int) : Except PlacesError Nat :=
  if n < 0 then .error .negative
  else if Nat.pow 2 63 ≤ n then .error .tooLong
  else if Nat.pow 2 31 ≤ n then .error .tooLarge
  else .ok n.toNat

/-- The nearest whole number of the units that `places` decimals count in. -/
def scaled (places units : Nat) : Nat :=
  roundHalfEven (units * Nat.pow 10 places) Binary64.unitsPerOne

/-- How many digits a whole number has. Zero has none. -/
def digitCount (n : Nat) : Nat := if n = 0 then 0 else (Nat.toDigits 10 n).length

/-- Whether the digits of a numeral, those before the point and the decimals together, are too many
to be counted in 31 bits. A whole number of at most fifteen digits is written without counting. The
first estimate of the count may be one too large, so a numeral of one digit less need not be had
either. Up to 2 to the power 31 less 310 decimals no estimate reaches the limit. -/
def overflows (places units : Nat) : Bool :=
  let whole := units / Binary64.unitsPerOne
  Nat.pow 2 31 ≤ places + digitCount whole &&
    !(units % Binary64.unitsPerOne = 0 && digitCount whole ≤ 15)

/-- How many units of the last decimal a numeral shows. Where the digits cannot be counted none is
found, and the numeral is that of zero. -/
def shown (places units : Nat) : Nat := if overflows places units then 0 else scaled places units

/-- The digits of a count of such units: those before the point and those after it. -/
def split (places count : Nat) : List Char × List Char :=
  let after := Nat.toDigits 10 (count % Nat.pow 10 places)
  (Nat.toDigits 10 (count / Nat.pow 10 places),
    if places = 0 then [] else List.replicate (places - after.length) '0' ++ after)

/-- The sign that stands before the digits. -/
def sign (negative : Bool) : List Char := if negative then ['-'] else []

/-- The numeral of a floating-point number with `places` decimals. A negative number keeps its sign
even where it rounds to zero. -/
def write (places : Nat) (x : Float) : List Char :=
  match Binary64.ofFloat x with
  | .nan => "nan".toList
  | .infinite negative => sign negative ++ "inf".toList
  | .finite negative units =>
    let (before, after) := split places (shown places units)
    sign negative ++ before ++ if after.isEmpty then [] else '.' :: after

/-- The numeral as a string. -/
def text (places : Nat) (x : Float) : String := String.ofList (write places x)

/-- A floating-point number rounded to `places` decimals: the nearest one to the rounded value. -/
def round (places : Nat) (x : Float) : Float :=
  match Binary64.ofFloat x with
  | .finite negative units => Binary64.nearest negative (scaled places units) (Nat.pow 10 places)
  | _ => x

end Fixed

namespace Compact

/-- A numeral with a point, without the zeros it ends in and then without a point it ends in. A
numeral without a point stays as it is. -/
def trim (numeral : List Char) : List Char :=
  if numeral.contains '.' then
    ((numeral.reverse.dropWhile (· == '0')).dropWhile (· == '.')).reverse
  else numeral

/-- The compact numeral of a floating-point number, rounded to `places` decimals. -/
def write (places : Nat) (x : Float) : List Char :=
  let numeral := trim (Fixed.write places x)
  if numeral = ['-', '0'] then ['0'] else numeral

/-- The numeral as a string. -/
def text (places : Nat) (x : Float) : String := String.ofList (write places x)

end Compact

end TurtleGrammar.Number
