import TurtleGrammar.Text.Blank
import TurtleGrammar.Text.Digit

/-! The reading of an integer as people type it: a sign, and digits of any script, which single
underscores may group. -/

namespace TurtleGrammar.Number

/-- No integer is read from more digits than these, however small it is. -/
def maxDigits : Nat := 4300

namespace Numeral

/-- The number that digits write after a number `n` before them. Between two digits one underscore
may stand; `grouped` tells whether it may stand here, that is, behind a digit. -/
def digits? (n : Nat) (grouped : Bool) : List Char → Option Nat
  | [] => if grouped then some n else none
  | c :: rest =>
    if c = '_' then if grouped then digits? n false rest else none
    else
      match Text.digit? c with
      | some d => digits? (10 * n + d) true rest
      | none => none

/-- The integer that a text without blanks around it writes. -/
def signed? : List Char → Option Int
  | '-' :: rest => (digits? 0 false rest).map fun n => -n
  | '+' :: rest => (digits? 0 false rest).map fun n => n
  | text => (digits? 0 false text).map fun n => n

/-- The blanks that may stand around an integer: all but the four information separators. -/
def isMargin (c : Char) : Bool := Text.isBlank c && !(0x1C ≤ c.toNat && c.toNat ≤ 0x1F)

/-- A text without the blanks around it. -/
def trim (text : List Char) : List Char :=
  ((text.dropWhile isMargin).reverse.dropWhile isMargin).reverse

/-- The integer that a text writes, with any blanks around it. -/
def read? (text : List Char) : Option Int :=
  if text.countP (Text.digit? · |>.isSome) ≤ maxDigits then signed? (trim text) else none

end Numeral

end TurtleGrammar.Number
