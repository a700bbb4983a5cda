import TurtleGrammar.Text.Printable

/-! The quoted form in which messages show a text: between quotes, with every character that would
not show or would end the text written as an escape. -/

namespace TurtleGrammar.Text

/-- The lowercase hexadecimal digits of `n`, at least `width` of them. -/
def hexadecimal (width n : Nat) : List Char :=
  let digits := Nat.toDigits 16 n
  List.replicate (width - digits.length) '0' ++ digits

/-- A text is put between apostrophes, but between double quotes if it holds an apostrophe and no
double quote. -/
def quoteMark (text : Text) : Char :=
  if text.contains (.scalar '\'') && !text.contains (.scalar '"') then '"' else '\''

/-- A character as it stands between quotes: the mark and the backslash behind a backslash, the
tab and the line breaks by letter, what does not show by its code point in two, four or eight
digits, and all else as itself. -/
def escaped (mark c : Char) : List Char :=
  if c = mark ∨ c = '\\' then ['\\', c]
  else if c = '\t' then ['\\', 't']
  else if c = '\n' then ['\\', 'n']
  else if c = '\r' then ['\\', 'r']
  else if isPrintable c then [c]
  else if c.toNat < 0x100 then '\\' :: 'x' :: hexadecimal 2 c.toNat
  else if c.toNat < 0x10000 then '\\' :: 'u' :: hexadecimal 4 c.toNat
  else '\\' :: 'U' :: hexadecimal 8 c.toNat

/-- A code point as it stands between quotes. Half of a character does not show. -/
def CodePoint.escaped (mark : Char) : CodePoint → List Char
  | .scalar c => Text.escaped mark c
  | .surrogate s => '\\' :: 'u' :: hexadecimal 4 s.unit

/-- The quoted form of a text. -/
def quote (text : Text) : List Char :=
  let mark := quoteMark text
  mark :: text.flatMap (CodePoint.escaped mark) ++ [mark]

/-- The quoted form as a string. -/
def quoted (text : Text) : String := String.ofList (quote text)

end TurtleGrammar.Text
