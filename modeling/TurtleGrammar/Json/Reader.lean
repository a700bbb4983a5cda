import TurtleGrammar.Json.Error
import TurtleGrammar.Json.Value
import TurtleGrammar.Number.Binary64
import TurtleGrammar.Number.Numeral

/-! The reading of a value from JSON. Beside the standard the reader takes the words `NaN`,
`Infinity` and `-Infinity` for numbers. Each part of the reader gives what it read and the text
that follows, or a fault. -/

namespace TurtleGrammar.Json

/-- Why reading cannot go on. -/
inductive Fault
  /-- The text is not JSON, for a cause that was found where the rest of the text begins. -/
  | malformed (cause : Cause) (rest : List Char)
  /-- An integer has more digits than are read. -/
  | tooManyDigits (count : Nat)

/-- The blanks between the parts of a text. -/
def isSpace (c : Char) : Bool := c == ' ' || c == '\t' || c == '\n' || c == '\r'

/-- A text without the blanks it starts with. -/
def skipSpace (text : List Char) : List Char := text.dropWhile isSpace

/-- The value of a hexadecimal digit. -/
def hexDigit? (c : Char) : Option Nat :=
  if '0' ≤ c ∧ c ≤ '9' then some (c.toNat - '0'.toNat)
  else if 'a' ≤ c ∧ c ≤ 'f' then some (c.toNat - 'a'.toNat + 10)
  else if 'A' ≤ c ∧ c ≤ 'F' then some (c.toNat - 'A'.toNat + 10)
  else none

/-- The code unit that four hexadecimal digits write. -/
def codeUnit? (a b c d : Char) : Option Nat := do
  return (((← hexDigit? a) * 16 + (← hexDigit? b)) * 16 + (← hexDigit? c)) * 16 + (← hexDigit? d)

/-- Whether a code unit is the first of two that write one character. -/
def isHigh (unit : Nat) : Bool := 0xD800 ≤ unit && unit ≤ 0xDBFF

/-- Whether a code unit is the second of two that write one character. -/
def isLow (unit : Nat) : Bool := 0xDC00 ≤ unit && unit ≤ 0xDFFF

/-- The character that two code units write. -/
def joined (high low : Nat) : Char :=
  Char.ofNat (0x10000 + (high - 0xD800) * 0x400 + (low - 0xDC00))

/-- The character that a letter writes after a backslash. -/
def shortEscape? (c : Char) : Option Char :=
  if c = '"' ∨ c = '\\' ∨ c = '/' then some c
  else if c = 'b' then some '\x08'
  else if c = 'f' then some '\x0c'
  else if c = 'n' then some '\n'
  else if c = 'r' then some '\r'
  else if c = 't' then some '\t'
  else none

/-- The second of two code units, if the text goes on with one and after it. The inner option tells
whether it has four digits. -/
def secondUnit? : List Char → Option (Option Nat × List Char)
  | '\\' :: 'u' :: a :: b :: c :: d :: next :: rest => some (codeUnit? a b c d, next :: rest)
  | _ => none

/-- The code point that a code unit writes, alone or with a second one if `text` goes on with it,
and the text after it. -/
def pairUp (unit : Nat) (text : List Char) : Except Fault (Text.CodePoint × List Char) :=
  if isHigh unit then
    match secondUnit? text with
    | some (none, _) => .error (.malformed .badCodeUnit (text.drop 1))
    | some (some low, rest) =>
      if isLow low then .ok (.scalar (joined unit low), rest) else .ok (.ofUnit unit, text)
    | none => .ok (.ofUnit unit, text)
  else .ok (.ofUnit unit, text)

/-- The code point that an escape writes, and the text after it. What is read follows the backslash
of the escape, in a string that starts at `opening`. The text has to go on after the digits of a
code unit. -/
def readEscape (opening : List Char) : List Char → Except Fault (Text.CodePoint × List Char)
  | [] => .error (.malformed .unterminated opening)
  | 'u' :: a :: b :: c :: d :: next :: rest =>
    match codeUnit? a b c d with
    | some unit => pairUp unit (next :: rest)
    | none => .error (.malformed .badCodeUnit ('u' :: a :: b :: c :: d :: next :: rest))
  | 'u' :: rest => .error (.malformed .badCodeUnit ('u' :: rest))
  | c :: rest =>
    match shortEscape? c with
    | some e => .ok (.scalar e, rest)
    | none => .error (.malformed .badEscape ('\\' :: c :: rest))

/-- The next code point of a string that starts at `opening`, or none at its end, and the text
after it. -/
def readNext (opening : List Char) :
    List Char → Except Fault (Option Text.CodePoint × List Char)
  | [] => .error (.malformed .unterminated opening)
  | '"' :: rest => .ok (none, rest)
  | '\\' :: rest => do
    let (c, rest) ← readEscape opening rest
    pure (some c, rest)
  | c :: rest =>
    if c.toNat < 0x20 then .error (.malformed .controlCharacter (c :: rest))
    else .ok (some (.scalar c), rest)

/-- Reads a string that starts at `opening` and of which `done` was read, the latest first. No
string has more characters than `fuel` if that is the length of the text. -/
def readString (opening : List Char) :
    (fuel : Nat) → (done : Text) → List Char → Except Fault (Text × List Char)
  | 0, _, _ => .error (.malformed .unterminated opening)
  | fuel + 1, done, text => do
    let (next, rest) ← readNext opening text
    match next with
    | some c => readString opening fuel (c :: done) rest
    | none => pure (done.reverse, rest)

/-- The digits that a text starts with, and the text after them. -/
def spanDigits (text : List Char) : List Char × List Char := text.span Text.isDigit

/-- The digits before the point of a number, and the text after them: a zero alone, or digits of
which the first is not zero. -/
def integerPart? : List Char → Option (List Char × List Char)
  | '0' :: rest => some (['0'], rest)
  | text =>
    let (digits, rest) := spanDigits text
    if digits.isEmpty then none else some (digits, rest)

/-- The digits of a fraction, and the text after them. Without a digit after the point there is
none. -/
def fractionPart : List Char → List Char × List Char
  | '.' :: rest =>
    let (digits, after) := spanDigits rest
    if digits.isEmpty then ([], '.' :: rest) else (digits, after)
  | text => ([], text)

/-- The digits of an exponent with its sign before them, and the text after them. -/
def signedDigits? (text : List Char) : Option (Int × List Char) :=
  let (negative, unsigned) :=
    match text with
    | '-' :: rest => (true, rest)
    | '+' :: rest => (false, rest)
    | text => (false, text)
  let (digits, rest) := spanDigits unsigned
  if digits.isEmpty then none
  else
    let n : Int := Text.ofDigits digits
    some (if negative then -n else n, rest)

/-- The exponent of a number, and the text after it. Without a digit there is none. -/
def exponentPart? : List Char → Option (Int × List Char)
  | 'e' :: rest => signedDigits? rest
  | 'E' :: rest => signedDigits? rest
  | _ => none

/-- A number as it is written: the digits before and after the point, and the exponent if there is
one. -/
structure Literal where
  negative : Bool
  whole : List Char
  fraction : List Char
  exponent : Option Int

/-- The number that a text without a sign starts with, and the text after it. -/
def Literal.readUnsigned? (negative : Bool) (text : List Char) :
    Option (Literal × List Char) := do
  let (whole, rest) ← integerPart? text
  let (fraction, rest) := fractionPart rest
  match exponentPart? rest with
  | some (exponent, rest) => pure (⟨negative, whole, fraction, some exponent⟩, rest)
  | none => pure (⟨negative, whole, fraction, none⟩, rest)

/-- The number that a text starts with, and the text after it. -/
def Literal.read? : List Char → Option (Literal × List Char)
  | '-' :: rest => readUnsigned? true rest
  | text => readUnsigned? false text

/-- Without fraction and exponent a number is an integer, and else the nearest floating-point
number, which is infinite beyond the finite ones. -/
def Literal.value (l : Literal) : Except Fault Value :=
  if l.fraction.isEmpty && l.exponent.isNone then
    if l.whole.length ≤ Number.maxDigits then
      let n : Int := Text.ofDigits l.whole
      .ok (.int (if l.negative then -n else n))
    else .error (.tooManyDigits l.whole.length)
  else
    .ok (.float (Number.Binary64.ofDecimal l.negative (Text.ofDigits (l.whole ++ l.fraction))
      (l.exponent.getD 0 - l.fraction.length)))

/-- The words that are values. -/
def words : List (List Char × Value) :=
  [("null".toList, .null), ("true".toList, .bool true), ("false".toList, .bool false),
    ("NaN".toList, .float Number.Binary64.notANumber),
    ("Infinity".toList, .float (Number.Binary64.infinity false)),
    ("-Infinity".toList, .float (Number.Binary64.infinity true))]

/-- The word that a text starts with, and the text after it. -/
def readWord? (text : List Char) : Option (Value × List Char) :=
  (words.find? fun (word, _) => word.isPrefixOf text).map fun (word, value) =>
    (value, text.drop word.length)

/-- The word or the number that a text starts with, and the text after it. -/
def readScalar (text : List Char) : Except Fault (Value × List Char) :=
  match readWord? text with
  | some read => .ok read
  | none =>
    match Literal.read? text with
    | some (literal, rest) => do pure (← literal.value, rest)
    | none => .error (.malformed .expectingValue text)

mutual

/-- The value that a text starts with, and the text after it. Each bracket takes two steps, one for
the bracket and one for what it opens, and each character of a string one, so the steps are never
more than `fuel` if that is more than twice the length of the text. -/
def readValue : (fuel : Nat) → List Char → Except Fault (Value × List Char)
  | 0, text => .error (.malformed .expectingValue text)
  | fuel + 1, text =>
    match text with
    | '"' :: rest => do
      let (s, rest) ← readString text fuel [] rest
      pure (.string s, rest)
    | '[' :: rest =>
      match skipSpace rest with
      | ']' :: rest => pure (.array [], rest)
      | rest => readItems fuel [] rest
    | '\x7b' :: rest =>
      match skipSpace rest with
      | '\x7d' :: rest => pure (.object [], rest)
      | rest => readMembers fuel [] rest
    | text => readScalar text

/-- Reads an array on from an item. The items read before are `done`, the latest first. -/
def readItems : (fuel : Nat) → (done : List Value) → List Char →
    Except Fault (Value × List Char)
  | 0, _, text => .error (.malformed .expectingValue text)
  | fuel + 1, done, text => do
    let (v, rest) ← readValue fuel text
    match skipSpace rest with
    | ']' :: rest => pure (.array (v :: done).reverse, rest)
    | ',' :: rest => readItems fuel (v :: done) (skipSpace rest)
    | rest => .error (.malformed .expectingComma rest)

/-- Reads an object on from the name of a member. The members read before are `done`. A name that
was there before gives its place to the new value. -/
def readMembers : (fuel : Nat) → (done : List (Text × Value)) → List Char →
    Except Fault (Value × List Char)
  | 0, _, text => .error (.malformed .expectingName text)
  | fuel + 1, done, text =>
    match text with
    | '"' :: rest => do
      let (name, rest) ← readString text fuel [] rest
      match skipSpace rest with
      | ':' :: rest =>
        let (v, rest) ← readValue fuel (skipSpace rest)
        let done := Value.put name v done
        match skipSpace rest with
        | '\x7d' :: rest => pure (.object done, rest)
        | ',' :: rest => readMembers fuel done (skipSpace rest)
        | rest => .error (.malformed .expectingComma rest)
      | rest => .error (.malformed .expectingColon rest)
    | _ => .error (.malformed .expectingName text)

end

/-- Why a text has no value. -/
inductive Unreadable
  | malformed (e : Error)
  | tooManyDigits (count : Nat)
deriving DecidableEq, Repr

/-- A fault with its place in the whole text. -/
def Fault.place (text : List Char) : Fault → Unreadable
  | .malformed cause rest => .malformed (.at text rest cause)
  | .tooManyDigits count => .tooManyDigits count

/-- The value that a text holds, with nothing but blanks around it. -/
def read (text : List Char) : Except Unreadable Value :=
  if text.head? = some '\uFEFF' then .error (.malformed (.at text text .byteOrderMark))
  else
    match readValue (2 * text.length + 2) (skipSpace text) with
    | .error fault => .error (fault.place text)
    | .ok (v, rest) =>
      match skipSpace rest with
      | [] => .ok v
      | rest => .error (.malformed (.at text rest .extraData))

end TurtleGrammar.Json
