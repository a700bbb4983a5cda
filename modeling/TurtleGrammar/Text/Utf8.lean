import TurtleGrammar.Text.Quoted

/-! The reading of bytes as UTF-8. The reader follows the table of well-formed sequences, so no
surrogate, no overlong form and nothing above U+10FFFF is read, and it tells what is wrong with the
first sequence that is not well formed. In the other direction every text without surrogates can be
written. -/

namespace TurtleGrammar.Text.Utf8

/-- What is wrong with a sequence of bytes. -/
inductive Fault
  | badStart
  | badContinuation
  | endOfData
deriving DecidableEq, Repr

/-- The words for a fault. -/
def Fault.message : Fault → String
  | .badStart => "invalid start byte"
  | .badContinuation => "invalid continuation byte"
  | .endOfData => "unexpected end of data"

/-- A malformed sequence: its fault, its first byte, where it starts, and how many bytes of it
belong together. -/
structure Malformed where
  fault : Fault
  first : UInt8
  start : Nat
  count : Nat
deriving DecidableEq, Repr

/-- The words for a place where a text cannot be decoded. -/
def Malformed.message (m : Malformed) : String :=
  let place :=
    if m.count = 1 then
      s!"byte 0x{String.ofList (hexadecimal 2 m.first.toNat)} in position {m.start}"
    else s!"bytes in position {m.start}-{m.start + m.count - 1}"
  "'utf-8' codec can't decode " ++ place ++ ": " ++ m.fault.message

/-- The bytes that continue a sequence. -/
def isTail (b : UInt8) : Bool := 0x80 ≤ b && b ≤ 0xBF

/-- Whether `b` may stand second after `first`: a tail that makes no overlong form, no surrogate
and nothing above U+10FFFF. -/
def isSecond (first b : UInt8) : Bool :=
  isTail b &&
    (if first = 0xE0 then 0xA0 ≤ b
    else if first = 0xED then b < 0xA0
    else if first = 0xF0 then 0x90 ≤ b
    else if first = 0xF4 then b < 0x90
    else true)

/-- How many bytes a sequence has that starts with `first`. -/
def width? (first : UInt8) : Option Nat :=
  if first < 0x80 then some 1
  else if first < 0xC2 then none
  else if first < 0xE0 then some 2
  else if first < 0xF0 then some 3
  else if first < 0xF5 then some 4
  else none

/-- The part of a code point that a byte holds in its low bits. -/
def low (bits : Nat) (b : UInt8) : Nat := b.toNat % Nat.pow 2 bits

/-- Reads bytes of which the first stands at `start` of a text. -/
def decodeFrom (start : Nat) : List UInt8 → Except Malformed (List Char)
  | [] => .ok []
  | a :: rest =>
    let fail (fault : Fault) (count : Nat) : Except Malformed (List Char) :=
      .error ⟨fault, a, start, count⟩
    match width? a, rest with
    | none, _ => fail .badStart 1
    | some 1, rest => return Char.ofNat a.toNat :: (← decodeFrom (start + 1) rest)
    | some _, [] => fail .endOfData 1
    | some 2, b :: rest =>
      if isTail b then
        return Char.ofNat (low 5 a * 64 + low 6 b) :: (← decodeFrom (start + 2) rest)
      else fail .badContinuation 1
    | some 3, b :: rest =>
      if !isSecond a b then fail .badContinuation 1
      else match rest with
        | [] => fail .endOfData 2
        | c :: rest =>
          if isTail c then
            return Char.ofNat ((low 4 a * 64 + low 6 b) * 64 + low 6 c) ::
              (← decodeFrom (start + 3) rest)
          else fail .badContinuation 2
    | some _, b :: rest =>
      if !isSecond a b then fail .badContinuation 1
      else match rest with
        | [] => fail .endOfData 2
        | c :: rest =>
          if !isTail c then fail .badContinuation 2
          else match rest with
            | [] => fail .endOfData 3
            | d :: rest =>
              if isTail d then
                return Char.ofNat (((low 3 a * 64 + low 6 b) * 64 + low 6 c) * 64 + low 6 d) ::
                  (← decodeFrom (start + 4) rest)
              else fail .badContinuation 3

/-- The text that bytes write. -/
def decode (bytes : List UInt8) : Except Malformed (List Char) := decodeFrom 0 bytes

/-- Surrogates in a text that is to be encoded: the first of them, where it stands, and how many
follow one another from there. -/
structure Unencodable where
  first : Surrogate
  start : Nat
  count : Nat
deriving DecidableEq

/-- The words for a place where a text cannot be encoded. -/
def Unencodable.message (u : Unencodable) : String :=
  let place :=
    if u.count = 1 then
      s!"character {quoted [.surrogate u.first]} in position {u.start}"
    else s!"characters in position {u.start}-{u.start + u.count - 1}"
  "'utf-8' codec can't encode " ++ place ++ ": surrogates not allowed"

/-- Why a text cannot be encoded, if it holds surrogates. -/
def fault? (text : Text) : Option Unencodable :=
  let before := text.takeWhile CodePoint.isScalar
  match text.drop before.length with
  | .surrogate s :: rest =>
    some ⟨s, before.length, 1 + (rest.takeWhile fun c => !c.isScalar).length⟩
  | _ => none

end TurtleGrammar.Text.Utf8
