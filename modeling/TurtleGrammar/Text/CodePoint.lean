/-! Code points, of which texts are made. Beside the characters these are the surrogates, two of
which stand for one character where characters are written in units of 16 bits. A text may hold a
surrogate that is not one of such two. It can then be looked at like any other, but it cannot be
encoded. -/

namespace TurtleGrammar

/-- Half of a character, by its unit of 16 bits. -/
structure Text.Surrogate where
  unit : Nat
  inRange : 0xD800 ≤ unit ∧ unit ≤ 0xDFFF
deriving DecidableEq

/-- A character, or half of one. -/
inductive Text.CodePoint
  | scalar (c : Char)
  | surrogate (s : Surrogate)
deriving DecidableEq

/-- A text, by its code points in order. -/
abbrev Text := List Text.CodePoint

namespace Text

/-- Whether a code point is a character. -/
def CodePoint.isScalar : CodePoint → Bool
  | .scalar _ => true
  | .surrogate _ => false

/-- The code point of a unit of 16 bits that is not one of two. -/
def CodePoint.ofUnit (unit : Nat) : CodePoint :=
  if h : 0xD800 ≤ unit ∧ unit ≤ 0xDFFF then .surrogate ⟨unit, h⟩ else .scalar (Char.ofNat unit)

/-- The character that shows a code point on an output that takes every text: itself, or the
replacement character for half of one. An output that is encoded would refuse half of a character;
such outputs are left out. -/
def CodePoint.shown : CodePoint → Char
  | .scalar c => c
  | .surrogate _ => '\uFFFD'

/-- The text of characters. -/
def ofChars (chars : List Char) : Text := chars.map .scalar

/-- The text of a string. -/
def ofString (s : String) : Text := ofChars s.toList

instance : Coe String Text := ⟨ofString⟩

/-- A text as it is shown. -/
def shown (text : Text) : String := String.ofList (text.map CodePoint.shown)

theorem shown_ofChars (chars : List Char) : (ofChars chars).shown = String.ofList chars := by
  have h : CodePoint.shown ∘ CodePoint.scalar = id := rfl
  simp [shown, ofChars, h]

/-- A text made of a string shows as that string. -/
theorem shown_ofString (s : String) : (ofString s).shown = s := by
  simp [ofString, shown_ofChars]

/-- Whether `n` lies in one of the ranges, the form in which the tables of character properties are
kept. -/
def inRanges (ranges : List (Nat × Nat)) (n : Nat) : Bool :=
  ranges.any fun (first, last) => first ≤ n && n ≤ last

theorem inRanges_iff {ranges : List (Nat × Nat)} {n : Nat} :
    inRanges ranges n = true ↔ ∃ r ∈ ranges, r.1 ≤ n ∧ n ≤ r.2 := by
  simp [inRanges]

end Text

end TurtleGrammar
