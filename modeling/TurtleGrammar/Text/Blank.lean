import TurtleGrammar.Text.CodePoint

/-! Blank characters and line breaks, and the cutting of a text at them or at a mark. Lengths and
columns count code points. -/

namespace TurtleGrammar.Text

/-- The blank characters: the horizontal and vertical controls, the four information separators,
the space, and the spaces of every other width. -/
def isBlank (c : Char) : Bool :=
  let n := c.toNat
  (0x9 ≤ n && n ≤ 0xD) || (0x1C ≤ n && n ≤ 0x20) || n == 0x85 || n == 0xA0 || n == 0x1680 ||
    (0x2000 ≤ n && n ≤ 0x200A) || n == 0x2028 || n == 0x2029 || n == 0x202F || n == 0x205F ||
    n == 0x3000

/-- The characters that end a line. Each of them is blank, but the unit separator, which is blank
too, ends none. -/
def isLineBreak (c : Char) : Bool :=
  let n := c.toNat
  (0xA ≤ n && n ≤ 0xD) || (0x1C ≤ n && n ≤ 0x1E) || n == 0x85 || n == 0x2028 || n == 0x2029

theorem isBlank_of_isLineBreak {c : Char} (h : isLineBreak c = true) : isBlank c = true := by
  simp only [isLineBreak, isBlank, Bool.or_eq_true, Bool.and_eq_true, decide_eq_true_eq,
    beq_iff_eq] at h ⊢
  omega

/-- Whether a code point is a blank character. -/
def CodePoint.isBlank : CodePoint → Bool
  | .scalar c => Text.isBlank c
  | .surrogate _ => false

/-- Whether a code point is a character that ends a line. -/
def CodePoint.isLineBreak : CodePoint → Bool
  | .scalar c => Text.isLineBreak c
  | .surrogate _ => false

/-- What is left of a text without the blanks it starts with. -/
def trimStart (text : Text) : Text := text.dropWhile CodePoint.isBlank

/-- What is left of a text without the blanks it ends with. -/
def trimEnd (text : Text) : Text := (text.reverse.dropWhile CodePoint.isBlank).reverse

/-- What is left of a text without the blanks at either end. -/
def trim (text : Text) : Text := trimEnd (trimStart text)

/-- How many blanks a text starts with. -/
def indent (text : Text) : Nat := (text.takeWhile CodePoint.isBlank).length

/-- Puts a code point at the front of the first line. -/
def consFirst (c : CodePoint) : List Text → List Text
  | [] => [[c]]
  | line :: rest => (c :: line) :: rest

/-- The lines of a text, without the breaks that end them. A carriage return and the line feed
after it are one break, and nothing follows a break at the end of the text. -/
def lines : Text → List Text
  | [] => []
  | .scalar '\r' :: .scalar '\n' :: rest => [] :: lines rest
  | c :: rest => if c.isLineBreak then [] :: lines rest else consFirst c (lines rest)

/-- Characters with every carriage return, alone or before a line feed, replaced by a line feed. -/
def unifyBreaks : List Char → List Char
  | [] => []
  | '\r' :: '\n' :: rest => '\n' :: unifyBreaks rest
  | '\r' :: rest => '\n' :: unifyBreaks rest
  | c :: rest => c :: unifyBreaks rest

/-- The parts of a list before and after the first place where `mark` stands in it. -/
def splitFirst {α : Type} [DecidableEq α] (mark : List α) : List α → Option (List α × List α)
  | [] => if mark.isEmpty then some ([], []) else none
  | c :: rest =>
    if mark.isPrefixOf (c :: rest) then some ([], (c :: rest).drop mark.length)
    else (splitFirst mark rest).map fun (before, after) => (c :: before, after)

/-- The pieces between the marks in a string, one more than there are marks. -/
def pieces (mark : Char) (s : String) : List String :=
  (s.toList.splitOn mark).map String.ofList

end TurtleGrammar.Text
