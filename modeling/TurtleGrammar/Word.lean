import TurtleGrammar.Symbol

/-! Words over the alphabet: how they are written, how many symbols of each kind they hold, and
whether their brackets match. -/

namespace TurtleGrammar

/-- A sequence of instructions. -/
abbrev Word := List Symbol

namespace Word

/-- A word as it is written, one character for each symbol. -/
def chars (w : Word) : List Char := w.map Symbol.char

/-- A written word as a string. -/
def text (w : Word) : String := String.ofList w.chars

/-- How many symbols of a kind a word holds. -/
def count (w : Word) (k : Kind) : Nat := w.countP (·.kind = k)

/-- The kinds that occur in a word, in alphabetical order, each with its count. -/
def kindCounts (w : Word) : List (Kind × Nat) :=
  (Kind.all.map fun k => (k, w.count k)).filter (0 < ·.2)

/-- Whether a word read with `depth` brackets open closes them all, and never one that is not open
at that point. -/
def closes : (depth : Nat) → Word → Bool
  | depth, [] => depth = 0
  | depth, .push :: rest => closes (depth + 1) rest
  | 0, .pop :: _ => false
  | depth + 1, .pop :: rest => closes depth rest
  | depth, _ :: rest => closes depth rest

/-- Whether every pop has a push before it and every push a pop after it. -/
def isBalanced (w : Word) : Bool := closes 0 w

end Word

end TurtleGrammar
