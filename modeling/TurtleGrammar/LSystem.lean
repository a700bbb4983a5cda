import TurtleGrammar.Definition

/-! A system: a word that was rewritten once and for all, and a cursor that goes round it. After
the last symbol comes a reset, and then the word from its start again. -/

namespace TurtleGrammar

/-- A word with a cursor in it, and the definition that it comes from. -/
structure LSystem where
  definition : Definition
  word : Array Symbol
  /-- How many symbols of this round have been taken. -/
  cursor : Nat
  cursor_le : cursor ≤ word.size

namespace LSystem

/-- The system of a definition, at the start of its word. -/
def build (d : Definition) : Outcome Refusal LSystem := do
  let w ← Outcome.ofExcept d.word
  Outcome.report [.systemBuilt d.name d.generations w.length]
  pure { definition := d, word := w.toArray, cursor := 0, cursor_le := Nat.zero_le _ }

/-- The system of the definition that texts give. -/
def construct (name initial rules : Text) (generations : Int) (delta : Float) :
    Outcome Refusal LSystem := do
  build (← Definition.parse name initial rules generations delta)

/-- The symbol to be taken next. -/
def peek (s : LSystem) : Symbol := s.word[s.cursor]?.getD .reset

/-- The system once its next symbol is taken. -/
def advance (s : LSystem) : LSystem :=
  if h : s.cursor < s.word.size then { s with cursor := s.cursor + 1, cursor_le := h }
  else { s with cursor := 0, cursor_le := Nat.zero_le _ }

/-- How many symbols are left before the reset. -/
def remaining (s : LSystem) : Nat := s.word.size - s.cursor

end LSystem

end TurtleGrammar
