import TurtleGrammar.Grammar.ParseError
import TurtleGrammar.Text.Blank
import TurtleGrammar.Word

/-! The reading of a word. Each code point that is not blank is one symbol: a capital letter draws,
the letter `f` moves without drawing, every other small letter is a node, and the signs and
brackets turn and branch. -/

namespace TurtleGrammar

/-- The symbol that a character writes. -/
def Symbol.ofChar? (c : Char) : Option Symbol :=
  if c = '+' then some .turnLeft
  else if c = '-' then some .turnRight
  else if c = '[' then some .push
  else if c = ']' then some .pop
  else if c = 'f' then some .skip
  else if h : c.isUpper = true then some (.forward (.ofAlpha c (Letter.isAlpha_of_isUpper h)))
  else if h : c.isLower = true then some (.node (.ofAlpha c (Letter.isAlpha_of_isLower h)))
  else none

/-- The symbol that a code point writes. -/
def Symbol.ofCodePoint? : Text.CodePoint → Option Symbol
  | .scalar c => ofChar? c
  | .surrogate _ => none

namespace Word

/-- The code points of a text that are not blank, each with its distance from the start. -/
def tokens (text : Text) : List (Text.CodePoint × Nat) :=
  text.zipIdx.filter fun (c, _) => !c.isBlank

/-- The word that a text writes, of which the first code point stands at a line and a column. -/
def parse (text : Text) (line column : Int) : Except ParseError Word :=
  (tokens text).mapM fun (c, i) =>
    match Symbol.ofCodePoint? c with
    | some s => .ok s
    | none => .error ⟨line, column + i, .unknownToken c⟩

end Word

end TurtleGrammar
