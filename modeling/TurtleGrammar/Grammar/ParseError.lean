import TurtleGrammar.Text.Quoted

/-! Why the text of a grammar cannot be read, and where. -/

namespace TurtleGrammar

/-- What is wrong with the text of a grammar. -/
inductive ParseError.Cause
  /-- A code point that is neither blank nor a symbol. -/
  | unknownToken (c : Text.CodePoint)
  /-- The left side of a rule is not one letter. -/
  | malformedPredecessor (side : Text)
  /-- A rule without an arrow. -/
  | missingArrow (rule : Text)
  /-- A rule with nothing after its arrow. -/
  | missingReplacement (rule : Text)
deriving DecidableEq

/-- The words for a cause, without its place. -/
def ParseError.Cause.message : ParseError.Cause → String
  | .unknownToken c => "unknown token " ++ Text.quoted [c]
  | .malformedPredecessor side =>
    "predecessor " ++ Text.quoted side ++ " must be exactly one letter"
  | .missingArrow rule =>
    "rule " ++ Text.quoted rule ++ " is missing " ++ Text.quoted "=>"
  | .missingReplacement rule =>
    "rule " ++ Text.quoted rule ++ " has no replacement"

/-- A cause with the place of the offending text. Lines and columns count from one, unless a caller
says that the text stands elsewhere in a larger one. -/
structure ParseError where
  line : Int
  column : Int
  cause : ParseError.Cause
deriving DecidableEq

/-- The words for an error, its place first. -/
def ParseError.message (e : ParseError) : String :=
  s!"line {e.line}, column {e.column}: " ++ e.cause.message

end TurtleGrammar
