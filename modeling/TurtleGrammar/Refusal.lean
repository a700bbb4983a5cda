import TurtleGrammar.Grammar.ParseError
import TurtleGrammar.Json.Error
import TurtleGrammar.Symbol

/-! Why a grammar, a configuration, a drawing or a request is refused. -/

namespace TurtleGrammar

/-- What a field of a configuration has to be. -/
inductive FieldType
  | number
  | integer
  | string
  | boolean
  | object
deriving DecidableEq, Repr

/-- The words for a type in messages. -/
def FieldType.phrase : FieldType → String
  | .number => "a number"
  | .integer => "an integer"
  | .string => "a string"
  | .boolean => "a boolean"
  | .object => "an object"

/-- One cause of refusal. A path names a field of a configuration. -/
inductive Refusal
  | symbol (e : SymbolError)
  | parse (e : ParseError)
  | negativeGenerations
  | stepNotPositive
  | negativeTicks
  | unknownPreset (name : String) (known : List String)
  | wrongType (path : String) (expected : FieldType)
  | blankInitial
  | precisionOutOfRange
  | sizeNotPositive (path : String)
  | badJson (file : String) (e : Json.Error)
  | nothingDrawn
  /-- Bounds without width or without height. -/
  | degenerateBounds
  /-- Both a preset and a configuration are given. -/
  | twoSources
  /-- Neither a preset nor a configuration is given. -/
  | noSource
  | needsOutputOnly
  | needsPresetAndOutput
deriving DecidableEq

/-- The words in which a refusal is reported. -/
def Refusal.message : Refusal → String
  | .symbol e => e.message
  | .parse e => e.message
  | .negativeGenerations => "iterations must be >= 0"
  | .stepNotPositive => "turtle.step must be > 0"
  | .negativeTicks => "ticks must be >= 0"
  | .unknownPreset name known =>
    "unknown preset " ++ Text.quoted name ++ "; choose one of: " ++ ", ".intercalate known
  | .wrongType path expected => path ++ " must be " ++ expected.phrase
  | .blankInitial => "axiom must be non-empty"
  | .precisionOutOfRange => "svg.precision must be between 0 and 10"
  | .sizeNotPositive path => path ++ " must be > 0"
  | .badJson file e => s!"Invalid JSON in {file}: " ++ e.message
  | .nothingDrawn => "No drawable geometry produced."
  | .degenerateBounds =>
    "Degenerate bounds after margin (width or height is zero). " ++
      "Set svg.margin > 0 to render collinear geometry."
  | .twoSources => "give either a preset name or --config, not both"
  | .noSource => "a preset name or --config is required"
  | .needsOutputOnly => "render --config takes only OUTPUT"
  | .needsPresetAndOutput => "render takes PRESET OUTPUT"

end TurtleGrammar
