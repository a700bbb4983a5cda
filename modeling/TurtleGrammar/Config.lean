import TurtleGrammar.Catalog
import TurtleGrammar.Drawing.Svg
import TurtleGrammar.Json.Field
import TurtleGrammar.Json.Reader
import TurtleGrammar.Json.Writer
import TurtleGrammar.Playback

/-! Configurations: a definition, where and in which steps a turtle plays it, and the sheet on which
the drawing appears. A configuration is read from a JSON object, in which every field but the first
word may be left out. -/

namespace TurtleGrammar

/-- Where a turtle starts, with its heading in degrees. -/
structure Departure where
  x : Float
  y : Float
  heading : Float

/-- A whole configuration, every field of which has its value. -/
structure Config where
  definition : Definition
  step : StepLength
  departure : Departure
  sheet : Svg.Sheet

namespace Config

open Json

/-- The definition of a configuration. -/
def parseDefinition (members : Members) : Outcome Failure Definition := do
  let (name, initial, generations, rules, angle) ← Outcome.ofExcept do
    let name ← field members "name" (Text.ofString "L-System") (Value.asString "name")
    let initial ← field members "axiom" [] (Value.asString "axiom")
    require (!(Text.trim initial).isEmpty) .blankInitial
    let generations ← field members "iterations" 0 (Value.asInteger "iterations")
    require (0 ≤ generations) .negativeGenerations
    let rules ← field members "rules" [] (Value.asRules "rules")
    let angle ← field members "angle" 90.0 (Value.asNumber "angle")
    pure (name, initial, generations, rules, angle)
  (Definition.parse name initial rules generations (Angle.ofDegrees angle)).mapError .refused

/-- The step of the turtle. -/
def parseStep (turtle : Members) : Except Failure StepLength := do
  let step ← field turtle "step" 10.0 (Value.asNumber "turtle.step")
  match StepLength.ofFloat? step with
  | some step => pure step
  | none => .error (.refused .stepNotPositive)

/-- Where the turtle starts. -/
def parseDeparture (turtle : Members) : Except Failure Departure := do
  let start ← field turtle "start" [] (Value.asObject "turtle.start")
  let x ← field start "x" 0.0 (Value.asNumber "turtle.start.x")
  let y ← field start "y" 0.0 (Value.asNumber "turtle.start.y")
  let heading ← field start "heading" 0.0 (Value.asNumber "turtle.start.heading")
  pure { x, y, heading }

/-- How lines are drawn. -/
def parseStyle (svg : Members) : Except Failure Svg.Style := do
  let style ← field svg "style" [] (Value.asObject "svg.style")
  let standard := Svg.Style.standard
  let stroke ← field style "stroke" standard.stroke (Value.asString "svg.style.stroke")
  let strokeWidth ←
    field style "stroke_width" standard.strokeWidth (Value.asNumber "svg.style.stroke_width")
  let fill ← field style "fill" standard.fill (Value.asString "svg.style.fill")
  let lineCap ←
    field style "stroke_linecap" standard.lineCap (Value.asString "svg.style.stroke_linecap")
  let lineJoin ←
    field style "stroke_linejoin" standard.lineJoin (Value.asString "svg.style.stroke_linejoin")
  pure { stroke, strokeWidth, fill, lineCap, lineJoin }

/-- The colour behind the drawing, which may be left out or null. -/
def parseBackground (svg : Members) : Except Failure (Option Text) :=
  match Value.member? "background" svg with
  | none => .ok none
  | some .null => .ok none
  | some v => do pure (some (← v.asString "svg.background"))

/-- The sheet of a drawing with a title. -/
def parseSheet (members : Members) (title : Text) : Except Failure Svg.Sheet := do
  let svg ← field members "svg" [] (Value.asObject "svg")
  let margin ← field svg "margin" 10.0 (Value.asNumber "svg.margin")
  let precision ← field svg "precision" 3 (Value.asInteger "svg.precision")
  require (0 ≤ precision && precision ≤ 10) .precisionOutOfRange
  let flip ← field svg "flip_y" true (Value.asBoolean "svg.flip_y")
  let width ← size svg "width" "svg.width"
  let height ← size svg "height" "svg.height"
  let style ← parseStyle svg
  let background ← parseBackground svg
  pure { margin, precision, flip, width, height, style, background, title := some title }

/-- The configuration that a value gives. Of several faults the first counts, in the order of the
fields: the definition, the turtle, the sheet. -/
def parse (v : Value) : Outcome Failure Config := do
  let members ← Outcome.ofExcept (v.asObject "root")
  let definition ← parseDefinition members
  Outcome.ofExcept do
    let turtle ← field members "turtle" [] (Value.asObject "turtle")
    let step ← parseStep turtle
    let departure ← parseDeparture turtle
    let sheet ← parseSheet members definition.name
    pure { definition, step, departure, sheet }

/-- A definition as the value of a configuration, with its angle in degrees to six decimals and the
turtle and the sheet of the catalog. -/
def ofDefinition (d : Definition) : Value :=
  let zero : Value := .int 0
  .ofMembers
    [("name", .string d.name), ("axiom", .string d.initial.text),
      ("iterations", .int d.generations),
      ("rules", .array (d.rules.lines.map fun line => .string (Text.ofChars line))),
      ("angle", .float (Number.Fixed.round 6 (Angle.toDegrees d.delta))),
      ("turtle", .ofMembers
        [("step", .int 4),
          ("start", .ofMembers [("x", zero), ("y", zero), ("heading", zero)])]),
      ("svg", .ofMembers [("margin", .int 10), ("precision", .int 3), ("flip_y", .bool true)])]

/-- The configuration of a preset as a value. -/
def ofPreset (name : String) : Outcome Failure Value := do
  pure (ofDefinition (← (Preset.find name).mapError .refused))

/-- The value in a file. Line breaks of every kind count as line feeds. -/
def load (files : Files) (path : String) : Except Failure Value := do
  let content ← (files.read path).mapError .file
  let text ← content.decode.mapError .malformedText
  (Json.read (Text.unifyBreaks text)).mapError fun
    | .malformed e => .refused (.badJson path e)
    | .tooManyDigits count => .tooManyDigits count

/-- The turtle of a configuration, about to play its system. -/
def playback (c : Config) : Outcome Failure Playback := do
  let system ← (LSystem.build c.definition).mapError .refused
  let origin : Point := ⟨c.departure.x, c.departure.y⟩
  pure ⟨Turtle.start c.step origin (Angle.ofDegrees c.departure.heading), system⟩

end Config

end TurtleGrammar
