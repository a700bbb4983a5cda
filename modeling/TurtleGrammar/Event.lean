import TurtleGrammar.Number.Fixed
import TurtleGrammar.Plane
import TurtleGrammar.Symbol

/-! Events: what a run reports on the way to its result. -/

namespace TurtleGrammar

/-- Something that a run reports. -/
inductive Event
  /-- A line of a grammar gives a second rule for a symbol. -/
  | ruleRedefined (key : Symbol) (line : Nat)
  /-- A system was rewritten to its last generation. -/
  | systemBuilt (name : Text) (generations : Int) (length : Nat)
  /-- A turtle started over from a point. -/
  | turtleReset (point : Point)
  /-- A player went over to another system. -/
  | switched (name : Text)

namespace Event

/-- How much an event matters. -/
def level : Event → String
  | .switched _ => "INFO"
  | _ => "DEBUG"

/-- The words in which an event is reported. -/
def message : Event → String
  | .ruleRedefined key line => s!"rule for {key.char} redefined on line {line}"
  | .systemBuilt name generations length =>
    s!"built {name.shown}: {generations} generations, {length} symbols"
  | .turtleReset p => s!"turtle reset at ({Number.Fixed.text 3 p.x}, {Number.Fixed.text 3 p.y})"
  | .switched name => s!"switched to {name.shown}"

end Event

end TurtleGrammar
