import TurtleGrammar.LSystem
import TurtleGrammar.Turtle

/-! A turtle that plays a system, one symbol at each tick, round after round. -/

namespace TurtleGrammar

/-- A turtle and the system it plays. -/
structure Playback where
  turtle : Turtle
  system : LSystem

namespace Playback

/-- One tick: the turtle applies the next symbol, and only then is the symbol taken. A symbol that
draws gives a segment. -/
def tick (p : Playback) : Except TurtleError (Option Segment × Playback) := do
  let s := p.system.peek
  let turtle ← p.turtle.update s p.system.definition.delta
  let drawn := if s.draws then some ⟨p.turtle.place, turtle.place⟩ else none
  pure (drawn, ⟨turtle, p.system.advance⟩)

/-- What the next tick reports. -/
def events (p : Playback) : List Event := p.turtle.events p.system.peek

/-- What some ticks gave: the lines drawn and the events, in order, the error that ended them if
one did, and the playback after the last tick that succeeded. -/
structure Run where
  segments : Array Segment
  events : Array Event
  failure : Option TurtleError
  final : Playback

/-- A run of no ticks. -/
def Run.start (p : Playback) : Run := ⟨#[], #[], none, p⟩

/-- A run that goes on for some ticks, or up to the first that fails. -/
def Run.extend : Nat → Run → Run
  | 0, r => r
  | n + 1, r =>
    match r.final.tick with
    | .error e => { r with failure := some e }
    | .ok (drawn, next) =>
      extend n
        { r with
          segments := r.segments ++ drawn.toArray
          events := r.events ++ r.final.events.toArray
          final := next }

/-- Some ticks. -/
def run (n : Nat) (p : Playback) : Run := (Run.start p).extend n

/-- The number of ticks that an integer asks for. -/
def ticks (n : Int) : Except Refusal Nat :=
  if n < 0 then .error .negativeTicks else .ok n.toNat

/-- The ticks up to the end of the word, without the reset that follows it. -/
def replay (p : Playback) : Run := p.run p.system.remaining

end Playback

end TurtleGrammar
