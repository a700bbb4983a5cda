import TurtleGrammar.Event
import TurtleGrammar.Word

/-! The turtle: a place, a heading, a stack of remembered frames, and a record of what it did since
it last started over. -/

namespace TurtleGrammar

/-- Why a symbol cannot be applied. -/
inductive TurtleError
  /-- A pop with nothing pushed. -/
  | underflow
  /-- A move along a heading that is infinite and so has no direction. -/
  | noDirection
deriving DecidableEq, Repr

/-- The words in which an error is reported. -/
def TurtleError.message : TurtleError → String
  | .underflow => "pop with only the base frame left; brackets are unbalanced"
  | .noDirection => "math domain error"

/-- The length of a move, which is positive. -/
structure StepLength where
  value : Float
  pos : 0 < value

/-- The length that a number gives, if it is positive. -/
def StepLength.ofFloat? (x : Float) : Option StepLength :=
  if h : 0 < x then some ⟨x, h⟩ else none

/-- A remembered place and heading. -/
structure Frame where
  place : Place
  heading : Float

/-- A turtle on the plane. -/
structure Turtle where
  step : StepLength
  place : Place
  /-- The direction of a move, in radians against the clock from the direction of `x`. -/
  heading : Float
  /-- The frame at which the turtle last started over. It lies under all others and is never
  popped. -/
  base : Frame
  /-- The frames pushed since then and not popped, the latest first. -/
  branches : List Frame
  /-- The symbols applied since then with the place each left, the latest first. -/
  trail : List (Symbol × Place)
  /-- How many moves the turtle made in its life. -/
  travelled : Nat

namespace Turtle

/-- A turtle at a point. The coordinates and the heading are floating-point numbers from the
start. -/
def start (step : StepLength) (origin : Point) (heading : Float) : Turtle :=
  let place := Place.ofPoint origin
  { step, place, heading, base := ⟨place, heading⟩, branches := [], trail := [], travelled := 0 }

/-- The turtle taken to a point, with everything but its step forgotten. The coordinates and the
heading are floating-point numbers already, so there is nothing to convert that could be refused when
the place is set and the heading is not. -/
def restart (t : Turtle) (origin : Point) (heading : Float) : Turtle :=
  { Turtle.start t.step origin heading with travelled := t.travelled }

/-- The place and heading as they are. -/
def frame (t : Turtle) : Frame := ⟨t.place, t.heading⟩

/-- The point at which the turtle is. -/
def position (t : Turtle) : Point := t.place.point

/-- Where the record starts. -/
def anchor (t : Turtle) : Place := t.base.place

/-- The remembered frames, the base first. -/
def stack (t : Turtle) : List Frame := t.base :: t.branches.reverse

/-- How many frames are remembered, the base among them. -/
def depth (t : Turtle) : Nat := t.branches.length + 1

/-- What the turtle did since it last started over, in order. -/
def recorded (t : Turtle) : List (Symbol × Place) := t.trail.reverse

/-- Remembers the frame. -/
def push (t : Turtle) : Turtle := { t with branches := t.frame :: t.branches }

/-- Returns to the frame last remembered and forgets it. -/
def pop (t : Turtle) : Except TurtleError Turtle :=
  match t.branches with
  | [] => .error .underflow
  | f :: rest => .ok { t with place := f.place, heading := f.heading, branches := rest }

/-- Starts over from here: only the frame as it is stays remembered, and the record is empty. -/
def reset (t : Turtle) : Turtle := { t with base := t.frame, branches := [], trail := [] }

/-- Goes one step along the heading. -/
def move (t : Turtle) : Except TurtleError Turtle :=
  if t.heading.isInf then .error .noDirection
  else
    let p := t.position
    let q : Point :=
      { x := p.x + t.step.value * t.heading.cos, y := p.y + t.step.value * t.heading.sin }
    .ok { t with place := ⟨q, some t.travelled⟩, travelled := t.travelled + 1 }

/-- Turns by an angle, against the clock. -/
def turn (t : Turtle) (angle : Float) : Turtle := { t with heading := t.heading + angle }

/-- What a symbol does to everything but the record. A turn is by `delta`. -/
def act (t : Turtle) (s : Symbol) (delta : Float) : Except TurtleError Turtle :=
  match s with
  | .forward _ | .skip => t.move
  | .turnLeft => .ok (t.turn delta)
  | .turnRight => .ok (t.turn (-delta))
  | .push => .ok t.push
  | .pop => t.pop
  | .reset => .ok t.reset
  | .node _ => .ok t

/-- Applies a symbol. All symbols but the reset enter the record. -/
def update (t : Turtle) (s : Symbol) (delta : Float) : Except TurtleError Turtle := do
  let t' ← t.act s delta
  if s = .reset then pure t' else pure { t' with trail := (s, t'.place) :: t'.trail }

/-- What is reported when a symbol is applied. -/
def events (t : Turtle) (s : Symbol) : List Event :=
  if s = .reset then [.turtleReset t.position] else []

/-- The lines in a record that starts at a place. -/
def segmentsFrom (last : Place) : List (Symbol × Place) → List Segment
  | [] => []
  | (s, place) :: rest =>
    if s.draws then ⟨last, place⟩ :: segmentsFrom place rest else segmentsFrom place rest

/-- The lines drawn since the turtle last started over, in order, rebuilt from the record. -/
def segments (t : Turtle) : List Segment := segmentsFrom t.anchor t.recorded

end Turtle

end TurtleGrammar
