import TurtleGrammar.Number.Shortest

/-! The plane: points, the places that a turtle comes to and the lines it draws between them, and
angles, which turtles measure in radians and people in degrees. -/

namespace TurtleGrammar

/-- A pair of coordinates. -/
structure Point where
  x : Float
  y : Float

/-- Whether two points have equal coordinates, where no coordinate that is not a number equals any
other and the two zeros are equal. -/
def Point.agrees (p q : Point) : Bool := p.x == q.x && p.y == q.y

/-- A point together with the occasion on which it was reached: the number of the turtle's move
that led there, or none for a point that no move led to. Coming back to a remembered place is no
new occasion. -/
structure Place where
  point : Point
  visit : Option Nat

/-- A place that no move led to. -/
def Place.ofPoint (p : Point) : Place := ⟨p, none⟩

/-- Whether a line that ends at one place goes on in one that starts at the other: the coordinates
are equal, or both are the same visit, even of a point whose coordinates are not numbers. -/
def Place.meets (p q : Place) : Bool :=
  p.visit.isSome && p.visit == q.visit || p.point.agrees q.point

/-- A line drawn from one place to another. -/
structure Segment where
  start : Place
  stop : Place

namespace Angle

/-- Half a turn, in radians. -/
def pi : Float := 3.141592653589793

/-- An angle given in degrees, in radians. -/
def ofDegrees (degrees : Float) : Float := degrees * (pi / 180.0)

/-- An angle given in radians, in degrees. -/
def toDegrees (radians : Float) : Float := radians * (180.0 / pi)

/-- An angle in degrees to a number of decimals. -/
def degreesText (places : Nat) (radians : Float) : String :=
  Number.Shortest.text (Number.Fixed.round places (toDegrees radians))

end Angle

end TurtleGrammar
