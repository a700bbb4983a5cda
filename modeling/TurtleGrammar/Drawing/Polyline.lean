import TurtleGrammar.Plane

/-! Polylines: lines drawn one after another, each from where the one before it ended. -/

namespace TurtleGrammar

/-- A polyline, which has at least two places. -/
structure Polyline where
  first : Place
  second : Place
  rest : List Place

namespace Polyline

/-- The places of a polyline in order. -/
def places (p : Polyline) : List Place := p.first :: p.second :: p.rest

/-- The points of a polyline in order. -/
def points (p : Polyline) : List Point := p.places.map Place.point

/-- Puts a segment before polylines. If the first of them goes on where the segment ends, it is
made longer and its first place gives way to the end of the segment. -/
def prepend (s : Segment) : List Polyline → List Polyline
  | p :: ps =>
    if s.stop.meets p.first then ⟨s.start, s.stop, p.second :: p.rest⟩ :: ps
    else ⟨s.start, s.stop, []⟩ :: p :: ps
  | [] => [⟨s.start, s.stop, []⟩]

/-- The polylines that segments make when each goes on in the next wherever they meet. -/
def chain (segments : List Segment) : List Polyline := segments.foldr prepend []

end Polyline

end TurtleGrammar
