import TurtleGrammar.Number.Binary64
import TurtleGrammar.Plane
import TurtleGrammar.Refusal

/-! The least rectangle that holds points. -/

namespace TurtleGrammar

/-- A rectangle along the axes, by its extreme coordinates. -/
structure Bounds where
  minX : Float
  minY : Float
  maxX : Float
  maxY : Float

namespace Bounds

/-- The bounds of no points. -/
def empty : Bounds :=
  let top := Number.Binary64.infinity false
  let bottom := Number.Binary64.infinity true
  ⟨top, top, bottom, bottom⟩

/-- The second number if it is less than the first, and else the first. -/
def lesser (a b : Float) : Float := if b < a then b else a

/-- The second number if it is greater than the first, and else the first. -/
def greater (a b : Float) : Float := if a < b then b else a

/-- The bounds with a point taken in. A coordinate that is not a number changes nothing. -/
def cover (b : Bounds) (p : Point) : Bounds :=
  { minX := lesser b.minX p.x
    minY := lesser b.minY p.y
    maxX := greater b.maxX p.x
    maxY := greater b.maxY p.y }

/-- The bounds of points. -/
def ofPoints (points : List Point) : Bounds := points.foldl cover empty

/-- The bounds of polylines, of which there has to be one. -/
def ofPolylines (polylines : List (List Point)) : Except Refusal Bounds :=
  if polylines.isEmpty then .error .nothingDrawn else .ok (ofPoints polylines.flatten)

/-- The bounds with a margin on all sides. -/
def widen (b : Bounds) (margin : Float) : Bounds :=
  ⟨b.minX - margin, b.minY - margin, b.maxX + margin, b.maxY + margin⟩

/-- How far the bounds reach from left to right. -/
def width (b : Bounds) : Float := b.maxX - b.minX

/-- How far the bounds reach from bottom to top. -/
def height (b : Bounds) : Float := b.maxY - b.minY

end Bounds

end TurtleGrammar
