import TurtleGrammar.Document
import TurtleGrammar.Drawing.Bounds
import TurtleGrammar.Drawing.Polyline
import TurtleGrammar.Number.Fixed

/-! The writing of a drawing as an SVG document: a polyline for each chain of segments, in a view
that shows the bounds of the drawing with a margin. -/

namespace TurtleGrammar.Svg

/-- How lines are drawn. -/
structure Style where
  stroke : Text
  strokeWidth : Float
  fill : Text
  lineCap : Text
  lineJoin : Text

/-- Thin black lines with round ends and corners. -/
def Style.standard : Style := ⟨"#000", 1.0, "none", "round", "round"⟩

/-- What a document shows beside the drawing, and how. -/
structure Sheet where
  margin : Float
  /-- The number of decimals in the document. A document can be asked for with any number, but is
  not rendered with a number that numerals cannot have. -/
  precision : Int
  /-- Whether `y` grows upwards, as it does for the turtle and not in SVG. -/
  flip : Bool
  width : Option Float
  height : Option Float
  style : Style
  background : Option Text
  title : Option Text

/-- The bounds of polylines with a margin. The view needs a width and a height. -/
def view (margin : Float) (polylines : List (List Point)) : Except Refusal Bounds := do
  let b := (← Bounds.ofPolylines polylines).widen margin
  if 0 < b.width ∧ 0 < b.height then pure b else .error .degenerateBounds

/-- A code point of a title as markup shows it. -/
def escapeCodePoint (c : Text.CodePoint) : Text :=
  if c = .scalar '&' then "&amp;"
  else if c = .scalar '<' then "&lt;"
  else if c = .scalar '>' then "&gt;"
  else [c]

/-- A text as markup shows it. -/
def escape (text : Text) : Text := text.flatMap escapeCodePoint

/-- An attribute with a blank before it. -/
def attr (name : String) (value : Text) : Text := " " ++ name ++ "=\"" ++ value ++ "\""

namespace Sheet

variable (sheet : Sheet)

/-- A number as the document shows it. -/
def numeral (x : Float) : Text := Number.Compact.text sheet.precision.toNat x

/-- A size of the document. No size and the size zero both leave the attribute out. -/
def sizeAttribute (name : String) : Option Float → Text
  | some x => if x == 0.0 then [] else attr name (sheet.numeral x)
  | none => []

/-- The tag that opens the document. -/
def root (b : Bounds) : Text :=
  let box :=
    [.scalar ' '].intercalate [sheet.numeral b.minX, sheet.numeral b.minY,
      sheet.numeral b.width, sheet.numeral b.height]
  "<svg" ++ attr "xmlns" "http://www.w3.org/2000/svg" ++ attr "version" "1.1" ++
    attr "viewBox" box ++ sheet.sizeAttribute "width" sheet.width ++
    sheet.sizeAttribute "height" sheet.height ++ ">"

/-- The line of the title, if there is one that is not empty. -/
def titleLines : List Text :=
  match sheet.title with
  | some title => if title.isEmpty then [] else ["  <title>" ++ escape title ++ "</title>"]
  | none => []

/-- The rectangle behind the drawing, if a colour is given for it. -/
def backgroundLines (b : Bounds) : List Text :=
  match sheet.background with
  | some colour =>
    if colour.isEmpty || colour.shown.toLower == "none" then []
    else
      ["  <rect" ++ attr "x" (sheet.numeral b.minX) ++ attr "y" (sheet.numeral b.minY) ++
        attr "width" (sheet.numeral b.width) ++
        attr "height" (sheet.numeral b.height) ++ attr "fill" colour ++ " />"]
  | none => []

/-- The attributes that every polyline has. -/
def styleAttributes : Text :=
  attr "stroke" sheet.style.stroke ++
    attr "stroke-width" (sheet.numeral sheet.style.strokeWidth) ++
    attr "fill" sheet.style.fill ++ attr "stroke-linecap" sheet.style.lineCap ++
    attr "stroke-linejoin" sheet.style.lineJoin

/-- A point of a polyline. -/
def pointText (p : Point) : Text := sheet.numeral p.x ++ "," ++ sheet.numeral p.y

/-- The tag of a polyline. -/
def polylineTag (points : List Point) : Text :=
  "<polyline" ++ attr "points" ([.scalar ' '].intercalate (points.map sheet.pointText)) ++
    sheet.styleAttributes ++ " />"

/-- The lines of the drawing. To flip it, it is mirrored at the middle of the view. -/
def drawingLines (b : Bounds) (polylines : List (List Point)) : List Text :=
  if sheet.flip then
    let transform : Text := "translate(0," ++ sheet.numeral (b.minY + b.maxY) ++ ") scale(1,-1)"
    ("  <g" ++ attr "transform" transform ++ ">") ::
      polylines.map (fun points => "    " ++ sheet.polylineTag points) ++ [("  </g>" : Text)]
  else polylines.map fun points => "  " ++ sheet.polylineTag points

/-- The lines of the document. -/
def lines (b : Bounds) (polylines : List (List Point)) : List Text :=
  let opening : List Text := ["<?xml version=\"1.0\" encoding=\"UTF-8\"?>", sheet.root b]
  opening ++ sheet.titleLines ++ sheet.backgroundLines b ++ sheet.drawingLines b polylines ++
    [("</svg>" : Text)]

/-- The document that shows polylines. All but the end of its last line is one piece. -/
def renderPolylines (polylines : List (List Point)) : Except Failure Document := do
  let b ← (view sheet.margin polylines).mapError .refused
  let _ ← (Number.Fixed.places? sheet.precision).mapError .places
  pure [[.scalar '\n'].intercalate (sheet.lines b polylines), [.scalar '\n']]

/-- The document that shows segments. -/
def render (segments : List Segment) : Except Failure Document :=
  sheet.renderPolylines ((Polyline.chain segments).map Polyline.points)

end Sheet

end TurtleGrammar.Svg
