import TurtleGrammar.Text.Blank
import TurtleGrammar.Text.Quoted

/-! Locations in a tree of directories, and the paths that lead to them. -/

namespace TurtleGrammar

/-- A place in a tree of directories, by the names that lead there from the root. -/
abbrev Location := List String

namespace Location

/-- Where one more name leads. The root lies in itself. -/
def enter (l : Location) (name : String) : Location :=
  if name = "." then l else if name = ".." then l.dropLast else l ++ [name]

/-- The names in a path. -/
def namesOf (path : String) : List String := (Text.pieces '/' path).filter (!·.isEmpty)

/-- Where a path starts, for one whose working directory is `home`. -/
def startOf (home : Location) (path : String) : Location :=
  if path.startsWith "/" then [] else home

/-- Where a path leads by its names alone, whatever is there. -/
def ofPath (home : Location) (path : String) : Location :=
  (namesOf path).foldl enter (startOf home path)

/-- How the path from the root starts that stands for another path. Two slashes stay, while one or
more than two are one. -/
def rootOf (path : String) : String :=
  if path.startsWith "//" && !path.startsWith "///" then "//" else "/"

/-- The path from the root, which is written in the given way. -/
def pathFrom (root : String) (l : Location) : String := root ++ "/".intercalate l

/-- The path from the root. -/
def path (l : Location) : String := pathFrom "/" l

end Location

end TurtleGrammar
