import TurtleGrammar.LSystem
import TurtleGrammar.Plane
import TurtleGrammar.Random.Twister

/-! The built-in grammars. -/

namespace TurtleGrammar

/-- A built-in grammar. -/
structure Preset where
  name : String
  initial : String
  rules : String
  generations : Nat
  /-- The angle of one turn, in radians. -/
  delta : Float

namespace Preset

/-- The catalog: Koch curves and their variants, the curves of dragon, Sierpinski and Gosper, and
plants. -/
def all : List Preset :=
  let right := Angle.pi / 2.0
  let sixth := Angle.pi / 3.0
  let degrees := Angle.ofDegrees
  [⟨"cyclone", "F-F-F-F", "F => F-F+F+FF-F-F+F", 2, right⟩,
    ⟨"caret", "-F", "F => F+F-F-F+F", 4, right⟩,
    ⟨"islands", "F+F+F+F", "F => F+f-FF+F+FF+Ff+FF-f+FF-F-FF-Ff-FFF\nf => ffffff", 2, right⟩,
    ⟨"xshape", "F-F-F-F", "F => FF-F-F-F-F-F+F", 4, right⟩,
    ⟨"square", "F-F-F-F", "F => FF-F-F-F-FF", 4, right⟩,
    ⟨"grid", "F-F-F-F", "F => FF-F+F-F-FF", 3, right⟩,
    ⟨"sparse", "F-F-F-F", "F => FF-F--F-F", 4, right⟩,
    ⟨"dense", "F-F-F-F", "F => F-FF--F-F", 5, right⟩,
    ⟨"snowflake", "F-F-F-F", "F => F-F+F-F-F", 4, right⟩,
    ⟨"dragon", "L", "L => L+R+\nR => -L-R", 10, right⟩,
    ⟨"sierpinski", "R", "L => R+L+R\nR => L-R-L", 6, sixth⟩,
    ⟨"hex_gosper", "L", "L => L+R++R-L--LL-R+\nR => -L+RR++R+L--L-R", 4, sixth⟩,
    ⟨"quad_gosper", "-R",
      "L => LL-R-R+L+L-R-RL+R+LLR-L+R+LL+R-LR-R-L+L+RR-\n" ++
        "R => +LL-R-R+L+LR+L-RR-L-R+LRR-L-RL+L+R-R-L+L+RR", 2, right⟩,
    ⟨"tree_a", "F", "F => F[+F]F[-F]F", 5, degrees 25.7⟩,
    ⟨"tree_b", "F", "F => F[+F]F[-F][F]", 5, degrees 20.0⟩,
    ⟨"tree_c", "F", "F => FF-[-F+F+F]+[+F-F-F]", 5, degrees 22.5⟩,
    ⟨"tree_d", "X", "X => F[+X]F[-X]+X\nF => FF", 7, degrees 20.0⟩,
    ⟨"tree_e", "X", "X => F[+X][-X]FX\nF => FF", 7, degrees 25.7⟩,
    ⟨"tree_f", "X", "X => F-[[X]+X]+F[+FX]-X\nF => FF", 5, degrees 22.5⟩]

/-- The names in the order of the catalog. -/
def names : List String := all.map (·.name)

/-- The definition that a preset gives. -/
def definition (p : Preset) : Outcome Refusal Definition :=
  Definition.parse p.name p.initial p.rules p.generations p.delta

/-- The definition of a name in the catalog. -/
def find (name : String) : Outcome Refusal Definition :=
  match all.find? (·.name == name) with
  | some p => p.definition
  | none => .ofExcept (.error (.unknownPreset name names))

/-- A name chosen at random, with the generator after the choice. -/
def choose (g : Twister) : String × Twister :=
  let (k, g) := g.below names.length
  (names.getD k "", g)

/-- Some names chosen one after another. -/
def chooseMany : Nat → Twister → List String
  | 0, _ => []
  | n + 1, g =>
    let (name, g) := choose g
    name :: chooseMany n g

end Preset

end TurtleGrammar
