import TurtleGrammar.Text.CodePoint

/-! The values that JSON writes. Integers are kept apart from other numbers, whose values are
floating-point ones with infinities and the value that is not a number. -/

namespace TurtleGrammar.Json

/-- A value of any type. -/
inductive Value
  | null
  | bool (b : Bool)
  | int (i : Int)
  | float (x : Float)
  | string (s : Text)
  | array (items : List Value)
  /-- The members in order. No name is there twice in a value that was read. -/
  | object (members : List (Text × Value))

namespace Value

/-- The members with one added, or changed in its place. -/
def put (name : Text) (value : Value) : List (Text × Value) → List (Text × Value)
  | [] => [(name, value)]
  | (n, v) :: rest => if n = name then (name, value) :: rest else (n, v) :: put name value rest

/-- The member of a name among the members of an object. -/
def member? (name : String) (members : List (Text × Value)) : Option Value :=
  members.lookup (Text.ofString name)

/-- The object of named members. -/
def ofMembers (members : List (String × Value)) : Value :=
  .object (members.map fun (name, value) => (Text.ofString name, value))

end Value

end TurtleGrammar.Json
