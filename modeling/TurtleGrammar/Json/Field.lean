import TurtleGrammar.Failure
import TurtleGrammar.Json.Value

/-! The reading of values as fields that have a type. A message about a field names its path. -/

namespace TurtleGrammar.Json

namespace Value

/-- A refusal of a field that has not the right type. -/
def mistyped {α : Type} (path : String) (expected : FieldType) : Except Failure α :=
  .error (.refused (.wrongType path expected))

/-- A number, as a floating-point one. An integer beyond the finite ones is none. -/
def asNumber (path : String) : Value → Except Failure Float
  | .int i => (Number.Binary64.ofInt? i).elim (.error .numberTooLarge) .ok
  | .float x => .ok x
  | _ => mistyped path .number

/-- An integer, which no number with a fraction or an exponent is. -/
def asInteger (path : String) : Value → Except Failure Int
  | .int i => .ok i
  | _ => mistyped path .integer

/-- A string. -/
def asString (path : String) : Value → Except Failure Text
  | .string s => .ok s
  | _ => mistyped path .string

/-- A truth value. -/
def asBoolean (path : String) : Value → Except Failure Bool
  | .bool b => .ok b
  | _ => mistyped path .boolean

/-- The members of an object. -/
def asObject (path : String) : Value → Except Failure (List (Text × Value))
  | .object members => .ok members
  | _ => mistyped path .object

/-- The strings of an array, each named by its place. -/
def asStrings (path : String) : Nat → List Value → Except Failure (List Text)
  | _, [] => .ok []
  | i, v :: rest => do
    let s ← v.asString s!"{path}[{i}]"
    pure (s :: (← asStrings path (i + 1) rest))

/-- The text of rules: one string, or an array of strings that are put on lines of their own. -/
def asRules (path : String) : Value → Except Failure Text
  | .array items => do pure ([.scalar '\n'].intercalate (← asStrings path 0 items))
  | v => v.asString path

end Value

/-- The members of an object. -/
abbrev Members := List (Text × Value)

/-- The field of a name, or a value that stands for one that is left out. -/
def field {α : Type} (members : Members) (name : String) (absent : α)
    (as : Value → Except Failure α) : Except Failure α :=
  match Value.member? name members with
  | some v => as v
  | none => .ok absent

/-- A failure if a condition is not met. -/
def require (condition : Bool) (refusal : Refusal) : Except Failure Unit :=
  if condition then .ok () else .error (.refused refusal)

/-- A size that may be left out or null, and that is else positive. -/
def size (members : Members) (name path : String) : Except Failure (Option Float) :=
  match Value.member? name members with
  | none => .ok none
  | some .null => .ok none
  | some v => do
    let x ← v.asNumber path
    require (0 < x) (.sizeNotPositive path)
    pure (some x)

end TurtleGrammar.Json
