import TurtleGrammar.Files
import TurtleGrammar.Number.Fixed
import TurtleGrammar.Number.Numeral
import TurtleGrammar.Refusal
import TurtleGrammar.Turtle

/-! Everything that can go wrong in a run. -/

namespace TurtleGrammar

/-- One thing that went wrong. -/
inductive Failure
  | refused (r : Refusal)
  | turtle (e : TurtleError)
  /-- An integer that is too large to be a coordinate, an angle or a length. -/
  | numberTooLarge
  /-- An integer of more digits than are read. -/
  | tooManyDigits (count : Nat)
  | malformedText (m : Text.Utf8.Malformed)
  | unencodable (u : Text.Utf8.Unencodable)
  | places (e : Number.Fixed.PlacesError)
  | file (e : FileError)
  /-- The file of a configuration is asked for, but its path is left blank. -/
  | blankPath
  /-- A seed is asked for, but left blank. -/
  | blankSeed
deriving DecidableEq

/-- The words in which a failure is reported. -/
def Failure.message : Failure → String
  | .refused r => r.message
  | .turtle e => e.message
  | .numberTooLarge => "int too large to convert to float"
  | .tooManyDigits count =>
    s!"Exceeds the limit ({Number.maxDigits} digits) for integer string conversion: " ++
      s!"value has {count} digits; use sys.set_int_max_str_digits() to increase the limit"
  | .malformedText m => m.message
  | .unencodable u => u.message
  | .places e => e.message
  | .file e => e.message
  | .blankPath => "expected str, bytes or os.PathLike object, not list"
  | .blankSeed =>
    "The only supported seed types are: None,\nint, float, str, bytes, and bytearray."

end TurtleGrammar
