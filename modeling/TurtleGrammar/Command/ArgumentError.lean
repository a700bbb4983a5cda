import TurtleGrammar.Command.Signature
import TurtleGrammar.Text.Quoted

/-! Why the arguments of a command are not understood. -/

namespace TurtleGrammar.Command

/-- One cause, with the option, the operand or the texts that it concerns. -/
inductive ArgumentError
  | ambiguous (text : String) (names : List String)
  | expectsValue (s : Switch)
  | ignoresValue (s : Switch) (value : String)
  | notAnInteger (s : Switch) (value : String)
  | unknownChoice (operand : Operand) (value : String) (choices : List String)
  | missing (operand : Operand)
  | unrecognized (texts : List String)
deriving DecidableEq, Repr

/-- The words in which a command complains. -/
def ArgumentError.message : ArgumentError → String
  | .ambiguous text names =>
    s!"ambiguous option: {text} could match " ++ ", ".intercalate names
  | .expectsValue s => s!"argument {s.label}: expected one argument"
  | .ignoresValue s value =>
    s!"argument {s.label}: ignored explicit argument " ++ Text.quoted value
  | .notAnInteger s value => s!"argument {s.label}: invalid int value: " ++ Text.quoted value
  | .unknownChoice operand value choices =>
    s!"argument {operand.name}: invalid choice: " ++ Text.quoted value ++ " (choose from " ++
      ", ".intercalate (choices.map fun (c : String) => Text.quoted c) ++ ")"
  | .missing operand => "the following arguments are required: " ++ operand.name
  | .unrecognized texts => "unrecognized arguments: " ++ " ".intercalate texts

end TurtleGrammar.Command
