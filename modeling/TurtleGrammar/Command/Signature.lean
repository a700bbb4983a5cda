/-! What a command takes: options, which start with a hyphen, and operands, which are everything
else. -/

namespace TurtleGrammar.Command

/-- What an option asks for. -/
inductive Meaning
  | help
  | verbose
  | config
  | seed
deriving DecidableEq, Repr

/-- An option with its names, of which one letter follows one hyphen and a word follows two. -/
structure Switch where
  meaning : Meaning
  names : List String
  takesValue : Bool
deriving DecidableEq, Repr

/-- How many operands a command takes. -/
inductive Arity
  | one
  | optional
  | many
  /-- A first operand and every argument after it, options too. -/
  | rest
deriving DecidableEq, Repr

/-- The operands of a command, under one name. -/
structure Operand where
  name : String
  arity : Arity
  required : Bool
deriving DecidableEq, Repr

/-- What a command takes. -/
structure Signature where
  switches : List Switch
  operand : Option Operand
deriving DecidableEq, Repr

namespace Signature

/-- Every name of every option, with its option. -/
def named (sig : Signature) : List (String × Switch) :=
  sig.switches.flatMap fun s => s.names.map fun name => (name, s)

/-- The option of a full name. -/
def switch? (sig : Signature) (name : String) : Option Switch := sig.named.lookup name

end Signature

/-- The names of an option in messages. -/
def Switch.label (s : Switch) : String := "/".intercalate s.names

end TurtleGrammar.Command
