import TurtleGrammar.Command.Manual
import TurtleGrammar.Number.Numeral

/-! What the command line asks for: one of four commands with its options and operands, or a text
about how to ask. -/

namespace TurtleGrammar.Command

/-- What an option with a value is set to. -/
inductive Setting (α : Type)
  /-- The option is not given. -/
  | absent
  /-- The option is given, but with two hyphens alone in place of a value. -/
  | blank
  | value (a : α)
deriving DecidableEq, Repr

/-- One of the commands. -/
inductive Request
  /-- The presets, one on each line. -/
  | list
  /-- The figures of a preset or of a configuration. -/
  | describe (preset : Option String) (config : Setting String)
  /-- The drawing of a preset or of a configuration. -/
  | draw (operands : List String) (config : Setting String)
  /-- The configuration of a preset chosen at random. -/
  | pick (output : String) (seed : Setting Int)
deriving DecidableEq, Repr

/-- What arguments come to. -/
inductive Reading (α : Type)
  | read (a : α)
  /-- A text to be shown in place of an answer. -/
  | help (text : String)
  /-- An error, with the command that does not understand its arguments. -/
  | misuse (m : Manual) (e : ArgumentError)

/-- Goes on with what was read. Help and misuse end the reading. -/
def Reading.bind {α β : Type} : Reading α → (α → Reading β) → Reading β
  | .read a, f => f a
  | .help text, _ => .help text
  | .misuse m e, _ => .misuse m e

instance : Monad Reading where
  pure := .read
  bind := .bind

/-- The values that a command's findings give. -/
structure Values where
  config : Setting String
  seed : Setting Int
  verbose : Bool
  operands : Option (List String)

/-- The values before anything is found. -/
def Values.empty : Values := ⟨.absent, .absent, false, none⟩

/-- Takes in what was found, in order. The option for help ends the reading. -/
def gather (m : Manual) : Values → List Finding → Reading Values
  | values, [] => pure values
  | values, .operands texts :: rest => gather m { values with operands := some texts } rest
  | values, .switch s value :: rest =>
    match s.meaning, value with
    | .help, _ => .help m.help
    | .verbose, _ => gather m { values with verbose := true } rest
    | .config, none => gather m { values with config := .blank } rest
    | .config, some path => gather m { values with config := .value path } rest
    | .seed, none => gather m { values with seed := .blank } rest
    | .seed, some text =>
      match Number.Numeral.read? text.toList with
      | some seed => gather m { values with seed := .value seed } rest
      | none => .misuse m (.notAnInteger s text)

/-- The values of a command, and the arguments that it does not know. Operands that are required
have to be there. -/
def readValues (m : Manual) (args : List String) : Reading (Values × List String) := do
  let scan := m.signature.scan args
  let values ← gather m .empty scan.findings
  match scan.error with
  | some e => .misuse m e
  | none =>
    match m.signature.operand, values.operands with
    | some operand, none =>
      if operand.required then .misuse m (.missing operand) else pure (values, scan.extras)
    | _, _ => pure (values, scan.extras)

/-- The request of a command's name and arguments, and the arguments that it does not know. -/
def readCommand (name : String) (args : List String) : Reading (Request × List String) := do
  if name = "list" then
    let (_, extras) ← readValues listManual args
    pure (.list, extras)
  else if name = "show" then
    let (values, extras) ← readValues showManual args
    pure (.describe (values.operands.bind List.head?) values.config, extras)
  else if name = "render" then
    let (values, extras) ← readValues renderManual args
    pure (.draw (values.operands.getD []) values.config, extras)
  else if name = "random" then
    let (values, extras) ← readValues randomManual args
    pure (.pick ((values.operands.bind List.head?).getD "") values.seed, extras)
  else .misuse mainManual (.unknownChoice commandOperand name choices)

/-- The request of a command line, and whether the events of the run are to be shown. -/
def readRequest (args : List String) : Reading (Bool × Request) := do
  let (values, extras) ← readValues mainManual args
  match values.operands with
  | some (name :: args) =>
    let (request, more) ← readCommand name args
    if (extras ++ more).isEmpty then pure (values.verbose, request)
    else .misuse mainManual (.unrecognized (extras ++ more))
  | _ => .misuse mainManual (.missing commandOperand)

end TurtleGrammar.Command
