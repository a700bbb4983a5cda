import TurtleGrammar.Command.ArgumentError
import TurtleGrammar.Text.Blank
import TurtleGrammar.Text.Digit

/-! The forms of arguments. An option may be abbreviated, and may have its value in the same
argument. After two hyphens alone everything is an operand. -/

namespace TurtleGrammar.Command

/-- What an argument looks like. -/
inductive Form
  | operand
  /-- Two hyphens alone. -/
  | hyphens
  /-- An option by one of its names, and the text that stands after the name in the argument. -/
  | switch (s : Switch) (name : String) (attached : Option String)
  /-- An option that the command does not have. -/
  | unknown
deriving DecidableEq, Repr

/-- Whether an argument stands with the operands. -/
def Form.isOperand : Form → Bool
  | .operand => true
  | .hyphens => true
  | _ => false

/-- An argument with its form. -/
structure Arg where
  text : String
  form : Form
deriving DecidableEq, Repr

namespace Signature

/-- The options that an argument may abbreviate. A word is cut at the equals sign, and a letter is
followed by its value or by more letters. -/
def candidates (sig : Signature) (text : String) : List (Switch × String × Option String) :=
  if text.startsWith "--" then
    let (stem, attached) :=
      match Text.pieces '=' text with
      | stem :: value :: more => (stem, some ("=".intercalate (value :: more)))
      | _ => (text, none)
    (sig.named.filter fun (name, _) => name.startsWith stem).map fun (name, s) =>
      (s, name, attached)
  else
    let letter := String.ofList (text.toList.take 2)
    let value := String.ofList (text.toList.drop 2)
    sig.named.filterMap fun (name, s) =>
      if name = letter then some (s, name, some value)
      else if name.startsWith text then some (s, name, none)
      else none

/-- Whether a text is a hyphen before a decimal numeral. A line break may follow it. -/
def looksNegative (text : List Char) : Bool :=
  let isDigit (c : Char) : Bool := (Text.digit? c).isSome
  let text := if text.getLast? = some '\n' then text.dropLast else text
  match text with
  | '-' :: number =>
    let (whole, rest) := number.span isDigit
    match rest with
    | [] => !whole.isEmpty
    | '.' :: fraction => !fraction.isEmpty && fraction.all isDigit
    | _ => false
  | _ => false

/-- The form of an argument before any two hyphens. What starts with a hyphen and is no option is
an operand if it looks like a negative number or holds a blank. -/
def classify (sig : Signature) (text : String) : Except ArgumentError Form :=
  if !text.startsWith "-" || text = "-" then .ok .operand
  else
    match sig.switch? text with
    | some s => .ok (.switch s text none)
    | none =>
      let named :=
        match Text.pieces '=' text with
        | name :: value :: more =>
          (sig.switch? name).map fun s =>
            Form.switch s name (some ("=".intercalate (value :: more)))
        | _ => none
      match named with
      | some form => .ok form
      | none =>
        match sig.candidates text with
        | [(s, name, attached)] => .ok (.switch s name attached)
        | [] =>
          if looksNegative text.toList || text.contains ' ' then .ok .operand else .ok .unknown
        | several => .error (.ambiguous text (several.map fun (_, name, _) => name))

/-- Arguments with their forms. -/
def classifyAll (sig : Signature) : List String → Except ArgumentError (List Arg)
  | [] => .ok []
  | "--" :: rest => .ok (⟨"--", .hyphens⟩ :: rest.map (⟨·, .operand⟩))
  | text :: rest => do
    let form ← sig.classify text
    pure (⟨text, form⟩ :: (← sig.classifyAll rest))

end Signature

end TurtleGrammar.Command
