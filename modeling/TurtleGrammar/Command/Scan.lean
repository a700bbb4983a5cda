import TurtleGrammar.Command.Form

/-! What a command finds in its arguments: its options with their values, and its operands. -/

namespace TurtleGrammar.Command

/-- What was found in arguments, in order: options, some with a value, and operands. -/
inductive Finding
  | switch (s : Switch) (value : Option String)
  | operands (texts : List String)
deriving DecidableEq, Repr

/-- The findings up to the end or to an error, and the arguments that nothing was made of. -/
structure Scan where
  findings : List Finding
  extras : List String
  error : Option ArgumentError
deriving DecidableEq, Repr

/-- Nothing found and nothing left. -/
def Scan.empty : Scan := ⟨[], [], none⟩

/-- A scan that stops at once. -/
def Scan.fail (e : ArgumentError) : Scan := ⟨[], [], some e⟩

/-- Puts findings before those of a scan. -/
def Scan.find (findings : List Finding) (s : Scan) : Scan :=
  { s with findings := findings ++ s.findings }

/-- Puts arguments that nothing was made of before those of a scan. -/
def Scan.leave (extras : List String) (s : Scan) : Scan := { s with extras := extras ++ s.extras }

/-- How many of the arguments that come next the operands of an arity are, if they can be found
there. Two hyphens beside an operand belong to it. -/
def Arity.take? (arity : Arity) (args : List Arg) : Option Nat :=
  let forms := args.map Arg.form
  let before := (forms.takeWhile (· = .hyphens)).length
  let rest := forms.drop before
  match arity, rest with
  | .one, .operand :: rest => some (before + 1 + (rest.takeWhile (· = .hyphens)).length)
  | .optional, .operand :: rest => some (before + 1 + (rest.takeWhile (· = .hyphens)).length)
  | .optional, _ => some before
  | .many, .operand :: rest => some (before + 1 + (rest.takeWhile Form.isOperand).length)
  | .rest, .operand :: rest => some (before + 1 + rest.length)
  | _, _ => none

/-- Operands as they were given, without the first two hyphens among them. With the arguments after
a first operand the hyphens stay. -/
def Arity.texts (arity : Arity) (args : List Arg) : List String :=
  let texts := args.map Arg.text
  if arity = .rest then texts else texts.erase "--"

/-- An option with the value that was given to it. Two hyphens alone are no value: they are taken
away, and the option stands without one. -/
def Finding.ofValue (s : Switch) (value : String) : Finding :=
  .switch s (if value = "--" then none else some value)

/-- The options in one argument that starts with the option `s`: those that are done with, and the
last one, with its value if that stands in the argument. After the letter of an option that takes no
value there may stand the letters of others. -/
def cluster (sig : Signature) (s : Switch) (name : String) :
    (attached : List Char) → Except ArgumentError (List Switch × Switch × Option String)
  | [] => if s.takesValue then .ok ([], s, some "") else .error (.ignoresValue s "")
  | letter :: rest =>
    let attached := String.ofList (letter :: rest)
    let next := String.ofList ['-', letter]
    if s.takesValue then .ok ([], s, some attached)
    else if name.startsWith "--" then .error (.ignoresValue s attached)
    else
      match sig.switch? next, rest with
      | none, _ => .error (.ignoresValue s attached)
      | some t, [] => .ok ([s], t, none)
      | some t, rest => do
        let (done, last, value) ← cluster sig t next rest
        pure (s :: done, last, value)

/-- An option with its value, which stands in its own argument or is the next one, and the arguments
after it. -/
def Finding.take (s : Switch) (value : Option String) (args : List Arg) :
    Except ArgumentError (Finding × List Arg) :=
  match value with
  | some value => .ok (.ofValue s value, args)
  | none =>
    if s.takesValue then
      match args with
      | ⟨value, .operand⟩ :: rest => .ok (.ofValue s value, rest)
      | _ => .error (.expectsValue s)
    else .ok (.switch s none, args)

namespace Signature

/-- The options that start with `s` in one argument, and the arguments after the last one and its
value. -/
def scanOptions (sig : Signature) (s : Switch) (name : String) (attached : Option String)
    (args : List Arg) : Except ArgumentError (List Finding × List Arg) := do
  let (done, last, value) ←
    match attached with
    | some text => cluster sig s name text.toList
    | none => pure ([], s, none)
  let (finding, rest) ← Finding.take last value args
  pure (done.map (.switch · none) ++ [finding], rest)

/-- Goes through arguments while `pending` operands are still to be found. Operands are looked for
wherever an option does not come next. No more steps than `fuel` are needed if that is the number
of arguments and one more. -/
def scanArgs (sig : Signature) : (fuel : Nat) → (pending : Option Operand) → List Arg → Scan
  | 0, _, _ => .empty
  | fuel + 1, pending, args =>
    let front := args.takeWhile (·.form.isOperand)
    let taken? := pending.bind fun o => (o.arity.take? args).map fun n => (o.arity, n)
    match args.drop front.length with
    | [] =>
      match taken? with
      | some (arity, n) =>
        (Scan.empty.leave ((args.drop n).map Arg.text)).find
          [.operands (arity.texts (args.take n))]
      | none => Scan.empty.leave (args.map Arg.text)
    | head :: tail =>
      match (if front.isEmpty then none else taken?) with
      | some (arity, n) =>
        (sig.scanArgs fuel none (args.drop n)).find [.operands (arity.texts (args.take n))]
      | none =>
        let after :=
          match head.form with
          | .switch s name attached =>
            match sig.scanOptions s name attached tail with
            | .ok (findings, rest) => (sig.scanArgs fuel pending rest).find findings
            | .error e => .fail e
          | _ => (sig.scanArgs fuel pending tail).leave [head.text]
        after.leave (front.map Arg.text)

/-- The findings in arguments. -/
def scan (sig : Signature) (args : List String) : Scan :=
  match sig.classifyAll args with
  | .ok args => sig.scanArgs (args.length + 1) sig.operand args
  | .error e => .fail e

end Signature

end TurtleGrammar.Command
