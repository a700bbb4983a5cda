import TurtleGrammar.Text.Letter
import TurtleGrammar.Text.Quoted

/-! The alphabet of a grammar. Every symbol is an instruction to a turtle, and every symbol is
written as one character. -/

namespace TurtleGrammar

/-- A letter of any script, the label of a symbol. -/
structure Letter where
  char : Char
  isLetter : Text.isLetter char = true
deriving DecidableEq

/-- One instruction. Two symbols with different labels are different, so a grammar can treat `F`
and `G` each in its own way although both draw. -/
inductive Symbol
  /-- Move ahead and draw a line. -/
  | forward (label : Letter)
  /-- Move ahead without drawing. -/
  | skip
  | turnLeft
  | turnRight
  /-- Remember the place and the heading. -/
  | push
  /-- Return to the place and heading last remembered. -/
  | pop
  /-- Start over from here. -/
  | reset
  /-- A mark that means nothing to the turtle. -/
  | node (label : Letter)
deriving DecidableEq

/-- What a symbol does, its label apart. -/
inductive Kind
  | forward
  | skip
  | turnLeft
  | turnRight
  | push
  | pop
  | reset
  | node
deriving DecidableEq

namespace Kind

/-- The name under which a kind is listed. -/
def name : Kind → String
  | .forward => "forward"
  | .skip => "forward_no_line"
  | .turnLeft => "turn_left"
  | .turnRight => "turn_right"
  | .push => "push"
  | .pop => "pop"
  | .reset => "reset"
  | .node => "node"

/-- The kinds in the alphabetical order of their names. -/
def all : List Kind := [.forward, .skip, .node, .pop, .push, .reset, .turnLeft, .turnRight]

theorem mem_all (k : Kind) : k ∈ all := by cases k <;> decide

/-- The kind of a name. -/
def ofName? (name : String) : Option Kind := all.find? (·.name == name)

end Kind

/-- Why a kind and a label make no symbol. -/
inductive SymbolError
  /-- A forward symbol or a node whose label is not one letter. -/
  | needsLetter (kind : Kind)
  /-- A label on a symbol of another kind. -/
  | takesNoLabel (kind : Kind)
  /-- A kind that does not exist, as a message shows it. -/
  | unknownKind (shown : String)
deriving DecidableEq

/-- The words in which an error is reported. -/
def SymbolError.message : SymbolError → String
  | .needsLetter kind => kind.name ++ " symbol needs a single-letter label"
  | .takesNoLabel kind => kind.name ++ " symbol takes no label"
  | .unknownKind shown => "unknown symbol kind " ++ shown

namespace Letter

/-- A letter of the basic alphabet. -/
def ofAlpha (c : Char) (h : c.isAlpha = true) : Letter := ⟨c, Text.isLetter_of_isAlpha h⟩

theorem isAlpha_of_isUpper {c : Char} (h : c.isUpper = true) : c.isAlpha = true :=
  (Bool.or_eq_true ..).mpr (.inl h)

theorem isAlpha_of_isLower {c : Char} (h : c.isLower = true) : c.isAlpha = true :=
  (Bool.or_eq_true ..).mpr (.inr h)

/-- The letter that a character is. -/
def ofChar? (c : Char) : Option Letter :=
  if h : Text.isLetter c = true then some ⟨c, h⟩ else none

/-- The letter that a label consists of. -/
def ofLabel? (label : Option String) : Option Letter :=
  match label.map String.toList with
  | some [c] => ofChar? c
  | _ => none

end Letter

namespace Symbol

/-- What a symbol does, its label apart. -/
def kind : Symbol → Kind
  | .forward _ => .forward
  | .skip => .skip
  | .turnLeft => .turnLeft
  | .turnRight => .turnRight
  | .push => .push
  | .pop => .pop
  | .reset => .reset
  | .node _ => .node

/-- The label of a symbol that has one. -/
def label? : Symbol → Option Letter
  | .forward label => some label
  | .node label => some label
  | _ => none

/-- Whether the turtle leaves a line. -/
def draws (s : Symbol) : Bool := s.kind = .forward

/-- Whether the turtle moves ahead. -/
def moves (s : Symbol) : Bool := s.kind = .forward || s.kind = .skip

/-- Whether a rule may be written for the symbol: it stands for a letter. -/
def isLetter (s : Symbol) : Bool := s.kind = .forward || s.kind = .skip || s.kind = .node

/-- The character that a symbol is written as: its label, or the character of its kind. -/
def char : Symbol → Char
  | .forward label => label.char
  | .skip => 'f'
  | .turnLeft => '+'
  | .turnRight => '-'
  | .push => '['
  | .pop => ']'
  | .reset => '!'
  | .node label => label.char

/-- The symbol of a kind and a label. Forward symbols and nodes are labelled with one letter, and
the other kinds have no label. -/
def ofKind (kind : Kind) (label : Option String) : Except SymbolError Symbol :=
  let labelled (make : Letter → Symbol) : Except SymbolError Symbol :=
    match Letter.ofLabel? label with
    | some letter => .ok (make letter)
    | none => .error (.needsLetter kind)
  let bare (symbol : Symbol) : Except SymbolError Symbol :=
    if label.isSome then .error (.takesNoLabel kind) else .ok symbol
  match kind with
  | .forward => labelled .forward
  | .node => labelled .node
  | .skip => bare .skip
  | .turnLeft => bare .turnLeft
  | .turnRight => bare .turnRight
  | .push => bare .push
  | .pop => bare .pop
  | .reset => bare .reset

/-- The symbol of a named kind and a label. -/
def ofName (name : String) (label : Option String) : Except SymbolError Symbol :=
  match Kind.ofName? name with
  | some kind => ofKind kind label
  | none => .error (.unknownKind (Text.quoted name))

end Symbol

end TurtleGrammar
