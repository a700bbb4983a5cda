import TurtleGrammar.Grammar.RuleText
import TurtleGrammar.Refusal

/-! A definition: a first word, rules, how often to apply them, and the angle of a turn. In one
generation every symbol of a word is replaced at once, and a symbol without a rule stays. -/

namespace TurtleGrammar

namespace Rules

/-- What a symbol becomes in one generation. -/
def expand (rules : Rules) (s : Symbol) : Word := (rules.replacement? s).getD [s]

/-- A word one generation later. -/
def step (rules : Rules) (w : Word) : Word := w.flatMap rules.expand

/-- A word some generations later. -/
def rewrite (rules : Rules) : Nat → Word → Word
  | 0, w => w
  | n + 1, w => rules.rewrite n (rules.step w)

/-- A word after a number of generations, which must not be negative. -/
def generations (rules : Rules) (n : Int) (w : Word) : Except Refusal Word :=
  if n < 0 then .error .negativeGenerations else .ok (rules.rewrite n.toNat w)

end Rules

/-- A grammar and how it is to be used. -/
structure Definition where
  name : Text
  /-- The word of generation zero. -/
  initial : Word
  rules : Rules
  /-- A definition may be written down with a negative number, but is not built from it. -/
  generations : Int
  /-- The angle of one turn, in radians. -/
  delta : Float

namespace Definition

/-- The definition that texts give. The number of generations is looked at first, then the first
word, then the rules. -/
def parse (name initial rules : Text) (generations : Int) (delta : Float) :
    Outcome Refusal Definition := do
  if generations < 0 then Outcome.ofExcept (.error .negativeGenerations)
  else
    let initial ← (Outcome.ofExcept (Word.parse initial 1 1)).mapError .parse
    let rules ← (Rules.parse rules).mapError .parse
    pure { name, initial, rules, generations, delta }

/-- The word of the last generation. -/
def word (d : Definition) : Except Refusal Word := d.rules.generations d.generations d.initial

/-- Whether two definitions are equal in all five parts, the rules in whatever order. -/
def agrees (a b : Definition) : Bool :=
  a.name == b.name && a.initial == b.initial && a.rules.agrees b.rules &&
    a.generations == b.generations && a.delta == b.delta

end Definition

end TurtleGrammar
