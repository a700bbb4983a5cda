import TurtleGrammar.Grammar.Rules
import TurtleGrammar.Grammar.Sequence
import TurtleGrammar.Outcome

/-! The text form of rules: on each line that is not blank one rule, a letter and a replacement
with an arrow between them. -/

namespace TurtleGrammar

/-- The sign between a letter and its replacement. -/
def arrow : Text := Text.ofString "=>"

/-- A rule as a line gives it. -/
structure RuleEntry where
  line : Nat
  key : Symbol
  replacement : Word

namespace RuleEntry

/-- The rule on a line, or none if the line is blank. Columns count from the start of the line,
with its indentation. -/
def parse (line : Nat) (raw : Text) : Except ParseError (Option RuleEntry) := do
  let rule := Text.trim raw
  if rule.isEmpty then return none
  let lead := Text.indent raw
  let fail (column : Nat) (cause : ParseError.Cause) : Except ParseError (Option RuleEntry) :=
    .error ⟨line, column, cause⟩
  match Text.splitFirst arrow rule with
  | none => fail (lead + rule.length + 1) (.missingArrow rule)
  | some (left, right) =>
    let malformed := fail (lead + 1) (.malformedPredecessor (Text.trim left))
    match ← Word.parse left line (lead + 1 : Nat) with
    | [key] =>
      if !key.isLetter then malformed
      else
        let column := lead + left.length + arrow.length + 1
        if (Text.trim right).isEmpty then fail column (.missingReplacement rule)
        else return some ⟨line, key, ← Word.parse right line column⟩
    | _ => malformed

/-- The rules on lines, of which the first has a number, up to the first line that cannot be
read. -/
def parseLines (number : Nat) : List Text → List RuleEntry × Option ParseError
  | [] => ([], none)
  | raw :: rest =>
    match parse number raw with
    | .error e => ([], some e)
    | .ok found =>
      let (entries, stop) := parseLines (number + 1) rest
      (found.toList ++ entries, stop)

/-- The events of the entries whose symbol has a rule already, by an earlier entry or among
`known`. -/
def redefinitions (known : List Symbol) : List RuleEntry → List Event
  | [] => []
  | entry :: rest =>
    let here := if entry.key ∈ known then [Event.ruleRedefined entry.key entry.line] else []
    here ++ redefinitions (entry.key :: known) rest

end RuleEntry

namespace Rules

/-- The rules that a text gives. A later rule for a symbol replaces an earlier one and keeps its
place. -/
def parse (text : Text) : Outcome ParseError Rules :=
  let (entries, stop) := RuleEntry.parseLines 1 (Text.lines text)
  { events := RuleEntry.redefinitions [] entries
    result :=
      match stop with
      | some e => .error e
      | none => .ok (ofList (entries.map fun entry => (entry.key, entry.replacement))) }

/-- One rule as it is written. -/
def entryChars (key : Symbol) (replacement : Word) : List Char :=
  key.char :: " => ".toList ++ replacement.chars

/-- The lines of rules, one for each symbol. -/
def lines (rules : Rules) : List (List Char) :=
  rules.entries.map fun (key, replacement) => entryChars key replacement

/-- The text form of rules. -/
def text (rules : Rules) : String := String.ofList (['\n'].intercalate rules.lines)

end Rules

end TurtleGrammar
