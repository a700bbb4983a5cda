import TurtleGrammar.Config
import TurtleGrammar.Proofs.Grammar.RulePrinting

/-! Definitions written as configurations and read back. A definition that was read from texts, and
whose first word is not empty, comes back with its name, its first word, its rules in their order
and its number of generations. -/

namespace TurtleGrammar

def Json.Value.members : Value → Members
  | .object members => members
  | _ => []

namespace Config

open Json

variable {d : Definition} {path name : String} {i : Nat}

theorem asStrings_map_string (texts : List Text) :
    Value.asStrings path i (texts.map Value.string) = .ok texts := by
  induction texts generalizing i with
  | nil => rfl
  | cons text texts ih =>
    rw [List.map_cons, Value.asStrings, ih]
    rfl

theorem exists_of_isOk {ε α : Type} {x : Except ε α} (h : x.isOk = true) : ∃ a, x = .ok a := by
  cases x with
  | error e => cases h
  | ok a => exact ⟨a, rfl⟩

/-- The members of the configuration that is written for a definition. -/
def membersOf (d : Definition) : Members := (ofDefinition d).members

/-- The turtle in the configuration that is written for a definition. -/
def turtleMembers : Members :=
  (Value.ofMembers
    [("step", .int 4),
      ("start", .ofMembers [("x", .int 0), ("y", .int 0), ("heading", .int 0)])]).members

/-- The sheet in the configuration that is written for a definition. -/
def svgMembers : Members :=
  (Value.ofMembers [("margin", .int 10), ("precision", .int 3), ("flip_y", .bool true)]).members

theorem rules_ofDefinition :
    field (membersOf d) "rules" [] (Value.asRules "rules") = .ok (Text.ofString d.rules.text) := by
  have hfield : Value.member? "rules" (membersOf d) =
      some (.array ((d.rules.lines.map Text.ofChars).map .string)) := by
    rw [List.map_map]
    rfl
  rw [field, hfield]
  dsimp only
  rw [Value.asRules, asStrings_map_string, Rules.ofString_text]
  rfl

theorem parseDefinition_ofDefinition (hn : 0 ≤ d.generations) (hinitial : d.initial ≠ [])
    (hword : ∀ s ∈ d.initial, s.isWritable = true) (hrules : d.rules.IsWritable) :
    ∃ delta, (parseDefinition (membersOf d)).result = .ok { d with delta } := by
  refine ⟨Angle.ofDegrees (Number.Fixed.round 6 (Angle.toDegrees d.delta)), ?_⟩
  -- the first word is not blank once it is written, as no symbol is written as a blank
  have hsolid : (Text.trim (Text.ofString d.initial.text)).isEmpty = false := by
    rw [List.isEmpty_eq_false_iff, ne_eq, Text.trim_eq_nil_iff, ← Text.nonblanks_eq_nil_iff,
      Word.nonblanks_text, Word.ofString_text, List.map_eq_nil_iff]
    exact hinitial
  rw [parseDefinition, Outcome.result_bind, bind_eq_ok]
  refine ⟨(d.name, Text.ofString d.initial.text, d.generations, Text.ofString d.rules.text,
    Number.Fixed.round 6 (Angle.toDegrees d.delta)), ?_, ?_⟩
  · simp only [Outcome.ofExcept, bind_eq_ok]
    refine ⟨d.name, rfl, Text.ofString d.initial.text, rfl, (), ?_, d.generations, rfl, (), ?_, _,
      rules_ofDefinition, _, rfl, rfl⟩
    · rw [hsolid]
      rfl
    · rw [decide_eq_true hn]
      rfl
  · exact mapError_eq_ok.mpr (Definition.parse_eq_ok.mpr
      ⟨hn, d.initial, d.rules, Word.parse_text hword, Rules.parse_text_iff.mpr hrules, rfl⟩)

theorem parseSheet_ofDefinition (title : Text) :
    ∃ sheet, parseSheet (membersOf d) title = .ok sheet := by
  obtain ⟨margin, hmargin⟩ : ∃ x, field svgMembers "margin" 10.0 (Value.asNumber "svg.margin") =
      .ok x := exists_of_isOk (by decide +kernel)
  refine ⟨{ margin, precision := 3, flip := true, width := none, height := none
            style := .standard, background := none, title := some title }, ?_⟩
  simp only [parseSheet, bind_eq_ok]
  exact ⟨svgMembers, rfl, margin, hmargin, 3, rfl, (), rfl, true, rfl, none, rfl, none, rfl,
    .standard, rfl, none, rfl, rfl⟩

/-- A definition whose words and rules a grammar can write comes back from its configuration. -/
theorem parse_ofDefinition (hn : 0 ≤ d.generations) (hinitial : d.initial ≠ [])
    (hword : ∀ s ∈ d.initial, s.isWritable = true) (hrules : d.rules.IsWritable) :
    ∃ c delta, (parse (ofDefinition d)).result = .ok c ∧ c.definition = { d with delta } := by
  obtain ⟨delta, hdefinition⟩ := parseDefinition_ofDefinition hn hinitial hword hrules
  obtain ⟨step, hstep⟩ : ∃ step, parseStep turtleMembers = .ok step :=
    exists_of_isOk (by decide +kernel)
  obtain ⟨departure, hdeparture⟩ : ∃ departure, parseDeparture turtleMembers = .ok departure :=
    exists_of_isOk (by decide +kernel)
  obtain ⟨sheet, hsheet⟩ := parseSheet_ofDefinition (d := d) d.name
  refine ⟨⟨{ d with delta }, step, departure, sheet⟩, delta, ?_, rfl⟩
  simp only [parse, Outcome.result_bind, Outcome.ofExcept, bind_eq_ok]
  exact ⟨membersOf d, rfl, _, hdefinition, turtleMembers, rfl, step, hstep, departure, hdeparture,
    sheet, hsheet, rfl⟩

/-- Rules that are written are read back as they are, and in their order, exactly when each of them
replaces a letter that a grammar can write by a word that it can write and that is not empty. The
lines of the text in which they are written are one for each rule. A definition that was read from
texts and whose first word is not empty comes back from the configuration that is written for it,
where its rules are an array of these lines. -/
theorem written_grammar_reads_back :
    (∀ rules : Rules,
      (Rules.parse (Text.ofString rules.text)).result = .ok rules ↔ rules.IsWritable) ∧
    (∀ rules : Rules,
      Text.lines (Text.ofString rules.text) = rules.lines.map Text.ofChars) ∧
    ∀ (name initial rules : Text) (n : Int) (delta : Float) (d : Definition),
      (Definition.parse name initial rules n delta).result = .ok d → d.initial ≠ [] →
      ∃ c, (parse (ofDefinition d)).result = .ok c ∧ c.definition.name = d.name ∧
        c.definition.initial = d.initial ∧ c.definition.rules = d.rules ∧
        c.definition.generations = d.generations := by
  refine ⟨fun rules => Rules.parse_text_iff, Rules.lines_text, ?_⟩
  intro name initial rules n delta d hd hinitial
  obtain ⟨hn, w, r, hw, hr, rfl⟩ := Definition.parse_eq_ok.mp hd
  have hword := Word.isWritable_of_writtenIn (Word.parse_eq_ok_iff.mp hw)
  obtain ⟨c, delta', hc, hdefinition⟩ :=
    parse_ofDefinition hn hinitial hword (Rules.isWritable_of_parse hr)
  exact ⟨c, hc, by rw [hdefinition], by rw [hdefinition], by rw [hdefinition], by rw [hdefinition]⟩

/-- A grammar with blanks, a blank line and a rule that is given twice. -/
def hedge : Outcome Refusal Definition :=
  Definition.parse "hedge" " X f" "X => F[+X]\n \nf=> ff\r\nX =>-X" 3 0.5

theorem hedge_reads_back :
    ∃ d, hedge.result = .ok d ∧ d.initial ≠ [] ∧
      d.rules.lines = ["X => -X".toList, "f => ff".toList] ∧
      ∃ c, (parse (ofDefinition d)).result = .ok c ∧ c.definition.name = d.name ∧
        c.definition.initial = d.initial ∧ c.definition.rules = d.rules ∧
        c.definition.generations = d.generations := by
  have hread : hedge.result.toOption.any (fun d => !d.initial.isEmpty &&
      d.rules.lines == ["X => -X".toList, "f => ff".toList]) = true := by decide
  cases hd : hedge.result with
  | error e => simp [hd, Except.toOption] at hread
  | ok d =>
    simp only [hd, Except.toOption, Option.any_some, Bool.and_eq_true, beq_iff_eq,
      Bool.not_eq_true', List.isEmpty_eq_false_iff] at hread
    obtain ⟨hinitial, hlines⟩ := hread
    exact ⟨d, rfl, hinitial, hlines, written_grammar_reads_back.2.2 _ _ _ _ _ d hd hinitial⟩

end Config

end TurtleGrammar
