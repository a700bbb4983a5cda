import TurtleGrammar.Proofs.Config.Schema
import TurtleGrammar.Proofs.Grammar.RulePrinting

/-! Which values are read as configurations: the objects that have a first word and hold in each
known field what it may hold. A configuration that is read can be played, and has no length or size
that is not positive. -/

namespace TurtleGrammar

open Json Number

namespace Config

variable {v w : Value} {path : List String} {members : Members} {name label : String}

/-! ### The parts of a configuration -/

section Sequence

variable {α β : Type} {x : Except Failure α} {f : α → Except Failure β} {rest : Prop}

theorem bind_succeeds_iff :
    (∃ b, (x >>= f) = .ok b) ↔ ∃ a, x = .ok a ∧ ∃ b, f a = .ok b := by
  simp only [bind_eq_ok]
  exact ⟨fun ⟨b, a, ha, hb⟩ => ⟨a, ha, b, hb⟩, fun ⟨a, ha, b, hb⟩ => ⟨b, a, ha, hb⟩⟩

/-- What follows does not depend on the result. -/
theorem bind_succeeds_iff_and (h : ∀ a, (∃ b, f a = .ok b) ↔ rest) :
    (∃ b, (x >>= f) = .ok b) ↔ (∃ a, x = .ok a) ∧ rest := by
  simp only [bind_succeeds_iff, h, exists_and_right]

/-- What follows does not depend on the result, once a condition is met. -/
theorem bind_require_succeeds_iff {condition : α → Bool} {r : Refusal} {g : α → Except Failure β}
    (h : ∀ a, (∃ b, g a = .ok b) ↔ rest) :
    (∃ b, (x >>= fun a => require (condition a) r >>= fun _ => g a) = .ok b) ↔
      (∃ a, x = .ok a ∧ condition a = true) ∧ rest := by
  simp only [bind_succeeds_iff, require_eq_ok, h, exists_const, exists_and_right, ← and_assoc]

theorem pure_succeeds (b : β) : (∃ b', (pure b : Except Failure β) = .ok b') ↔ True :=
  iff_true_intro ⟨b, rfl⟩

end Sequence

theorem parseDefinition_eq_ok {d : Definition} :
    (parseDefinition members).result = .ok d ↔
      ∃ title, field members "name" (Text.ofString "L-System") (Value.asString "name") = .ok title ∧
      ∃ initial : Text, field members "axiom" [] (Value.asString "axiom") = .ok initial ∧
        ¬initial.IsBlank ∧
      ∃ n, field members "iterations" 0 (Value.asInteger "iterations") = .ok n ∧ 0 ≤ n ∧
      ∃ rules, field members "rules" [] (Value.asRules "rules") = .ok rules ∧
      ∃ angle, field members "angle" 90.0 (Value.asNumber "angle") = .ok angle ∧
        (Definition.parse title initial rules n (Angle.ofDegrees angle)).result = .ok d := by
  rw [parseDefinition, Outcome.result_bind]
  simp only [Outcome.ofExcept, bind_eq_ok, require_eq_ok, Outcome.mapError, mapError_eq_ok,
    Bool.not_eq_true', List.isEmpty_eq_false_iff, ne_eq, Text.trim_eq_nil_iff, decide_eq_true_eq]
  constructor
  · rintro ⟨_, ⟨title, htitle, initial, hinitial, -, hblank, n, hn, -, hpos, rules, hrules, angle,
      hangle, h⟩, hd⟩
    cases h
    exact ⟨title, htitle, initial, hinitial, hblank, n, hn, hpos, rules, hrules, angle, hangle, hd⟩
  · rintro ⟨title, htitle, initial, hinitial, hblank, n, hn, hpos, rules, hrules, angle, hangle, hd⟩
    exact ⟨_, ⟨title, htitle, initial, hinitial, (), hblank, n, hn, (), hpos, rules, hrules, angle,
      hangle, rfl⟩, hd⟩

theorem parseDefinition_iff (h : Stands v [] members) :
    (∃ d, (parseDefinition members).result = .ok d) ↔
      v.at? ["axiom"] ≠ none ∧ AllHold v definitionFields := by
  simp only [parseDefinition_eq_ok, Definition.parse_eq_ok, AllHold, definitionFields,
    List.forall_mem_cons]
  constructor
  · rintro ⟨d, title, htitle, initial, hinitial, hblank, n, hn, hpos, rules, hrules, angle, hangle,
      -, word, r, hword, hr, -⟩
    obtain ⟨hthere, hholds⟩ := (word_iff h).mp ⟨initial, hinitial, hblank, word, hword⟩
    exact ⟨hthere, (label_iff h).mp ⟨title, htitle⟩, hholds, (count_iff h).mp ⟨n, hn, hpos⟩,
      (rules_iff h).mp ⟨rules, hrules, r, hr⟩, (number_iff h).mp ⟨angle, hangle⟩, nofun⟩
  · rintro ⟨hthere, htitle, hinitial, hn, hrules, hangle, -⟩
    obtain ⟨title, htitle⟩ := (label_iff h).mpr htitle
    obtain ⟨initial, hinitial, hblank, word, hword⟩ := (word_iff h).mpr ⟨hthere, hinitial⟩
    obtain ⟨n, hn, hpos⟩ := (count_iff h).mpr hn
    obtain ⟨rules, hrules, r, hr⟩ := (rules_iff h).mpr hrules
    obtain ⟨angle, hangle⟩ := (number_iff h).mpr hangle
    exact ⟨_, title, htitle, initial, hinitial, hblank, n, hn, hpos, rules, hrules, angle, hangle,
      hpos, word, r, hword, hr, rfl⟩

theorem parseStep_iff (h : Stands v ["turtle"] members) :
    (∃ s, parseStep members = .ok s) ↔ Holds v ["turtle", "step"] .length := by
  have hlength : (∃ x, field members "step" 10.0 (Value.asNumber "turtle.step") = .ok x ∧ 0 < x) ↔
      Holds v ["turtle", "step"] .length := length_iff h
  refine Iff.trans ?_ hlength
  rw [parseStep]
  simp only [bind_eq_ok, StepLength.ofFloat?]
  constructor
  · rintro ⟨s, x, hx, hs⟩
    by_cases hpos : 0 < x
    · exact ⟨x, hx, hpos⟩
    · rw [dif_neg hpos] at hs
      cases hs
  · rintro ⟨x, hx, hpos⟩
    exact ⟨⟨x, hpos⟩, x, hx, by rw [dif_pos hpos]; rfl⟩

theorem parseDeparture_iff (h : Stands v ["turtle"] members) :
    (∃ d, parseDeparture members = .ok d) ↔
      Holds v ["turtle", "start"] .group ∧ Holds v ["turtle", "start", "x"] .number ∧
        Holds v ["turtle", "start", "y"] .number ∧
        Holds v ["turtle", "start", "heading"] .number := by
  refine bind_succeeds_iff.trans (group_iff h fun start hstart => ?_)
  refine (bind_succeeds_iff_and fun _ => bind_succeeds_iff_and fun _ => bind_succeeds_iff_and
    fun _ => pure_succeeds _).trans ?_
  rw [number_iff hstart, number_iff hstart, number_iff hstart, and_true]
  rfl

theorem parseStyle_iff (h : Stands v ["svg"] members) :
    (∃ style, parseStyle members = .ok style) ↔ AllHold v styleFields := by
  simp only [AllHold, styleFields, List.forall_mem_cons]
  refine bind_succeeds_iff.trans (group_iff h fun style hstyle => ?_)
  refine (bind_succeeds_iff_and fun _ => bind_succeeds_iff_and fun _ => bind_succeeds_iff_and
    fun _ => bind_succeeds_iff_and fun _ => bind_succeeds_iff_and fun _ => pure_succeeds _).trans ?_
  rw [label_iff hstyle, number_iff hstyle, label_iff hstyle, label_iff hstyle, label_iff hstyle]
  simp

theorem parseSheet_iff (h : Stands v [] members) (title : Text) :
    (∃ sheet, parseSheet members title = .ok sheet) ↔
      AllHold v sheetFields ∧ AllHold v styleFields := by
  have hfields : AllHold v sheetFields ∧ AllHold v styleFields ↔
      Holds v ["svg"] .group ∧ Holds v ["svg", "margin"] .number ∧
        Holds v ["svg", "precision"] .places ∧ Holds v ["svg", "flip_y"] .choice ∧
        Holds v ["svg", "width"] .size ∧ Holds v ["svg", "height"] .size ∧
        AllHold v styleFields ∧ Holds v ["svg", "background"] .colour := by
    simp only [AllHold, sheetFields, List.forall_mem_cons, List.not_mem_nil]
    tauto
  refine (bind_succeeds_iff.trans (group_iff h fun svg hsvg => ?_)).trans hfields.symm
  refine (bind_succeeds_iff_and fun _ => bind_require_succeeds_iff fun _ => bind_succeeds_iff_and
    fun _ => bind_succeeds_iff_and fun _ => bind_succeeds_iff_and fun _ => bind_succeeds_iff_and
    fun _ => bind_succeeds_iff_and fun _ => pure_succeeds _).trans ?_
  simp only [Bool.and_eq_true, decide_eq_true_eq, number_iff hsvg, places_iff hsvg, choice_iff hsvg,
    size_iff hsvg, parseStyle_iff hsvg, background_iff hsvg, and_true]
  rfl

/-- What is read after the definition. -/
theorem parseRest_iff (h : Stands v [] members) (d : Definition) :
    (∃ c, (do
      let turtle ← field members "turtle" [] (Value.asObject "turtle")
      let step ← parseStep turtle
      let departure ← parseDeparture turtle
      let sheet ← parseSheet members d.name
      pure { definition := d, step, departure, sheet : Config }) = .ok c) ↔
    AllHold v turtleFields ∧ AllHold v sheetFields ∧ AllHold v styleFields := by
  have hfields : AllHold v turtleFields ↔ Holds v ["turtle"] .group ∧
      Holds v ["turtle", "step"] .length ∧ Holds v ["turtle", "start"] .group ∧
      Holds v ["turtle", "start", "x"] .number ∧ Holds v ["turtle", "start", "y"] .number ∧
      Holds v ["turtle", "start", "heading"] .number := by
    simp [AllHold, turtleFields]
  rw [hfields, and_assoc]
  refine bind_succeeds_iff.trans (group_iff h fun turtle hturtle => ?_)
  refine (bind_succeeds_iff_and fun _ => bind_succeeds_iff_and fun _ => bind_succeeds_iff_and
    fun _ => pure_succeeds _).trans ?_
  rw [parseStep_iff hturtle, parseDeparture_iff hturtle, parseSheet_iff h, and_true]
  simp only [and_assoc]

/-- A value is read as a configuration when it gives one. -/
theorem parse_iff (v : Value) : (∃ c, (parse v).result = .ok c) ↔ Admissible v := by
  rw [parse, Outcome.result_bind]
  cases v with
  | object members =>
    have h : Stands (.object members) [] members := fun name => at_concat rfl
    refine bind_succeeds_iff.trans ?_
    simp only [Outcome.ofExcept, Value.asObject, Except.ok.injEq, exists_eq_left',
      Outcome.result_bind]
    refine (bind_succeeds_iff_and fun d => parseRest_iff h d).trans ?_
    rw [parseDefinition_iff h]
    constructor
    · rintro ⟨⟨hinitial, hdefinition⟩, hturtle, hsheet, hstyle⟩
      refine ⟨⟨members, rfl⟩, hinitial, ?_⟩
      simp only [AllHold, fields, List.forall_mem_append]
      exact ⟨⟨⟨hdefinition, hturtle⟩, hsheet⟩, hstyle⟩
    · rintro ⟨-, hinitial, hfields⟩
      simp only [AllHold, fields, List.forall_mem_append] at hfields
      obtain ⟨⟨⟨hdefinition, hturtle⟩, hsheet⟩, hstyle⟩ := hfields
      exact ⟨⟨hinitial, hdefinition⟩, hturtle, hsheet, hstyle⟩
  | _ =>
    refine iff_of_false ?_ fun h => ?_
    · rintro ⟨c, hc⟩
      cases hc
    · obtain ⟨members, hmembers⟩ := h.object
      cases hmembers

/-! ### What is read -/

/-- A configuration can be played, and has no length or size that is not positive. -/
structure IsSound (c : Config) : Prop where
  initial : c.definition.initial ≠ []
  rules : ∀ rule ∈ c.definition.rules.entries, rule.1.isLetter = true ∧ rule.2 ≠ []
  step : 0 < c.step.value ∧ c.step.value.isNaN = false
  sizes : ∀ x ∈ c.sheet.width.toList ++ c.sheet.height.toList, 0 < x ∧ x.isNaN = false
  playback : ∃ p, (playback c).result = .ok p

theorem size_pos {o : Option Float} (h : size members label name = .ok o) :
    ∀ x ∈ o.toList, 0 < x := by
  unfold size at h
  split at h
  · cases h
    exact nofun
  · cases h
    exact nofun
  · obtain ⟨x, -, h⟩ := bind_eq_ok.mp h
    obtain ⟨_, hpos, h⟩ := bind_eq_ok.mp h
    cases h
    simpa using require_eq_ok.mp hpos

theorem sizes_of_parseSheet {title : Text} {sheet : Svg.Sheet}
    (h : parseSheet members title = .ok sheet) :
    ∀ x ∈ sheet.width.toList ++ sheet.height.toList, 0 < x := by
  obtain ⟨svg, -, h⟩ := bind_eq_ok.mp h
  obtain ⟨margin, -, h⟩ := bind_eq_ok.mp h
  obtain ⟨precision, -, h⟩ := bind_eq_ok.mp h
  obtain ⟨-, -, h⟩ := bind_eq_ok.mp h
  obtain ⟨flip, -, h⟩ := bind_eq_ok.mp h
  obtain ⟨width, hwidth, h⟩ := bind_eq_ok.mp h
  obtain ⟨height, hheight, h⟩ := bind_eq_ok.mp h
  obtain ⟨style, -, h⟩ := bind_eq_ok.mp h
  obtain ⟨background, -, h⟩ := bind_eq_ok.mp h
  cases h
  exact List.forall_mem_append.mpr ⟨size_pos hwidth, size_pos hheight⟩

/-- A configuration can be played when its number of generations is not negative. -/
theorem playback_of_nonneg {c : Config} (h : 0 ≤ c.definition.generations) :
    ∃ p, (playback c).result = .ok p := by
  rw [playback, Outcome.result_bind]
  simp only [bind_eq_ok, Outcome.mapError, mapError_eq_ok, LSystem.build_eq_ok]
  exact ⟨_, _, ⟨h, rfl⟩, rfl⟩

theorem isSound_of_parse {c : Config} (h : (parse v).result = .ok c) : c.IsSound := by
  rw [parse, Outcome.result_bind] at h
  obtain ⟨members, -, h⟩ := bind_eq_ok.mp h
  rw [Outcome.result_bind] at h
  obtain ⟨d, hd, h⟩ := bind_eq_ok.mp h
  obtain ⟨turtle, -, h⟩ := bind_eq_ok.mp h
  obtain ⟨step, -, h⟩ := bind_eq_ok.mp h
  obtain ⟨departure, -, h⟩ := bind_eq_ok.mp h
  obtain ⟨sheet, hsheet, h⟩ := bind_eq_ok.mp h
  cases h
  obtain ⟨title, -, initial, -, hblank, n, -, -, rules, -, angle, -, hparse⟩ :=
    parseDefinition_eq_ok.mp hd
  obtain ⟨hn, word, r, hword, hr, rfl⟩ := Definition.parse_eq_ok.mp hparse
  have hwritten : Word.WrittenIn word initial := Word.parse_eq_ok_iff.mp hword
  exact {
    initial := fun hnil => hblank <| Text.nonblanks_eq_nil_iff.mp <|
      (Word.eq_nil_iff_of_writtenIn hwritten).mp hnil
    rules := fun rule hrule =>
      have hrule := Rules.isWritable_of_parse hr rule hrule
      ⟨hrule.1, hrule.2.2.1⟩
    step := ⟨step.pos, Binary64.isNaN_of_pos step.pos⟩
    sizes := fun x hx =>
      have hpos := sizes_of_parseSheet hsheet x hx
      ⟨hpos, Binary64.isNaN_of_pos hpos⟩
    playback := playback_of_nonneg hn }

/-- A value is read as a configuration exactly when it gives one, and else refused, unless a field
that is to be a floating-point number holds an integer beyond their range. What is read is sound. -/
theorem accepts_exactly_admissible (v : Value) :
    ((∃ c, (parse v).result = .ok c) ↔ Admissible v) ∧
    (∀ f, (parse v).result = .error f → (∃ r, f = .refused r) ∨
      f = .numberTooLarge ∧ ∃ path ∈ numberFields, ∃ i,
        v.at? path = some (.int i) ∧ ¬Binary64.InRange i) ∧
    ∀ c, (parse v).result = .ok c → c.IsSound := by
  refine ⟨parse_iff v, fun f hf => ?_, fun c => isSound_of_parse⟩
  have hends := parse_ends v
  rw [hf] at hends
  cases f with
  | refused r => exact .inl ⟨r, rfl⟩
  | numberTooLarge =>
    obtain ⟨path, hpath, i, hi, hlarge⟩ := hends
    exact .inr ⟨rfl, path, hpath, i, hi, Binary64.ofInt?_eq_none_iff.mp hlarge⟩
  | _ => exact hends.elim

end Config

end TurtleGrammar
