import TurtleGrammar.Proofs.Config.Fields
import TurtleGrammar.Proofs.Number.Integers

/-! What the fields of a configuration may hold. Every field has a type and a range of its own, and
the reading of a field succeeds when the field is left out or holds what it may. -/

namespace TurtleGrammar

open Json Number

/-! ### What fields may hold -/

namespace Json.Value

/-- A number that is not too large to be read as a floating-point one. -/
def IsNumber : Value → Prop
  | .int i => Binary64.InRange i
  | .float _ => True
  | _ => False

/-- A number greater than zero, as the value that is not a number is not. -/
def IsPositive : Value → Prop
  | .int i => 0 < i
  | .float x => 0 < x
  | _ => False

/-- The text of rules that a value gives: a string, or strings that are put on lines of their
own. -/
def IsText (v : Value) (t : Text) : Prop :=
  v = .string t ∨
    ∃ lines : List Text, v = .array (lines.map .string) ∧ t = [.scalar '\n'].intercalate lines

end Json.Value

namespace Config

/-- What a field of a configuration is for. -/
inductive Purpose
  | label
  | word
  | rules
  | count
  | places
  | number
  | length
  | size
  | choice
  | colour
  | group

/-- What a field may hold. Only a size and a colour may be null. -/
def Purpose.Admits : Purpose → Value → Prop
  | .label, v => ∃ t, v = .string t
  | .word, v => ∃ t w, v = .string t ∧ ¬t.IsBlank ∧ Word.parse t 1 1 = .ok w
  | .rules, v => ∃ t r, v.IsText t ∧ (Rules.parse t).result = .ok r
  | .count, v => ∃ i, v = .int i ∧ 0 ≤ i
  | .places, v => ∃ i, v = .int i ∧ 0 ≤ i ∧ i ≤ 10
  | .number, v => v.IsNumber
  | .length, v => v.IsNumber ∧ v.IsPositive
  | .size, v => v = .null ∨ v.IsNumber ∧ v.IsPositive
  | .choice, v => ∃ b, v = .bool b
  | .colour, v => v = .null ∨ ∃ t, v = .string t
  | .group, v => ∃ members, v = .object members

/-- The fields of the definition, by their paths. -/
def definitionFields : List (List String × Purpose) :=
  [(["name"], .label), (["axiom"], .word), (["iterations"], .count), (["rules"], .rules),
    (["angle"], .number)]

/-- The fields of the turtle. -/
def turtleFields : List (List String × Purpose) :=
  [(["turtle"], .group), (["turtle", "step"], .length), (["turtle", "start"], .group),
    (["turtle", "start", "x"], .number), (["turtle", "start", "y"], .number),
    (["turtle", "start", "heading"], .number)]

/-- The fields of the sheet. -/
def sheetFields : List (List String × Purpose) :=
  [(["svg"], .group), (["svg", "margin"], .number), (["svg", "precision"], .places),
    (["svg", "flip_y"], .choice), (["svg", "width"], .size), (["svg", "height"], .size),
    (["svg", "background"], .colour)]

/-- The fields of the style. -/
def styleFields : List (List String × Purpose) :=
  [(["svg", "style"], .group), (["svg", "style", "stroke"], .label),
    (["svg", "style", "stroke_width"], .number), (["svg", "style", "fill"], .label),
    (["svg", "style", "stroke_linecap"], .label), (["svg", "style", "stroke_linejoin"], .label)]

/-- The known fields. -/
def fields : List (List String × Purpose) :=
  definitionFields ++ turtleFields ++ sheetFields ++ styleFields

/-- A field, if it is there, holds what it may. -/
def Holds (v : Value) (path : List String) (purpose : Purpose) : Prop :=
  ∀ w, v.at? path = some w → purpose.Admits w

/-- Some fields hold what they may. -/
def AllHold (v : Value) (fields : List (List String × Purpose)) : Prop :=
  ∀ field ∈ fields, Holds v field.1 field.2

/-- A value gives a configuration. -/
structure Admissible (v : Value) : Prop where
  object : ∃ members, v = .object members
  initial : v.at? ["axiom"] ≠ none
  fields : AllHold v fields

/-! ### Reading a field -/

/-- The members at the end of a path, where a path that is not there has none. -/
def Stands (v : Value) (path : List String) (members : Members) : Prop :=
  ∀ name, v.at? (path ++ [name]) = Value.member? name members

variable {v w : Value} {path : List String} {members : Members} {name label : String}
  {purpose : Purpose}

theorem stands_nil (h : v.at? path = none) : Stands v path [] := by
  intro name
  rw [at_append, h]
  rfl

section Field

variable {α : Type} {absent : α} {as : Value → Except Failure α} {good : α → Prop}

theorem field_iff (h : Stands v path members) (habsent : good absent)
    (has : ∀ w, (∃ a, as w = .ok a ∧ good a) ↔ purpose.Admits w) :
    (∃ a, field members label absent as = .ok a ∧ good a) ↔ Holds v (path ++ [label]) purpose := by
  rw [field, Holds, h label]
  cases Value.member? label members with
  | none => exact iff_of_true ⟨absent, rfl, habsent⟩ nofun
  | some w =>
    rw [has w]
    exact ⟨fun hw w' hw' => Option.some.inj hw' ▸ hw, fun hw => hw w rfl⟩

theorem field_any_iff (h : Stands v path members)
    (has : ∀ w, (∃ a, as w = .ok a) ↔ purpose.Admits w) :
    (∃ a, field members label absent as = .ok a) ↔ Holds v (path ++ [label]) purpose := by
  have hfield : (∃ a, field members label absent as = .ok a ∧ True) ↔
      Holds v (path ++ [label]) purpose :=
    field_iff h trivial fun w => by simpa only [and_true] using has w
  simpa only [and_true] using hfield

end Field

theorem asString_iff : (∃ t, w.asString name = .ok t) ↔ Purpose.label.Admits w := by
  cases w <;> simp [Value.asString, Value.mistyped, Purpose.Admits]

theorem asBoolean_iff : (∃ t, w.asBoolean name = .ok t) ↔ Purpose.choice.Admits w := by
  cases w <;> simp [Value.asBoolean, Value.mistyped, Purpose.Admits]

theorem asInteger_iff {good : Int → Prop} :
    (∃ i, w.asInteger name = .ok i ∧ good i) ↔ ∃ i, w = .int i ∧ good i := by
  cases w <;> simp [Value.asInteger, Value.mistyped]

theorem asNumber_iff : (∃ x, w.asNumber name = .ok x) ↔ w.IsNumber := by
  cases w with
  | int i =>
    have hi := Binary64.ofInt?_eq_none_iff (i := i)
    rw [Value.asNumber, Value.IsNumber]
    cases h : Binary64.ofInt? i with
    | none => simpa using hi.mp h
    | some x => simpa [h] using hi
  | _ => simp [Value.asNumber, Value.mistyped, Value.IsNumber]

theorem asPositive_iff :
    (∃ x, w.asNumber name = .ok x ∧ 0 < x) ↔ w.IsNumber ∧ w.IsPositive := by
  cases w with
  | int i =>
    have hi := Binary64.ofInt?_eq_none_iff (i := i)
    rw [Value.asNumber, Value.IsNumber, Value.IsPositive]
    cases h : Binary64.ofInt? i with
    | none => simpa using fun h' => absurd h' (hi.mp h)
    | some x =>
      have hpos := Binary64.pos_ofInt?_iff h
      rw [h] at hi
      simpa [hpos] using fun _ => hi
  | _ => simp [Value.asNumber, Value.mistyped, Value.IsNumber, Value.IsPositive]

theorem asStrings_eq_ok {items : List Value} {lines : List Text} {i : Nat} :
    Value.asStrings name i items = .ok lines ↔ items = lines.map .string := by
  induction items generalizing i lines with
  | nil => cases lines <;> simp [Value.asStrings]
  | cons item items ih =>
    rw [Value.asStrings, bind_eq_ok]
    constructor
    · rintro ⟨t, ht, h⟩
      obtain ⟨rest, hrest, h⟩ := bind_eq_ok.mp h
      cases h
      cases item <;> cases ht
      rw [ih.mp hrest]
      rfl
    · intro h
      cases lines with
      | nil => cases h
      | cons line lines =>
        obtain ⟨rfl, hrest⟩ := List.cons.inj h
        exact ⟨line, rfl, bind_eq_ok.mpr ⟨lines, ih.mpr hrest, rfl⟩⟩

theorem asRules_eq_ok {t : Text} : w.asRules name = .ok t ↔ w.IsText t := by
  cases w with
  | array items =>
    rw [Value.asRules, bind_eq_ok, Value.IsText]
    simp only [asStrings_eq_ok, reduceCtorEq, false_or, Value.array.injEq]
    exact exists_congr fun lines => and_congr_right fun _ =>
      ⟨fun h => (Except.ok.inj h).symm, fun h => congrArg Except.ok h.symm⟩
  | _ => simp [Value.asRules, Value.asString, Value.mistyped, Value.IsText, eq_comm]

/-! ### Fields by their purpose -/

theorem label_iff (h : Stands v path members) {absent : Text} :
    (∃ t, field members label absent (Value.asString name) = .ok t) ↔
      Holds v (path ++ [label]) .label :=
  field_any_iff h fun _ => asString_iff

theorem choice_iff (h : Stands v path members) {absent : Bool} :
    (∃ b, field members label absent (Value.asBoolean name) = .ok b) ↔
      Holds v (path ++ [label]) .choice :=
  field_any_iff h fun _ => asBoolean_iff

theorem number_iff (h : Stands v path members) {absent : Float} :
    (∃ x, field members label absent (Value.asNumber name) = .ok x) ↔
      Holds v (path ++ [label]) .number :=
  field_any_iff h fun _ => asNumber_iff

theorem count_iff (h : Stands v path members) :
    (∃ n, field members label 0 (Value.asInteger name) = .ok n ∧ 0 ≤ n) ↔
      Holds v (path ++ [label]) .count :=
  field_iff h le_rfl fun _ => asInteger_iff

theorem places_iff (h : Stands v path members) :
    (∃ n, field members label 3 (Value.asInteger name) = .ok n ∧ 0 ≤ n ∧ n ≤ 10) ↔
      Holds v (path ++ [label]) .places :=
  field_iff h (by decide) fun _ => asInteger_iff

theorem length_iff (h : Stands v path members) :
    (∃ x, field members label 10.0 (Value.asNumber name) = .ok x ∧ 0 < x) ↔
      Holds v (path ++ [label]) .length :=
  field_iff h (by decide +kernel) fun _ => asPositive_iff

theorem rules_iff (h : Stands v path members) :
    (∃ t, field members label [] (Value.asRules name) = .ok t ∧
      ∃ r, (Rules.parse t).result = .ok r) ↔ Holds v (path ++ [label]) .rules := by
  refine field_iff h ⟨.empty, rfl⟩ fun w => ?_
  simp only [asRules_eq_ok, Purpose.Admits, exists_and_left]

/-- A first word has to be there. -/
theorem word_iff (h : Stands v path members) :
    (∃ t : Text, field members label [] (Value.asString name) = .ok t ∧ ¬t.IsBlank ∧
      ∃ w, Word.parse t 1 1 = .ok w) ↔
    v.at? (path ++ [label]) ≠ none ∧ Holds v (path ++ [label]) .word := by
  rw [field, Holds, h label]
  cases Value.member? label members with
  | none =>
    refine iff_of_false ?_ fun h => h.1 rfl
    rintro ⟨t, ht, hblank, -⟩
    cases ht
    exact hblank nofun
  | some w =>
    have hw : (∃ t : Text, w.asString name = .ok t ∧ ¬t.IsBlank ∧
        ∃ u, Word.parse t 1 1 = .ok u) ↔ Purpose.word.Admits w := by
      cases w <;> simp [Value.asString, Value.mistyped, Purpose.Admits]
    simp [hw]

theorem group_iff {good : Members → Prop} {rest : Prop} (h : Stands v path members)
    (hgood : ∀ inner, Stands v (path ++ [label]) inner → (good inner ↔ rest)) :
    (∃ inner, field members label [] (Value.asObject name) = .ok inner ∧ good inner) ↔
      Holds v (path ++ [label]) .group ∧ rest := by
  rw [field, Holds, h label]
  cases hw : Value.member? label members with
  | none =>
    have hinner : Stands v (path ++ [label]) [] := stands_nil ((h label).trans hw)
    simp [hgood [] hinner]
  | some w =>
    cases w with
    | object inner =>
      have hinner : Stands v (path ++ [label]) inner := fun name =>
        at_concat ((h label).trans hw)
      simp [Value.asObject, hgood inner hinner, Purpose.Admits]
    | _ => simp [Value.asObject, Value.mistyped, Purpose.Admits]

theorem require_eq_ok {condition : Bool} {r : Refusal} {u : Unit} :
    require condition r = .ok u ↔ condition = true := by
  cases condition <;> simp [require]

theorem size_iff (h : Stands v path members) :
    (∃ x, size members label name = .ok x) ↔ Holds v (path ++ [label]) .size := by
  rw [Holds, h label]
  unfold size
  split
  · simp [*]
  · simp [*, Purpose.Admits]
  · next w hnull hw =>
    have hread : (∃ x, (do
        let x ← w.asNumber name
        require (0 < x) (.sizeNotPositive name)
        pure (some x)) = .ok x) ↔ ∃ x, w.asNumber name = .ok x ∧ 0 < x := by
      simp only [bind_eq_ok, require_eq_ok, decide_eq_true_eq]
      constructor
      · rintro ⟨_, x, hx, _, hpos, -⟩
        exact ⟨x, hx, hpos⟩
      · rintro ⟨x, hx, hpos⟩
        exact ⟨some x, x, hx, (), hpos, rfl⟩
    rw [hread, asPositive_iff]
    simp [hw, Purpose.Admits, show w ≠ .null from hnull]

theorem background_iff (h : Stands v path members) :
    (∃ b, parseBackground members = .ok b) ↔ Holds v (path ++ ["background"]) .colour := by
  rw [Holds, h "background"]
  unfold parseBackground
  split
  · simp [*]
  · simp [*, Purpose.Admits]
  · next w hnull hw =>
    have hread : (∃ b, (do pure (some (← w.asString "svg.background"))) = .ok b) ↔
        ∃ t, w.asString "svg.background" = .ok t := by
      simp only [bind_eq_ok]
      constructor
      · rintro ⟨_, t, ht, -⟩
        exact ⟨t, ht⟩
      · rintro ⟨t, ht⟩
        exact ⟨some t, t, ht, rfl⟩
    rw [hread, asString_iff]
    simp [hw, Purpose.Admits, show w ≠ .null from hnull]

end Config

end TurtleGrammar
