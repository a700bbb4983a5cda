import TurtleGrammar.Config
import TurtleGrammar.Proofs.Drawing.Texts
import TurtleGrammar.Proofs.Grammar.Reading

/-! The reading of a configuration, field by field. It fails with a refusal, or because a field that
is to be a floating-point number holds an integer beyond them. The texts that a drawing shows are
the standard ones or stand in the fields for them. -/

namespace TurtleGrammar

/-- What stands in a value at the end of a path of names. -/
def Json.Value.at? : Value → List String → Option Value
  | v, [] => some v
  | .object members, name :: path => (member? name members).bind fun v => v.at? path
  | _, _ :: _ => none

namespace Config

open Json

/-- The fields that are floating-point numbers, by their paths. -/
def numberFields : List (List String) :=
  [["angle"], ["turtle", "step"], ["turtle", "start", "x"], ["turtle", "start", "y"],
    ["turtle", "start", "heading"], ["svg", "margin"], ["svg", "width"], ["svg", "height"],
    ["svg", "style", "stroke_width"]]

/-- The fields with texts that a drawing shows, by their paths. -/
def textFields : List (List String) :=
  [["name"], ["svg", "background"], ["svg", "style", "stroke"], ["svg", "style", "fill"],
    ["svg", "style", "stroke_linecap"], ["svg", "style", "stroke_linejoin"]]

/-- A number field of a value holds an integer that is too large to be read as one. -/
def HasLarge (v : Value) : Prop :=
  ∃ field ∈ numberFields, ∃ i, v.at? field = some (.int i) ∧ Number.Binary64.ofInt? i = none

/-- Why the reading of a configuration from a value fails. -/
def FailsBy (v : Value) : Failure → Prop
  | .refused _ => True
  | .numberTooLarge => HasLarge v
  | _ => False

/-- Members that stand in a value at the end of a path. -/
def Under (v : Value) (path : List String) (members : Members) : Prop :=
  ∀ name w, Value.member? name members = some w → v.at? (path ++ [name]) = some w

variable {v w : Value} {path : List String} {members : Members} {name label : String}

theorem at_append (v : Value) (path rest : List String) :
    v.at? (path ++ rest) = (v.at? path).bind fun w => w.at? rest := by
  induction path generalizing v with
  | nil => rw [List.nil_append, Value.at?, Option.bind_some]
  | cons name path ih =>
    cases v with
    | object members =>
      rw [List.cons_append, Value.at?, Value.at?, Option.bind_assoc]
      simp only [ih]
    | _ => rfl

theorem at_concat (h : v.at? path = some (.object members)) :
    v.at? (path ++ [name]) = Value.member? name members := by
  rw [at_append, h, Option.bind_some, Value.at?]
  cases Value.member? name members <;> rfl

/-! ### One field -/

theorem field_ends {α : Type} {absent : α} {as : Value → Except Failure α}
    {good : α → Prop} {bad : Failure → Prop} (habsent : good absent)
    (has : ∀ w, Value.member? label members = some w → Ends bad good (as w)) :
    Ends bad good (field members label absent as) := by
  unfold field
  split
  · next w h => exact has w h
  · exact habsent

theorem require_ends (condition : Bool) (r : Refusal) :
    Ends (FailsBy v) (fun _ => condition = true) (require condition r) := by
  unfold require
  split
  · assumption
  · trivial

theorem asNumber_ends (h : v.at? path = some w) (hpath : path ∈ numberFields) :
    Ends (FailsBy v) (fun _ => True) (w.asNumber name) := by
  cases w with
  | int i =>
    rw [Value.asNumber]
    cases hi : Number.Binary64.ofInt? i with
    | some x => exact True.intro
    | none => exact ⟨path, hpath, i, h, hi⟩
  | _ => exact True.intro

theorem number_ends (h : Under v path members) (hpath : path ++ [label] ∈ numberFields)
    (absent : Float) :
    Ends (FailsBy v) (fun _ => True) (field members label absent (Value.asNumber name)) :=
  field_ends trivial fun w hw => asNumber_ends (h _ w hw) hpath

theorem integer_ends (absent : Int) :
    Ends (FailsBy v) (fun _ => True) (field members label absent (Value.asInteger name)) :=
  field_ends trivial fun w _ => by cases w <;> trivial

theorem boolean_ends (absent : Bool) :
    Ends (FailsBy v) (fun _ => True) (field members label absent (Value.asBoolean name)) :=
  field_ends trivial fun w _ => by cases w <;> trivial

theorem text_ends (h : Under v path members) (absent : Text) :
    Ends (FailsBy v) (fun t => t = absent ∨ v.at? (path ++ [label]) = some (.string t))
      (field members label absent (Value.asString name)) := by
  refine field_ends (.inl rfl) fun w hw => ?_
  cases w with
  | string t => exact .inr (h _ _ hw)
  | _ => trivial

theorem object_ends (h : Under v path members) :
    Ends (FailsBy v) (Under v (path ++ [label]))
      (field members label [] (Value.asObject name)) := by
  refine field_ends nofun fun w hw => ?_
  cases w with
  | object inner =>
    intro name' w' hw'
    rw [at_concat (h _ _ hw), hw']
  | _ => trivial

theorem asStrings_ends (i : Nat) (items : List Value) :
    Ends (FailsBy v) (fun _ => True) (Value.asStrings name i items) := by
  induction items generalizing i with
  | nil => trivial
  | cons item items ih =>
    refine Ends.bind (Q := fun _ => True) ?_ fun _ _ => ?_
    · cases item <;> trivial
    · exact Ends.bind (ih _) fun _ _ => trivial

theorem rules_ends (absent : Text) :
    Ends (FailsBy v) (fun _ => True) (field members label absent (Value.asRules name)) := by
  refine field_ends trivial fun w _ => ?_
  cases w with
  | array items => exact Ends.bind (asStrings_ends 0 items) fun _ _ => trivial
  | _ => trivial

theorem size_ends (h : Under v path members) (hpath : path ++ [label] ∈ numberFields) :
    Ends (FailsBy v) (fun _ => True) (size members label name) := by
  unfold size
  split
  · trivial
  · trivial
  · next w _ hw =>
    exact Ends.bind (asNumber_ends (h _ w hw) hpath) fun x _ =>
      Ends.bind (require_ends _ _) fun _ _ => trivial

/-! ### The parts of a configuration -/

/-- A text that a drawing shows: one without surrogates, or one that stands in a field for it. -/
def ShownText (v : Value) (t : Text) : Prop :=
  (∃ s, t = Text.ofString s) ∨ ∃ field ∈ textFields, v.at? field = some (.string t)

theorem shownText_of_or {s : String} {t : Text}
    (h : t = Text.ofString s ∨ v.at? path = some (.string t)) (hpath : path ∈ textFields) :
    ShownText v t :=
  h.imp (fun h => ⟨s, h⟩) fun h => ⟨path, hpath, h⟩

theorem parseDefinition_ends (h : Under v [] members) :
    Ends (FailsBy v) (fun d => ShownText v d.name) (parseDefinition members).result := by
  rw [parseDefinition, Outcome.result_bind]
  refine Ends.bind (Q := fun r => ShownText v r.1) ?_ fun r hr => ?_
  · refine Ends.bind (text_ends h _) fun title htitle => ?_
    refine Ends.bind (text_ends h _) fun _ _ => Ends.bind (require_ends _ _) fun _ _ => ?_
    refine Ends.bind (integer_ends _) fun _ _ => Ends.bind (require_ends _ _) fun _ _ => ?_
    refine Ends.bind (rules_ends _) fun _ _ => ?_
    refine Ends.bind (number_ends h (by decide) _) fun _ _ => ?_
    exact shownText_of_or htitle (by decide)
  · obtain ⟨title, initial, n, rules, angle⟩ := r
    refine Ends.mapError (x := (Definition.parse title initial rules n _).result) ?_
    cases hd : (Definition.parse title initial rules n (Angle.ofDegrees angle)).result with
    | error e => trivial
    | ok d =>
      obtain ⟨-, w, r, -, -, rfl⟩ := Definition.parse_eq_ok.mp hd
      exact hr

theorem parseStep_ends (h : Under v ["turtle"] members) :
    Ends (FailsBy v) (fun _ => True) (parseStep members) := by
  refine Ends.bind (number_ends h (by decide) _) fun x _ => ?_
  cases StepLength.ofFloat? x with
  | some step => exact True.intro
  | none => exact True.intro

theorem parseDeparture_ends (h : Under v ["turtle"] members) :
    Ends (FailsBy v) (fun _ => True) (parseDeparture members) := by
  refine Ends.bind (object_ends h) fun start hstart => ?_
  refine Ends.bind (number_ends hstart (by decide) _) fun _ _ => ?_
  refine Ends.bind (number_ends hstart (by decide) _) fun _ _ => ?_
  exact Ends.bind (number_ends hstart (by decide) _) fun _ _ => True.intro

theorem parseStyle_ends (h : Under v ["svg"] members) :
    Ends (FailsBy v)
      (fun style => ∀ t ∈ [style.stroke, style.fill, style.lineCap, style.lineJoin],
        ShownText v t) (parseStyle members) := by
  refine Ends.bind (object_ends h) fun style hstyle => ?_
  refine Ends.bind (text_ends hstyle _) fun stroke hstroke => ?_
  refine Ends.bind (number_ends hstyle (by decide) _) fun _ _ => ?_
  refine Ends.bind (text_ends hstyle _) fun fill hfill => ?_
  refine Ends.bind (text_ends hstyle _) fun lineCap hcap => ?_
  refine Ends.bind (text_ends hstyle _) fun lineJoin hjoin => ?_
  simp only [pure, Except.pure, Ends, List.forall_mem_cons]
  exact ⟨shownText_of_or hstroke (by decide), shownText_of_or hfill (by decide),
    shownText_of_or hcap (by decide), shownText_of_or hjoin (by decide), nofun⟩

theorem parseBackground_ends (h : Under v ["svg"] members) :
    Ends (FailsBy v) (fun b => ∀ t ∈ b.toList, ShownText v t) (parseBackground members) := by
  unfold parseBackground
  split
  · exact nofun
  · exact nofun
  · next w _ hw =>
    have hat := h _ w hw
    cases w with
    | string t =>
      intro t' ht'
      cases List.mem_singleton.mp ht'
      exact .inr ⟨_, by decide, hat⟩
    | _ => exact True.intro

/-- A sheet that can be drawn on, with texts from a value. -/
structure SheetFrom (v : Value) (sheet : Svg.Sheet) : Prop where
  precision : 0 ≤ sheet.precision ∧ sheet.precision ≤ 10
  texts : ∀ t ∈ sheet.texts, ShownText v t

theorem parseSheet_ends (h : Under v [] members) {title : Text} (htitle : ShownText v title) :
    Ends (FailsBy v) (SheetFrom v) (parseSheet members title) := by
  refine Ends.bind (object_ends h) fun svg hsvg => ?_
  refine Ends.bind (number_ends hsvg (by decide) _) fun _ _ => ?_
  refine Ends.bind (integer_ends _) fun precision _ => ?_
  refine Ends.bind (require_ends _ _) fun _ hprecision => ?_
  refine Ends.bind (boolean_ends _) fun _ _ => ?_
  refine Ends.bind (size_ends hsvg (by decide)) fun _ _ => ?_
  refine Ends.bind (size_ends hsvg (by decide)) fun _ _ => ?_
  refine Ends.bind (parseStyle_ends hsvg) fun style hstyle => ?_
  refine Ends.bind (parseBackground_ends hsvg) fun background hbackground => ?_
  refine SheetFrom.mk (by simpa using hprecision) fun t ht => ?_
  rw [Svg.Sheet.texts, List.mem_append, List.mem_append] at ht
  rcases ht with (ht | ht) | ht
  · cases List.mem_singleton.mp ht
    exact htitle
  · exact hbackground t ht
  · exact hstyle t ht

/-- How the reading of a configuration ends. -/
theorem parse_ends (v : Value) :
    Ends (FailsBy v) (fun c => SheetFrom v c.sheet) (parse v).result := by
  have hroot : Ends (FailsBy v) (Under v []) (v.asObject "root") := by
    cases v with
    | object members =>
      intro name w hw
      have hat : (Value.object members).at? ([] ++ [name]) = Value.member? name members :=
        at_concat rfl
      exact hat.trans hw
    | _ => exact True.intro
  rw [parse, Outcome.result_bind]
  refine Ends.bind hroot fun members h => ?_
  rw [Outcome.result_bind]
  refine Ends.bind (parseDefinition_ends h) fun d hd => ?_
  refine Ends.bind (object_ends h) fun turtle hturtle => ?_
  refine Ends.bind (parseStep_ends hturtle) fun _ _ => ?_
  refine Ends.bind (parseDeparture_ends hturtle) fun _ _ => ?_
  exact Ends.bind (parseSheet_ends h hd) fun _ hsheet => hsheet

end Config

end TurtleGrammar
