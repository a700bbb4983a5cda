import TurtleGrammar.Proofs.Config.Export
import TurtleGrammar.Proofs.Grammar.Faults
import TurtleGrammar.Proofs.Grammar.Merging

/-! Rules given as a list of texts. The texts are put on lines of their own and read as one, and
what is read from them are the rules of each text by itself, one text after another, whatever breaks
of lines the texts hold. If one of them cannot be read, the first of these is refused for the fault
that it has by itself, at the same column. -/

namespace TurtleGrammar

namespace Text

/-- Lines give rules, one for each line that is not blank. -/
inductive GiveRules : List Text → List (Symbol × Word) → Prop
  | nil : GiveRules [] []
  | blank {line : Text} {lines : List Text} {given : List (Symbol × Word)} (blank : line.IsBlank)
      (rest : GiveRules lines given) : GiveRules (line :: lines) given
  | rule {line : Text} {lines : List Text} {key : Symbol} {r : Word}
      {given : List (Symbol × Word)} (gives : line.Gives key r) (rest : GiveRules lines given) :
      GiveRules (line :: lines) ((key, r) :: given)

/-! ### Lines of texts that are joined -/

variable {text rest : Text} {texts before after : List Text}

theorem lines_closed_append : lines (closed text ++ rest) = lines (closed text) ++ lines rest := by
  obtain ⟨blank, -, hlines⟩ := exists_lines_append_feed text
  rw [closed, List.append_assoc, List.singleton_append, hlines, hlines, lines, List.append_nil]

theorem lines_flatMap_closed :
    lines (texts.flatMap closed ++ rest) = lines (texts.flatMap closed) ++ lines rest := by
  induction texts with
  | nil => rfl
  | cons text texts ih =>
    rw [List.flatMap_cons, List.append_assoc, lines_closed_append, lines_closed_append, ih,
      List.append_assoc]

/-- Texts that are one line each take one line each. -/
theorem length_lines_flatMap_closed (h : ∀ text ∈ texts, text.IsUnbroken) :
    (lines (texts.flatMap closed)).length = texts.length := by
  induction texts with
  | nil => rfl
  | cons text texts ih =>
    rw [List.forall_mem_cons] at h
    have hline : lines (closed text) = [text] := lines_append_feed h.1
    rw [List.flatMap_cons, lines_closed_append, hline, List.length_append, ih h.2,
      List.length_singleton, List.length_cons, Nat.add_comm]

/-- Before the lines of one of the texts that are joined stand those of the texts before it. -/
theorem exists_lines_joined (text : Text) (before after : List Text) :
    ∃ later, lines (joined (before ++ text :: after)) =
      lines (before.flatMap closed) ++ (lines text ++ later) := by
  rw [joined_append_cons, lines_flatMap_closed]
  cases after with
  | nil => exact ⟨[], by rw [joined, List.intercalate_singleton, List.append_nil]⟩
  | cons next after =>
    obtain ⟨blank, -, hlines⟩ := exists_lines_append_feed text
    exact ⟨blank ++ lines (joined (next :: after)), by
      rw [joined_cons_cons, hlines, List.append_assoc]⟩

theorem mem_lines_flatMap_closed {line : Text} (h : line ∈ lines (texts.flatMap closed)) :
    line = [] ∨ ∃ text ∈ texts, line ∈ lines text := by
  induction texts with
  | nil => cases h
  | cons text texts ih =>
    obtain ⟨blank, hblank, hlines⟩ := exists_lines_append_feed text
    rw [List.flatMap_cons, lines_closed_append, closed, hlines, lines, List.append_nil,
      List.mem_append, List.mem_append] at h
    rcases h with (h | h) | h
    · exact .inr ⟨text, List.mem_cons_self, h⟩
    · exact .inl (hblank line h)
    rcases ih h with hempty | ⟨text', hmem, hline⟩
    · exact .inl hempty
    · exact .inr ⟨text', List.mem_cons_of_mem _ hmem, hline⟩

/-! ### The rules on lines -/

variable {a b : List Text} {given given' : List (Symbol × Word)}

theorem GiveRules.append (ha : GiveRules a given) (hb : GiveRules b given') :
    GiveRules (a ++ b) (given ++ given') := by
  induction ha with
  | nil => exact hb
  | blank hblank _ ih => exact .blank hblank ih
  | rule hgives _ ih => exact .rule hgives ih

theorem GiveRules.exists_append (h : GiveRules (a ++ b) given) :
    ∃ x y, given = x ++ y ∧ GiveRules a x ∧ GiveRules b y := by
  induction a generalizing given with
  | nil => exact ⟨[], given, rfl, .nil, h⟩
  | cons line a ih =>
    cases h with
    | blank hblank h =>
      obtain ⟨x, y, rfl, hx, hy⟩ := ih h
      exact ⟨x, y, rfl, .blank hblank hx, hy⟩
    | @rule _ _ key r _ hgives h =>
      obtain ⟨x, y, rfl, hx, hy⟩ := ih h
      exact ⟨(key, r) :: x, y, rfl, .rule hgives hx, hy⟩

theorem giveRules_of_blank (h : ∀ line ∈ a, line = []) : GiveRules a given ↔ given = [] := by
  constructor
  · intro hgiven
    induction hgiven with
    | nil => rfl
    | blank _ _ ih => exact ih (List.forall_mem_cons.mp h).2
    | rule hgives _ _ =>
      refine absurd ?_ hgives.not_isBlank
      rw [(List.forall_mem_cons.mp h).1]
      exact nofun
  · rintro rfl
    induction a with
    | nil => exact .nil
    | cons line a ih =>
      rw [List.forall_mem_cons] at h
      rw [h.1]
      exact .blank nofun (ih h.2)

theorem giveRules_append_feed :
    GiveRules (lines (text ++ .scalar '\n' :: rest)) given ↔
      ∃ x y, given = x ++ y ∧ GiveRules (lines text) x ∧ GiveRules (lines rest) y := by
  obtain ⟨blank, hblank, hlines⟩ := exists_lines_append_feed text
  rw [hlines]
  constructor
  · intro h
    obtain ⟨z, y, rfl, hz, hy⟩ := h.exists_append
    obtain ⟨x, b, rfl, hx, hb⟩ := hz.exists_append
    obtain rfl := (giveRules_of_blank hblank).mp hb
    exact ⟨x, y, by rw [List.append_nil], hx, hy⟩
  · rintro ⟨x, y, rfl, hx, hy⟩
    have hxb := hx.append ((giveRules_of_blank hblank).mpr rfl)
    rw [List.append_nil] at hxb
    exact hxb.append hy

/-- Texts on lines of their own give the rules that each of them gives. -/
theorem giveRules_joined :
    GiveRules (lines (joined texts)) given ↔
      ∃ parts, List.Forall₂ (fun text part => GiveRules (lines text) part) texts parts ∧
        given = parts.flatten := by
  induction texts generalizing given with
  | nil =>
    have hnil : GiveRules [] given ↔ given = [] := giveRules_of_blank nofun
    refine hnil.trans ?_
    simp
  | cons text texts ih =>
    cases texts with
    | nil => simp [joined, List.forall₂_cons_left_iff]
    | cons next texts =>
      rw [joined_cons_cons, giveRules_append_feed]
      constructor
      · rintro ⟨x, y, rfl, hx, hy⟩
        obtain ⟨parts, hparts, rfl⟩ := ih.mp hy
        exact ⟨x :: parts, .cons hx hparts, rfl⟩
      · rintro ⟨parts, hparts, rfl⟩
        obtain ⟨x, others, hx, hothers, rfl⟩ := List.forall₂_cons_left_iff.mp hparts
        exact ⟨x, others.flatten, rfl, hx, ih.mpr ⟨others, hothers, rfl⟩⟩

end Text

namespace RuleEntry

variable {raw : Text} {raws : List Text} {key : Symbol} {r : Word} {given : List (Symbol × Word)}
  {n : Nat}

theorem parse_of_gives (h : raw.Gives key r) :
    RuleEntry.parse n raw = .ok (some ⟨n, key, r⟩) :=
  parse_eq_ok_iff.mpr (.inr ⟨key, r, h, rfl⟩)

theorem parse_of_blank (h : raw.IsBlank) : RuleEntry.parse n raw = .ok none :=
  parse_eq_ok_iff.mpr (.inl ⟨h, rfl⟩)

/-- Lines are read to their end and give rules. -/
theorem parseLines_iff_giveRules :
    (RuleEntry.parseLines n raws).2 = none ∧
        (RuleEntry.parseLines n raws).1.map (fun e => (e.key, e.replacement)) = given ↔
      Text.GiveRules raws given := by
  constructor
  · induction raws generalizing n given with
    | nil =>
      rintro ⟨-, rfl⟩
      exact .nil
    | cons raw raws ih =>
      rw [parseLines]
      cases hraw : RuleEntry.parse n raw with
      | error e =>
        rintro ⟨⟨⟩, -⟩
      | ok found =>
        rintro ⟨hstop, rfl⟩
        have hrest := ih ⟨hstop, rfl⟩
        rcases parse_eq_ok_iff.mp hraw with ⟨hblank, rfl⟩ | ⟨key, r, hgives, rfl⟩
        · exact .blank hblank hrest
        · exact .rule hgives hrest
  · intro h
    induction h generalizing n with
    | nil => exact ⟨rfl, rfl⟩
    | blank hblank _ ih =>
      rw [parseLines, parse_of_blank hblank]
      exact ih
    | rule hgives _ ih =>
      obtain ⟨hstop, hgiven⟩ := ih (n := n + 1)
      rw [parseLines, parse_of_gives hgives]
      exact ⟨hstop, congrArg _ hgiven⟩

end RuleEntry

namespace Rules

variable {rules : Rules}

/-! ### The rules of texts that are joined -/

theorem parse_eq_ok_iff_giveRules {text : Text} :
    (Rules.parse text).result = .ok rules ↔
      ∃ given, Text.GiveRules (Text.lines text) given ∧ rules = ofList given := by
  simp only [parse_eq_ok_iff, ← RuleEntry.parseLines_iff_giveRules (n := 1)]
  constructor
  · rintro ⟨hstop, rfl⟩
    exact ⟨_, ⟨hstop, rfl⟩, rfl⟩
  · rintro ⟨given, ⟨hstop, rfl⟩, rfl⟩
    exact ⟨hstop, rfl⟩

theorem exists_parse_iff {text : Text} :
    (∃ rules, (Rules.parse text).result = .ok rules) ↔
      ∀ line ∈ Text.lines text, line.IsBlank ∨ ∃ key r, line.Gives key r := by
  simp only [parse_eq_ok_iff, exists_and_left, exists_eq, and_true,
    RuleEntry.parseLines_stop_eq_none_iff]

theorem parse_joined_eq_ok_iff {texts : List Text} :
    (Rules.parse (Text.joined texts)).result = .ok rules ↔
      ∃ parts, List.Forall₂ (fun text part => (Rules.parse text).result = .ok part) texts parts ∧
        rules = mergeAll parts := by
  simp only [parse_eq_ok_iff_giveRules, Text.giveRules_joined]
  constructor
  · rintro ⟨_, ⟨given, hgiven, rfl⟩, rfl⟩
    refine ⟨given.map ofList, ?_, ofList_flatten given⟩
    exact List.forall₂_map_right_iff.mpr (hgiven.imp fun text part h => ⟨part, h, rfl⟩)
  · rintro ⟨parts, hparts, rfl⟩
    obtain ⟨given, hgiven, rfl⟩ : ∃ given,
        List.Forall₂ (fun text part => Text.GiveRules (Text.lines text) part) texts given ∧
          parts = given.map ofList := by
      induction hparts with
      | nil => exact ⟨[], .nil, rfl⟩
      | cons hpart _ ih =>
        obtain ⟨part, hpart, rfl⟩ := hpart
        obtain ⟨given, hgiven, rfl⟩ := ih
        exact ⟨part :: given, .cons hpart hgiven, rfl⟩
    exact ⟨given.flatten, ⟨given, hgiven, rfl⟩, (ofList_flatten given).symm⟩

/-- The first of the texts that cannot be read by itself is refused for the fault that it has by
itself, behind the lines of the texts before it. -/
theorem parse_joined_of_error {text : Text} {before after : List Text} {e : ParseError}
    (hbefore : ∀ t ∈ before, ∃ part, (Rules.parse t).result = .ok part)
    (htext : (Rules.parse text).result = .error e) :
    (Rules.parse (Text.joined (before ++ text :: after))).result = .error
      { e with line := e.line + (Text.lines (before.flatMap Text.closed)).length } := by
  rw [parse_eq_error_iff, RuleEntry.parseLines_stop_eq_some_iff] at htext ⊢
  obtain ⟨above, line, below, hlines, habove, hline⟩ := htext
  obtain ⟨column, cause, hfault, rfl⟩ := RuleEntry.parse_eq_error_iff.mp hline
  obtain ⟨later, hjoined⟩ := Text.exists_lines_joined text before after
  refine ⟨Text.lines (before.flatMap Text.closed) ++ above, line, below ++ later, ?_, ?_, ?_⟩
  · rw [hjoined, hlines]
    simp
  · refine List.forall_mem_append.mpr ⟨fun l hl => ?_, habove⟩
    rcases Text.mem_lines_flatMap_closed hl with rfl | ⟨t, ht, hl⟩
    · exact .inl nofun
    · exact exists_parse_iff.mp (hbefore t ht) l hl
  · have hline : ((1 + above.length : Nat) : Int) +
        (Text.lines (before.flatMap Text.closed)).length =
          (1 + (Text.lines (before.flatMap Text.closed) ++ above).length : Nat) := by
      rw [List.length_append]
      omega
    exact RuleEntry.parse_eq_error_iff.mpr
      ⟨column, cause, hfault, congrArg (ParseError.mk · column cause) hline⟩

theorem line_of_unbroken {text : Text} {e : ParseError} (h : text.IsUnbroken)
    (he : (Rules.parse text).result = .error e) : e.line = 1 := by
  obtain ⟨above, line, below, hlines, -, hline⟩ :=
    RuleEntry.parseLines_stop_eq_some_iff.mp (parse_eq_error_iff.mp he)
  obtain ⟨column, cause, -, rfl⟩ := RuleEntry.parse_eq_error_iff.mp hline
  have hlength : (Text.lines text).length ≤ 1 := by
    by_cases hnil : text = []
    · rw [hnil, Text.lines]
      exact Nat.zero_le 1
    · rw [Text.lines_of_unbroken h hnil, List.length_singleton]
  rw [hlines, List.length_append, List.length_cons] at hlength
  show ((1 + above.length : Nat) : Int) = 1
  omega

/-- If not all texts can be read, there is a first one that cannot. -/
theorem exists_first_error {texts : List Text}
    (h : ¬∀ t ∈ texts, ∃ part, (Rules.parse t).result = .ok part) :
    ∃ before text after e, texts = before ++ text :: after ∧
      (∀ t ∈ before, ∃ part, (Rules.parse t).result = .ok part) ∧
      (Rules.parse text).result = .error e := by
  induction texts with
  | nil => exact absurd nofun h
  | cons text texts ih =>
    cases htext : (Rules.parse text).result with
    | error e => exact ⟨[], text, texts, e, rfl, nofun, htext⟩
    | ok part =>
      rw [List.forall_mem_cons, not_and] at h
      obtain ⟨before, text', after, e, rfl, hbefore, he⟩ := ih (h ⟨part, htext⟩)
      refine ⟨text :: before, text', after, e, rfl, ?_, he⟩
      exact List.forall_mem_cons.mpr ⟨⟨part, htext⟩, hbefore⟩

/-- Rules given as a list of texts are read just when each text is read by itself, and are then the
rules of the texts merged from left to right: the symbols stand in the order in which the texts
first give them a replacement, and the last text that does so counts. Otherwise the first text that
cannot be read is refused for the fault that it has by itself, at the same column, on the line that
comes of the lines of the texts before it. If no text holds a line break, this is the place of the
text in the list. -/
theorem listed_rules_are_merged (path : String) (texts : List Text) :
    ∃ whole, (Json.Value.array (texts.map Json.Value.string)).asRules path = .ok whole ∧
      (∀ rules, (Rules.parse whole).result = .ok rules ↔
        ∃ parts, List.Forall₂ (fun text part => (Rules.parse text).result = .ok part) texts parts ∧
          rules = mergeAll parts ∧
          rules.entries.map Prod.fst =
            (parts.flatMap fun part => part.entries.map Prod.fst).eraseDups ∧
          ∀ key, rules.replacement? key = parts.reverse.findSome? (replacement? · key)) ∧
      ∀ e, (Rules.parse whole).result = .error e ↔
        ∃ before text after fault, texts = before ++ text :: after ∧
          (∀ t ∈ before, ∃ part, (Rules.parse t).result = .ok part) ∧
          (Rules.parse text).result = .error fault ∧
          e = { fault with
            line := fault.line + (Text.lines (before.flatMap Text.closed)).length } ∧
          ((∀ t ∈ texts, t.IsUnbroken) → e.line = (before.length + 1 : Nat)) := by
  refine ⟨Text.joined texts, ?_, fun rules => ?_, fun e => ⟨fun he => ?_, ?_⟩⟩
  · rw [Json.Value.asRules, Config.asStrings_map_string]
    rfl
  · rw [parse_joined_eq_ok_iff]
    constructor
    · rintro ⟨parts, hparts, rfl⟩
      exact ⟨parts, hparts, rfl, keys_mergeAll, fun key => replacement_mergeAll⟩
    · rintro ⟨parts, hparts, hrules, -⟩
      exact ⟨parts, hparts, hrules⟩
  · have hnot : ¬∀ t ∈ texts, ∃ part, (Rules.parse t).result = .ok part := fun hall => by
      obtain ⟨parts, hparts⟩ := exists_forall₂_iff.mpr hall
      cases he.symm.trans (parse_joined_eq_ok_iff.mpr ⟨parts, hparts, rfl⟩)
    obtain ⟨before, text, after, fault, rfl, hbefore, hfault⟩ := exists_first_error hnot
    cases he.symm.trans (parse_joined_of_error hbefore hfault)
    refine ⟨before, text, after, fault, rfl, hbefore, hfault, rfl, fun hunbroken => ?_⟩
    rw [List.forall_mem_append, List.forall_mem_cons] at hunbroken
    show fault.line + ((Text.lines (before.flatMap Text.closed)).length : Int) = _
    rw [line_of_unbroken hunbroken.2.1 hfault, Text.length_lines_flatMap_closed hunbroken.1]
    omega
  · rintro ⟨before, text, after, fault, rfl, hbefore, hfault, rfl, -⟩
    exact parse_joined_of_error hbefore hfault

/-- The second text ends in a carriage return, with which the line feed behind it is one break. -/
example : (Rules.parse (Text.joined ["F=>F\n", "", "X=>F\r", "F=>?"])).result =
    .error ⟨5, 4, .unknownToken (.scalar '?')⟩ := rfl

end Rules

end TurtleGrammar
