import TurtleGrammar.Proofs.Grammar.Printing

/-! The faults of rules. A text whose rules cannot be read is refused at its first line that is
neither blank nor a rule, and for the first of five faults that a line can have. The column counts
from the start of the line as it stands in the text, though the reader looks at the line without the
blanks at its ends. -/

namespace TurtleGrammar

/-! ### What can stand in a word -/

/-- A code point that a word can be written with: a blank, a basic letter, a sign or a bracket. -/
def Text.CodePoint.IsPlain (p : CodePoint) : Prop :=
  p.isBlank = true ∨ ∃ c, p = .scalar c ∧ (c.isAlpha = true ∨ c ∈ ['+', '-', '[', ']'])

theorem Text.CodePoint.isLegible_iff {p : CodePoint} : p.isLegible = true ↔ p.IsPlain := by
  rw [isLegible, Bool.or_eq_true, Option.isSome_iff_exists, IsPlain]
  refine or_congr_right ?_
  simp only [Symbol.ofCodePoint?_eq_some_iff, ← Symbol.exists_writes_iff]
  constructor
  · rintro ⟨s, c, rfl, hs⟩
    exact ⟨c, rfl, s, hs⟩
  · rintro ⟨c, rfl, s, hs⟩
    exact ⟨s, c, rfl, hs⟩

namespace Word

variable {text lead trail : Text} {w : Word} {line column : Int}

theorem parse_of_blank (h : text.IsBlank) : Word.parse text line column = .ok [] := by
  rw [parse_eq_ok_iff, WrittenIn, Text.nonblanks_eq_nil_iff.mpr h]
  exact .nil

/-- The reading of a word skips the blanks before it. -/
theorem parse_append_of_blank (h : lead.IsBlank) :
    Word.parse (lead ++ text) line column = Word.parse text line (column + lead.length) := by
  rw [parse_append, parse_of_blank h]
  exact bind_pure (Word.parse text line (column + lead.length))

/-- The reading of a word skips the blanks behind it. -/
theorem parse_append_of_blank_right (h : trail.IsBlank) :
    Word.parse (text ++ trail) line column = Word.parse text line column := by
  rw [parse_append]
  simp only [parse_of_blank h]
  cases Word.parse text line column with
  | error e => rfl
  | ok w => exact congrArg Except.ok (List.append_nil w)

/-- The reading of a word fails at the first code point that no word has. -/
theorem parse_eq_error_iff_strange {e : ParseError} :
    Word.parse text line column = .error e ↔
      ∃ before p after, text = before ++ p :: after ∧ (∀ q ∈ before, q.IsPlain) ∧ ¬p.IsPlain ∧
        e = ⟨line, column + (before.length : Nat), .unknownToken p⟩ := by
  simp only [parse_eq_error_iff, ← Bool.not_eq_true, Text.CodePoint.isLegible_iff]

theorem parse_of_strange {before : Text} {p : Text.CodePoint} (hbefore : ∀ q ∈ before, q.IsPlain)
    (hp : ¬p.IsPlain) (after : Text) (line column : Int) :
    Word.parse (before ++ p :: after) line column =
      .error ⟨line, column + (before.length : Nat), .unknownToken p⟩ :=
  parse_eq_error_iff_strange.mpr ⟨before, p, after, rfl, hbefore, hp, rfl⟩

theorem isPlain_of_parse (h : Word.parse text line column = .ok w) : ∀ p ∈ text, p.IsPlain := by
  intro p hp
  by_cases hblank : p.isBlank = true
  · exact .inl hblank
  · have hmem : p ∈ text.nonblanks := by simpa [Text.nonblanks, hp] using hblank
    exact .inr (exists_writtenIn_iff.mp ⟨w, parse_eq_ok_iff.mp h⟩ p hmem)

theorem exists_parse_of_isPlain (h : ∀ p ∈ text, p.IsPlain) (line column : Int) :
    ∃ w, Word.parse text line column = .ok w := by
  simp only [parse_eq_ok_iff]
  refine exists_writtenIn_iff.mpr fun p hp => ?_
  obtain ⟨hp, hsolid⟩ := List.mem_filter.mp hp
  exact (h p hp).resolve_left (by simpa using hsolid)

end Word

/-! ### Faults -/

/-- A side of a rule is one letter: blanks apart, it has one character, a basic letter. -/
def Text.IsOneLetter (side : Text) : Prop :=
  ∃ c : Char, side.nonblanks = [.scalar c] ∧ c.isAlpha = true

/-- The fault of a line that is neither blank nor a rule, with its column, which counts from one.
The cases exclude one another in the order in which they stand here. -/
inductive Text.RuleFault (line : Text) : (column : Nat) → ParseError.Cause → Prop
  /-- There is no arrow. This shows behind the last code point that is not blank. -/
  | noArrow {before trail : Text} {last : CodePoint} (absent : ¬arrow <:+: line)
      (cut : line = before ++ last :: trail) (solid : last.isBlank = false)
      (blank : trail.IsBlank) :
      RuleFault line (before.length + 2) (.missingArrow (trim line))
  /-- The first code point before the arrow that no word has. -/
  | strangeLeft {before after right : Text} {p : CodePoint}
      (cut : Text.SplitsFirst arrow line (before ++ p :: after) right)
      (plain : ∀ q ∈ before, q.IsPlain) (strange : ¬p.IsPlain) :
      RuleFault line (before.length + 1) (.unknownToken p)
  /-- What stands before the arrow is a word, but not one letter. This shows at the first code point
  of the line that is not blank. -/
  | notLetter {left right lead rest : Text} {first : CodePoint}
      (cut : Text.SplitsFirst arrow line left right) (plain : ∀ q ∈ left, q.IsPlain)
      (other : ¬left.IsOneLetter) (start : line = lead ++ first :: rest) (blank : lead.IsBlank)
      (solid : first.isBlank = false) :
      RuleFault line (lead.length + 1) (.malformedPredecessor (trim left))
  /-- There is nothing behind the arrow. -/
  | noReplacement {left right : Text} (cut : Text.SplitsFirst arrow line left right)
      (letter : left.IsOneLetter) (blank : right.IsBlank) :
      RuleFault line (left.length + arrow.length + 1) (.missingReplacement (trim line))
  /-- The first code point behind the arrow that no word has. -/
  | strangeRight {left before after : Text} {p : CodePoint}
      (cut : Text.SplitsFirst arrow line left (before ++ p :: after)) (letter : left.IsOneLetter)
      (plain : ∀ q ∈ before, q.IsPlain) (strange : ¬p.IsPlain) :
      RuleFault line (left.length + arrow.length + before.length + 1) (.unknownToken p)

/-! ### The reading of a line that is not blank, by its parts as they stand there -/

namespace RuleEntry

variable {raw left right : Text} {n : Nat} {e : ParseError}

theorem parse_of_no_arrow (hraw : ¬raw.IsBlank) (h : ¬arrow <:+: raw) :
    RuleEntry.parse n raw =
      .error ⟨n, ((Text.trimEnd raw).length + 1 : Nat), .missingArrow (Text.trim raw)⟩ := by
  have hempty : ¬(Text.trim raw).isEmpty = true := by
    rwa [List.isEmpty_iff, Text.trim_eq_nil_iff]
  have hnone : Text.splitFirst arrow (Text.trim raw) = none := by
    obtain ⟨lead, trail, hlead, htrail, hsplit⟩ :=
      Text.splitFirst_trim (show arrow ≠ [] by decide) (by decide) raw
    cases hrule : Text.splitFirst arrow (Text.trim raw) with
    | none => rfl
    | some sides =>
      rw [hrule, Option.map_some, Text.splitFirst_eq_some_iff] at hsplit
      exact absurd ⟨_, _, hsplit.eq.symm⟩ h
  rw [RuleEntry.parse, if_neg hempty, Text.length_trimEnd hraw]
  simp only [hnone]

theorem parse_of_splits (h : Text.SplitsFirst arrow raw left right) :
    RuleEntry.parse n raw = Word.parse left n 1 >>= fun
      | [key] =>
        if !key.isLetter then
          .error ⟨n, (Text.indent raw + 1 : Nat), .malformedPredecessor (Text.trim left)⟩
        else if (Text.trim right).isEmpty then
          .error ⟨n, (left.length + arrow.length + 1 : Nat), .missingReplacement (Text.trim raw)⟩
        else
          Word.parse right n (left.length + arrow.length + 1 : Nat) >>= fun w =>
            .ok (some ⟨n, key, w⟩)
      | _ => .error ⟨n, (Text.indent raw + 1 : Nat), .malformedPredecessor (Text.trim left)⟩ := by
  obtain ⟨lead, trail, htext, hlead, htrail, hindent⟩ := Text.exists_trim_indent raw
  have hsplit := Text.splitFirst_eq_some_iff.mpr h
  rw [htext, Text.splitFirst_between (by decide) (by decide) hlead htrail] at hsplit
  obtain ⟨⟨left', right'⟩, hrule, hparts⟩ := Option.map_eq_some_iff.mp hsplit
  cases hparts
  have hempty : ¬(Text.trim raw).isEmpty = true := by
    rw [List.isEmpty_iff, Text.trim_eq_nil_iff]
    exact h.not_isBlank
  have hleft : Word.parse left' n ((Text.indent raw + 1 : Nat) : Int) =
      Word.parse (lead ++ left') n 1 := by
    rw [Word.parse_append_of_blank hlead, hindent]
    congr 1
    omega
  have hcolumn : Text.indent raw + left'.length + arrow.length + 1 =
      (lead ++ left').length + arrow.length + 1 := by
    rw [List.length_append, hindent]
  have hright (column : Int) :
      Word.parse (right' ++ trail) n column = Word.parse right' n column :=
    Word.parse_append_of_blank_right htrail
  have hsolid : (Text.trim (right' ++ trail)).isEmpty = (Text.trim right').isEmpty := by
    rw [Bool.eq_iff_iff]
    simp only [List.isEmpty_iff, Text.trim_eq_nil_iff, Text.IsBlank, List.forall_mem_append]
    exact and_iff_left htrail
  rw [RuleEntry.parse, if_neg hempty]
  simp only [hrule, hleft, hcolumn, Text.trim_append_of_blank hlead, hright, hsolid]
  rfl

/-! ### The fault of a line -/

theorem parse_of_letter (h : Text.SplitsFirst arrow raw left right) (hletter : left.IsOneLetter) :
    ∃ key, RuleEntry.parse n raw =
      if right.IsBlank then
        .error ⟨n, (left.length + arrow.length + 1 : Nat), .missingReplacement (Text.trim raw)⟩
      else
        Word.parse right n (left.length + arrow.length + 1 : Nat) >>= fun w =>
          .ok (some ⟨n, key, w⟩) := by
  obtain ⟨key, hkey, hleft⟩ := Word.exists_letter_writtenIn_iff.mpr hletter
  have hparse : Word.parse left n 1 = .ok [key] := Word.parse_eq_ok_iff.mpr hleft
  refine ⟨key, ?_⟩
  rw [parse_of_splits h, hparse]
  simp [bind, Except.bind, hkey, List.isEmpty_iff, Text.trim_eq_nil_iff]

theorem parse_of_no_letter (h : Text.SplitsFirst arrow raw left right)
    (hletter : ¬left.IsOneLetter) :
    RuleEntry.parse n raw =
      Word.parse left n 1 >>= fun _ =>
        .error ⟨n, (Text.indent raw + 1 : Nat), .malformedPredecessor (Text.trim left)⟩ := by
  rw [parse_of_splits h]
  cases hparse : Word.parse left n 1 with
  | error e => rfl
  | ok w =>
    simp only [bind, Except.bind]
    split
    next key =>
      have hkey : ¬key.isLetter = true := fun hkey =>
        hletter (Word.exists_letter_writtenIn_iff.mp ⟨key, hkey, Word.parse_eq_ok_iff.mp hparse⟩)
      rw [if_pos (by simpa using hkey)]
    next => rfl

/-- The reading of a line fails for the fault that the line has. -/
theorem exists_fault_of_parse (h : RuleEntry.parse n raw = .error e) :
    ∃ column cause, Text.RuleFault raw column cause ∧ e = ⟨n, (column : Nat), cause⟩ := by
  have hraw : ¬raw.IsBlank := by
    intro hblank
    cases h.symm.trans (parse_eq_ok_iff.mpr (.inl ⟨hblank, rfl⟩))
  cases hcut : Text.splitFirst arrow raw with
  | none =>
    have harrow := Text.splitFirst_eq_none_iff.mp hcut
    rw [parse_of_no_arrow hraw harrow] at h
    cases h
    obtain ⟨before, last, trail, hend, hlast, htrail⟩ := Text.exists_end hraw
    refine ⟨_, _, .noArrow harrow hend hlast htrail, ?_⟩
    rw [Text.trimEnd_of_end htrail hlast hend, List.length_append, List.length_singleton]
  | some sides =>
    obtain ⟨left, right⟩ := sides
    rw [Text.splitFirst_eq_some_iff] at hcut
    by_cases hletter : Text.IsOneLetter left
    · obtain ⟨key, hparse⟩ := parse_of_letter (n := n) hcut hletter
      rw [hparse] at h
      split at h
      next hblank =>
        cases h
        exact ⟨_, _, .noReplacement hcut hletter hblank, rfl⟩
      next =>
        rcases bind_eq_error.mp h with hright | ⟨w, -, hw⟩
        · obtain ⟨before, p, after, rfl, hbefore, hp, rfl⟩ :=
            Word.parse_eq_error_iff_strange.mp hright
          refine ⟨_, _, .strangeRight hcut hletter hbefore hp, ?_⟩
          congr 1
          omega
        · cases hw
    · rw [parse_of_no_letter hcut hletter] at h
      rcases bind_eq_error.mp h with hleft | ⟨w, hw, h⟩
      · obtain ⟨before, p, after, rfl, hbefore, hp, rfl⟩ :=
          Word.parse_eq_error_iff_strange.mp hleft
        refine ⟨_, _, .strangeLeft hcut hbefore hp, ?_⟩
        congr 1
        omega
      · cases h
        obtain ⟨lead, first, rest, hstart, hlead, hfirst⟩ := Text.exists_start hraw
        refine ⟨_, _, .notLetter hcut (Word.isPlain_of_parse hw) hletter hstart hlead hfirst, ?_⟩
        rw [Text.indent_of_start hlead hfirst hstart]

theorem parse_of_fault {column : Nat} {cause : ParseError.Cause}
    (h : Text.RuleFault raw column cause) :
    RuleEntry.parse n raw = .error ⟨n, (column : Nat), cause⟩ := by
  cases h with
  | @noArrow before trail last absent cut solid blank =>
    have hraw : ¬raw.IsBlank := Text.not_isBlank_of_mem (by simp [cut]) solid
    rw [parse_of_no_arrow hraw absent, Text.trimEnd_of_end blank solid cut, List.length_append,
      List.length_singleton]
  | @strangeLeft before after right p cut plain strange =>
    have hleft := Word.parse_of_strange plain strange after n 1
    have hletter : ¬Text.IsOneLetter (before ++ p :: after) := by
      intro hletter
      obtain ⟨key, -, hkey⟩ := Word.exists_letter_writtenIn_iff.mpr hletter
      cases hleft.symm.trans (Word.parse_eq_ok_iff.mpr hkey)
    rw [parse_of_no_letter cut hletter, hleft]
    show Except.error _ = _
    congr 2
    omega
  | @notLetter left right lead rest first cut plain other start blank solid =>
    obtain ⟨w, hw⟩ := Word.exists_parse_of_isPlain plain n 1
    rw [parse_of_no_letter cut other, hw, Text.indent_of_start blank solid start]
    rfl
  | @noReplacement left right cut letter blank =>
    obtain ⟨key, hparse⟩ := parse_of_letter (n := n) cut letter
    rw [hparse, if_pos blank]
  | @strangeRight left before after p cut letter plain strange =>
    obtain ⟨key, hparse⟩ := parse_of_letter (n := n) cut letter
    have hblank : ¬Text.IsBlank (before ++ p :: after) := fun h => strange (.inl (h p (by simp)))
    rw [hparse, if_neg hblank, Word.parse_of_strange plain strange]
    show Except.error _ = _
    congr 2
    omega

/-- A line is refused for the fault that it has, where the fault shows. -/
theorem parse_eq_error_iff :
    RuleEntry.parse n raw = .error e ↔
      ∃ column cause, Text.RuleFault raw column cause ∧ e = ⟨n, (column : Nat), cause⟩ := by
  refine ⟨exists_fault_of_parse, ?_⟩
  rintro ⟨column, cause, hfault, rfl⟩
  exact parse_of_fault hfault

/-! ### The first line that has a fault -/

theorem exists_parse_iff :
    (∃ found, RuleEntry.parse n raw = .ok found) ↔
      Text.IsBlank raw ∨ ∃ key r, Text.Gives raw key r := by
  simp only [parse_eq_ok_iff]
  constructor
  · rintro ⟨found, ⟨hblank, -⟩ | ⟨key, r, hgives, -⟩⟩
    · exact .inl hblank
    · exact .inr ⟨key, r, hgives⟩
  · rintro (hblank | ⟨key, r, hgives⟩)
    · exact ⟨none, .inl ⟨hblank, rfl⟩⟩
    · exact ⟨some ⟨n, key, r⟩, .inr ⟨key, r, hgives, rfl⟩⟩

/-- The lines are read up to the first that is neither blank nor gives a rule. -/
theorem parseLines_stop_eq_some_iff {raws : List Text} :
    (RuleEntry.parseLines n raws).2 = some e ↔
      ∃ before raw after, raws = before ++ raw :: after ∧
        (∀ line ∈ before, Text.IsBlank line ∨ ∃ key r, Text.Gives line key r) ∧
        RuleEntry.parse (n + before.length) raw = .error e := by
  induction raws generalizing n with
  | nil => simp [parseLines]
  | cons first rest ih =>
    rw [parseLines]
    cases hfirst : RuleEntry.parse n first with
    | error e' =>
      constructor
      · rintro ⟨⟩
        exact ⟨[], first, rest, rfl, by simp, hfirst⟩
      · -- the first line has a fault, so no line behind it is the one that is refused
        rintro ⟨_ | ⟨line, before⟩, raw, after, hraws, hbefore, hraw⟩
        · cases hraws
          exact congrArg some (Except.error.inj (hfirst.symm.trans hraw))
        · cases hraws
          obtain ⟨found, hfound⟩ :=
            (exists_parse_iff (n := n)).mpr (List.forall_mem_cons.mp hbefore).1
          cases hfirst.symm.trans hfound
    | ok found =>
      refine ih.trans ?_
      constructor
      · rintro ⟨before, raw, after, rfl, hbefore, hraw⟩
        refine ⟨first :: before, raw, after, rfl, ?_, ?_⟩
        · exact List.forall_mem_cons.mpr ⟨exists_parse_iff.mp ⟨found, hfirst⟩, hbefore⟩
        · rwa [List.length_cons, Nat.add_comm before.length, ← Nat.add_assoc]
      · rintro ⟨_ | ⟨line, before⟩, raw, after, hraws, hbefore, hraw⟩
        · cases hraws
          cases hfirst.symm.trans hraw
        · cases hraws
          refine ⟨before, raw, after, rfl, (List.forall_mem_cons.mp hbefore).2, ?_⟩
          rwa [List.length_cons, Nat.add_comm before.length, ← Nat.add_assoc] at hraw

end RuleEntry

namespace Rules

theorem parse_eq_error_iff {text : Text} {e : ParseError} :
    (Rules.parse text).result = .error e ↔
      (RuleEntry.parseLines 1 (Text.lines text)).2 = some e := by
  simp only [Rules.parse]
  split
  next e' he => simp [he]
  next he => simp [he]

/-- Rules are refused exactly for the first line that is neither blank nor a rule: with the number
of this line, counted from one, and with the cause and the column of its fault. -/
theorem rules_refused_at_first_fault (text : Text) (e : ParseError) :
    (Rules.parse text).result = .error e ↔
      ∃ before line after column cause, Text.lines text = before ++ line :: after ∧
        (∀ l ∈ before, l.IsBlank ∨ ∃ left right, Text.RuleShape l left right) ∧
        Text.RuleFault line column cause ∧
        e = ⟨(before.length + 1 : Nat), (column : Nat), cause⟩ := by
  simp only [parse_eq_error_iff, RuleEntry.parseLines_stop_eq_some_iff,
    RuleEntry.parse_eq_error_iff, Text.exists_gives_iff, Nat.add_comm 1]
  constructor
  · rintro ⟨before, line, after, hlines, hbefore, column, cause, hfault, he⟩
    exact ⟨before, line, after, column, cause, hlines, hbefore, hfault, he⟩
  · rintro ⟨before, line, after, column, cause, hlines, hbefore, hfault, he⟩
    exact ⟨before, line, after, hlines, hbefore, column, cause, hfault, he⟩

/-- The blanks at the ends of a line count for its columns. -/
example : (Rules.parse (Text.ofString "F=>F\r\n\t A => F ? ")).result =
    .error ⟨2, 10, .unknownToken (.scalar '?')⟩ := rfl

end Rules

end TurtleGrammar
