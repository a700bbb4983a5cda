import TurtleGrammar.Proofs.Grammar.Printing
import TurtleGrammar.Proofs.Text.Lines

/-! Rules written and read back. Each rule is written on a line of its own, and what is read from
these lines are the same rules in the same order, as long as every rule replaces a letter that a
grammar can write by a word that it can write and that is not empty. Rules that are read are always
of this kind. -/

namespace TurtleGrammar

/-! ### One rule on its line -/

section Entry

variable {key s : Symbol} {r : Word}

theorem ofChars_entryChars :
    Text.ofChars (Rules.entryChars key r) =
      [.scalar key.char, .scalar ' '] ++ (arrow ++ .scalar ' ' :: Text.ofString r.text) := by
  rw [Word.ofString_text, Rules.entryChars, Word.chars, Text.ofChars, List.map_append, List.map_map]
  rfl

theorem Symbol.isUnbroken_char (s : Symbol) : Text.isLineBreak s.char = false := by
  refine Bool.eq_false_iff.mpr fun h => ?_
  cases (Text.isBlank_of_isLineBreak h).symm.trans s.isBlank_char

theorem isUnbroken_entryChars : (Text.ofChars (Rules.entryChars key r)).IsUnbroken := by
  intro c hc
  rw [Text.ofChars, List.mem_map] at hc
  obtain ⟨c, hc, rfl⟩ := hc
  rw [Rules.entryChars, List.mem_append, List.mem_cons, Word.chars, List.mem_map] at hc
  rcases hc with (rfl | hc) | ⟨s, -, rfl⟩
  · exact key.isUnbroken_char
  · have hmark : " => ".toList.all (Text.isLineBreak · == false) = true := by decide
    exact beq_iff_eq.mp (List.all_eq_true.mp hmark c hc)
  · exact s.isUnbroken_char

theorem splitFirst_arrow (right : Text) :
    Text.splitFirst arrow (arrow ++ right) = some ([], right) := rfl

theorem Symbol.char_not_mem_arrow (s : Symbol) : Text.CodePoint.scalar s.char ∉ arrow := by
  cases s with
  | forward l | node l =>
    intro h
    have hmark : ['=', '>'].all (!Text.isLetter ·) = true := by decide +kernel
    have hc : l.char ∈ ['=', '>'] := by
      simpa [arrow, Text.ofString, Text.ofChars, Symbol.char] using h
    simpa [l.isLetter] using List.all_eq_true.mp hmark l.char hc
  | _ => decide

theorem gives_entryChars (hkey : key.isLetter = true) (hwritable : key.isWritable = true)
    (hr : r ≠ []) (hreplacement : ∀ s ∈ r, s.isWritable = true) :
    Text.Gives (Text.ofChars (Rules.entryChars key r)) key r := by
  -- the arrow that was written is the first on the line: nothing before it is a part of an arrow
  have hlead : ∀ c ∈ [Text.CodePoint.scalar key.char, .scalar ' '], c ∉ arrow := by
    rw [List.forall_mem_cons, List.forall_mem_singleton]
    exact ⟨key.char_not_mem_arrow, by decide⟩
  have hblank : Text.IsBlank [.scalar ' '] := by decide
  refine ⟨[.scalar key.char, .scalar ' '], .scalar ' ' :: Text.ofString r.text, ?_, hkey, ?_, ?_,
    hr⟩
  · rw [← Text.splitFirst_eq_some_iff, ofChars_entryChars,
      Text.splitFirst_append_left (by decide) hlead, splitFirst_arrow]
    rfl
  · have hself := Word.writtenIn_text_self_iff (w := [key])
    rw [Word.ofString_text, List.forall_mem_singleton] at hself
    exact (Word.writtenIn_of_blank_right hblank).mpr (hself.mpr hwritable)
  · exact (Word.writtenIn_of_blank_left hblank).mpr (Word.writtenIn_text_self_iff.mpr hreplacement)

theorem Word.isWritable_of_writtenIn {text : Text} {w : Word} (h : w.WrittenIn text) :
    ∀ s ∈ w, s.isWritable = true := by
  intro s hs
  have hparse : Word.parse text 1 1 = .ok w := Word.parse_eq_ok_iff.mpr h
  exact Symbol.isToken_iff.mp (Word.isToken_of_parse hparse s hs)

end Entry

/-! ### All rules -/

theorem RuleEntry.parseLines_of_gives {raws : List Text} {entries : List (Symbol × Word)}
    (h : List.Forall₂ (fun raw entry => Text.Gives raw entry.1 entry.2) raws entries) (n : Nat) :
    (RuleEntry.parseLines n raws).2 = none ∧
      (RuleEntry.parseLines n raws).1.map (fun e => (e.key, e.replacement)) = entries := by
  induction h generalizing n with
  | nil => exact ⟨rfl, rfl⟩
  | @cons raw entry raws entries hraw _ ih =>
    obtain ⟨hstop, hentries⟩ := ih (n + 1)
    have hparse : RuleEntry.parse n raw = .ok (some ⟨n, entry.1, entry.2⟩) :=
      RuleEntry.parse_eq_ok_iff.mpr (.inr ⟨entry.1, entry.2, hraw, rfl⟩)
    rw [RuleEntry.parseLines, hparse]
    refine ⟨hstop, ?_⟩
    rw [List.map_append, hentries]
    rfl

namespace Rules

variable {rules a b : Rules} {key : Symbol} {r : Word} {entries : List (Symbol × Word)}

/-- Each rule replaces a letter that a grammar can write by a word that it can write and that is not
empty. -/
def IsWritable (rules : Rules) : Prop :=
  ∀ entry ∈ rules.entries, entry.1.isLetter = true ∧ entry.1.isWritable = true ∧ entry.2 ≠ [] ∧
    ∀ s ∈ entry.2, s.isWritable = true

theorem eq_of_entries (h : a.entries = b.entries) : a = b := by
  cases a
  cases b
  cases h
  rfl

theorem put_of_not_mem (h : key ∉ entries.map Prod.fst) :
    put key r entries = entries ++ [(key, r)] := by
  induction entries with
  | nil => rfl
  | cons entry entries ih =>
    rw [List.map_cons, List.mem_cons, not_or] at h
    rw [put, if_neg (Ne.symm h.1), ih h.2, List.cons_append]

theorem entries_ofList (h : (entries.map Prod.fst).Nodup) : (ofList entries).entries = entries := by
  induction entries using List.reverseRecOn with
  | nil => rfl
  | append_singleton entries entry ih =>
    rw [List.map_append, List.nodup_append] at h
    obtain ⟨hentries, -, hnew⟩ := h
    rw [ofList_concat]
    show put entry.1 entry.2 (ofList entries).entries = _
    rw [ih hentries]
    exact put_of_not_mem fun hmem => hnew _ hmem entry.1 (by simp) rfl

theorem ofString_text (rules : Rules) :
    Text.ofString rules.text = [.scalar '\n'].intercalate (rules.lines.map Text.ofChars) := by
  rw [text, Text.ofString, String.toList_ofList, Text.ofChars, Text.map_intercalate]
  rfl

theorem lines_text (rules : Rules) :
    Text.lines (Text.ofString rules.text) = rules.lines.map Text.ofChars := by
  rw [ofString_text]
  refine Text.lines_intercalate fun piece hpiece => ?_
  obtain ⟨line, hline, rfl⟩ := List.mem_map.mp hpiece
  obtain ⟨entry, -, rfl⟩ := List.mem_map.mp hline
  refine ⟨isUnbroken_entryChars, ?_⟩
  rw [ofChars_entryChars]
  exact List.cons_ne_nil _ _

/-- Rules that are read replace letters by words that are not empty, all of which a grammar can
write. -/
theorem isWritable_of_parse {text : Text} (h : (Rules.parse text).result = .ok rules) :
    rules.IsWritable := by
  obtain ⟨hstop, rfl⟩ := parse_eq_ok_iff.mp h
  intro entry hentry
  obtain ⟨found, hfound, rfl⟩ := List.mem_map.mp (mem_ofList hentry)
  obtain ⟨line, left, right, -, hletter, hleft, hright, hr⟩ :=
    exists_forall₂_iff.mp ⟨_, (RuleEntry.gives_of_parseLines hstop).flip⟩ found hfound
  refine ⟨hletter, ?_, hr, Word.isWritable_of_writtenIn hright⟩
  exact Word.isWritable_of_writtenIn hleft _ List.mem_cons_self

/-- Rules are read back as they are, and in their order, when a grammar can write them. -/
theorem parse_text_iff :
    (Rules.parse (Text.ofString rules.text)).result = .ok rules ↔ rules.IsWritable := by
  refine ⟨isWritable_of_parse, fun h => ?_⟩
  have hgives : List.Forall₂ (fun raw entry => Text.Gives raw entry.1 entry.2)
      (rules.lines.map Text.ofChars) rules.entries := by
    rw [lines, List.map_map, List.forall₂_map_left_iff, List.forall₂_same]
    intro entry hentry
    obtain ⟨hletter, hkey, hr, hreplacement⟩ := h entry hentry
    exact gives_entryChars hletter hkey hr hreplacement
  obtain ⟨hstop, hentries⟩ := RuleEntry.parseLines_of_gives hgives 1
  rw [parse_eq_ok_iff, lines_text, hentries]
  exact ⟨hstop, (eq_of_entries (entries_ofList rules.nodup)).symm⟩

end Rules

end TurtleGrammar
