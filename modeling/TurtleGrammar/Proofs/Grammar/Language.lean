import Mathlib.Data.List.Forall2
import Mathlib.Data.List.Induction
import TurtleGrammar.Proofs.Grammar.Reading
import TurtleGrammar.Proofs.Text.Cutting

/-! The language of rules: which texts give rules, and which rules they give. The characters, words
and lines are described here by themselves, and the readers are shown to follow the descriptions. -/

namespace TurtleGrammar

/-! ### Lists side by side -/

theorem mapM_eq_ok_iff {ε α β : Type} {f : α → Except ε β} {l : List α} {ys : List β} :
    l.mapM f = .ok ys ↔ List.Forall₂ (fun x y => f x = .ok y) l ys := by
  induction l generalizing ys with
  | nil =>
    rw [List.forall₂_nil_left_iff]
    exact ⟨fun h => (Except.ok.inj h).symm, fun h => h ▸ rfl⟩
  | cons x l ih =>
    rw [List.mapM_cons, List.forall₂_cons_left_iff, bind_eq_ok]
    constructor
    · rintro ⟨y, hy, h⟩
      obtain ⟨ys', hys, h⟩ := bind_eq_ok.mp h
      cases h
      exact ⟨y, ys', hy, ih.mp hys, rfl⟩
    · rintro ⟨y, ys', hy, hys, rfl⟩
      exact ⟨y, hy, bind_eq_ok.mpr ⟨ys', ih.mpr hys, rfl⟩⟩

theorem exists_forall₂_iff {α β : Type} {R : α → β → Prop} {l : List α} :
    (∃ ys, List.Forall₂ R l ys) ↔ ∀ x ∈ l, ∃ y, R x y := by
  induction l with
  | nil => simp
  | cons x l ih =>
    rw [List.forall_mem_cons, ← ih]
    constructor
    · rintro ⟨_, h⟩
      obtain ⟨y, ys, hy, hys, -⟩ := List.forall₂_cons_left_iff.mp h
      exact ⟨⟨y, hy⟩, ys, hys⟩
    · rintro ⟨⟨y, hy⟩, ys, hys⟩
      exact ⟨y :: ys, .cons hy hys⟩

/-! ### Characters -/

/-- The symbol that a character stands for in a grammar. -/
inductive Symbol.Writes : Char → Symbol → Prop
  | forward (l : Letter) (h : l.char.isUpper = true) : Writes l.char (.forward l)
  | skip : Writes 'f' .skip
  | node (l : Letter) (h : l.char.isLower = true) (hf : l.char ≠ 'f') : Writes l.char (.node l)
  | turnLeft : Writes '+' .turnLeft
  | turnRight : Writes '-' .turnRight
  | push : Writes '[' .push
  | pop : Writes ']' .pop

namespace Symbol

variable {c : Char} {s : Symbol} {p : Text.CodePoint}

theorem writes_of_isAlpha (h : c.isAlpha = true) : ∃ s, Writes c s ∧ s.isLetter = true := by
  by_cases hf : c = 'f'
  · subst hf
    exact ⟨.skip, .skip, rfl⟩
  rcases (Bool.or_eq_true ..).mp h with hc | hc
  · exact ⟨_, .forward (.ofAlpha c h) hc, rfl⟩
  · exact ⟨_, .node (.ofAlpha c h) hc hf, rfl⟩

theorem Writes.isAlpha (h : Writes c s) (hs : s.isLetter = true) : c.isAlpha = true := by
  cases h with
  | forward l h => exact Letter.isAlpha_of_isUpper h
  | node l h => exact Letter.isAlpha_of_isLower h
  | skip => rfl
  | _ => cases hs

/-- The characters of symbols are the basic letters, the signs and the brackets. -/
theorem exists_writes_iff : (∃ s, Writes c s) ↔ c.isAlpha = true ∨ c ∈ ['+', '-', '[', ']'] := by
  constructor
  · rintro ⟨s, h⟩
    cases h with
    | forward l h => exact .inl (Letter.isAlpha_of_isUpper h)
    | node l h => exact .inl (Letter.isAlpha_of_isLower h)
    | skip => exact .inl rfl
    | _ => exact .inr (by decide)
  · rintro (h | h)
    · obtain ⟨s, hs, -⟩ := writes_of_isAlpha h
      exact ⟨s, hs⟩
    · simp only [List.mem_cons, List.not_mem_nil, or_false] at h
      rcases h with rfl | rfl | rfl | rfl
      · exact ⟨_, .turnLeft⟩
      · exact ⟨_, .turnRight⟩
      · exact ⟨_, .push⟩
      · exact ⟨_, .pop⟩

theorem ofChar?_of_isAlpha (h : c.isAlpha = true) (hf : c ≠ 'f') :
    ofChar? c =
      if hu : c.isUpper = true then some (.forward (.ofAlpha c (Letter.isAlpha_of_isUpper hu)))
      else if hl : c.isLower = true then some (.node (.ofAlpha c (Letter.isAlpha_of_isLower hl)))
      else none := by
  have hsign : ∀ d : Char, d.isAlpha = false → c ≠ d := by
    rintro d hd rfl
    cases h.symm.trans hd
  rw [ofChar?, if_neg (hsign '+' rfl), if_neg (hsign '-' rfl), if_neg (hsign '[' rfl),
    if_neg (hsign ']' rfl), if_neg hf]

theorem ofChar?_eq_some_iff : ofChar? c = some s ↔ Writes c s := by
  constructor
  · intro h
    simp only [ofChar?] at h
    repeat' split at h
    all_goals cases h
    · next h => exact h ▸ .turnLeft
    · next h => exact h ▸ .turnRight
    · next h => exact h ▸ .push
    · next h => exact h ▸ .pop
    · next h => exact h ▸ .skip
    · next h => exact .forward (.ofAlpha c (Letter.isAlpha_of_isUpper h)) h
    · next hf _ h => exact .node (.ofAlpha c (Letter.isAlpha_of_isLower h)) h hf
  · intro h
    cases h with
    | forward l h =>
      have hf : l.char ≠ 'f' := by
        intro hf
        rw [hf] at h
        cases h
      rw [ofChar?_of_isAlpha (Letter.isAlpha_of_isUpper h) hf, dif_pos h]
      rfl
    | node l h hf =>
      have hu : ¬l.char.isUpper = true := by
        intro hu
        have hlow : 'a'.val ≤ l.char.val := of_decide_eq_true (Bool.and_eq_true_iff.mp h).1
        have hhigh : l.char.val ≤ 'Z'.val := (of_decide_eq_true hu).2
        exact absurd (UInt32.le_trans hlow hhigh) (by decide)
      rw [ofChar?_of_isAlpha (Letter.isAlpha_of_isLower h) hf, dif_neg hu, dif_pos h]
      rfl
    | _ => rfl

theorem ofCodePoint?_eq_some_iff :
    ofCodePoint? p = some s ↔ ∃ c, p = .scalar c ∧ Writes c s := by
  cases p with
  | scalar c =>
    rw [ofCodePoint?, ofChar?_eq_some_iff]
    constructor
    · intro h
      exact ⟨c, rfl, h⟩
    · rintro ⟨_, ⟨⟩, h⟩
      exact h
  | surrogate u =>
    constructor
    · intro h
      cases h
    · rintro ⟨_, h, -⟩
      cases h

end Symbol

/-! ### Words -/

namespace Word

variable {text : Text} {w : Word} {line column : Int}

/-- A text writes a word: its code points that are not blank are the characters of the symbols. -/
def WrittenIn (w : Word) (text : Text) : Prop :=
  List.Forall₂ (fun p s => ∃ c, p = .scalar c ∧ Symbol.Writes c s) text.nonblanks w

theorem map_fst_tokens (text : Text) : (tokens text).map Prod.fst = text.nonblanks := by
  have h := List.filter_map (f := Prod.fst) (p := fun c : Text.CodePoint => !c.isBlank)
    (l := text.zipIdx)
  rw [List.zipIdx_map_fst] at h
  exact h.symm

theorem parse_eq_ok_iff : Word.parse text line column = .ok w ↔ w.WrittenIn text := by
  rw [parse, mapM_eq_ok_iff, WrittenIn, ← map_fst_tokens, List.forall₂_map_left_iff]
  constructor
  · intro h
    refine h.imp fun t s ht => Symbol.ofCodePoint?_eq_some_iff.mp ?_
    dsimp only at ht
    split at ht
    next s' hs' =>
      cases ht
      exact hs'
    next => cases ht
  · intro h
    refine h.imp fun t s ht => ?_
    simp only [Symbol.ofCodePoint?_eq_some_iff.mpr ht]

theorem exists_writtenIn_iff :
    (∃ w : Word, w.WrittenIn text) ↔
      ∀ p ∈ text.nonblanks, ∃ c : Char, p = .scalar c ∧
        (c.isAlpha = true ∨ c ∈ ['+', '-', '[', ']']) := by
  simp only [WrittenIn, exists_forall₂_iff]
  refine forall₂_congr fun p _ => ?_
  rw [exists_comm]
  simp only [exists_and_left, Symbol.exists_writes_iff]

theorem eq_nil_iff_of_writtenIn (h : w.WrittenIn text) : w = [] ↔ text.nonblanks = [] := by
  rw [← List.length_eq_zero_iff, ← List.length_eq_zero_iff, List.Forall₂.length_eq h]

/-- A text writes a letter alone when it has one character, which is a basic letter. -/
theorem exists_letter_writtenIn_iff :
    (∃ key : Symbol, key.isLetter = true ∧ Word.WrittenIn [key] text) ↔
      ∃ c : Char, text.nonblanks = [.scalar c] ∧ c.isAlpha = true := by
  constructor
  · rintro ⟨key, hkey, h⟩
    obtain ⟨p, rest, ⟨c, rfl, hc⟩, hrest, htext⟩ := List.forall₂_cons_right_iff.mp h
    cases hrest
    exact ⟨c, htext, hc.isAlpha hkey⟩
  · rintro ⟨c, htext, hc⟩
    obtain ⟨key, hwrites, hkey⟩ := Symbol.writes_of_isAlpha hc
    refine ⟨key, hkey, ?_⟩
    rw [WrittenIn, htext]
    exact .cons ⟨c, rfl, hwrites⟩ .nil

end Word

/-! ### Lines -/

section Lines

variable {line raw side lead trail : Text} {raws : List Text} {key : Symbol} {r w : Word}
  {n : Nat}

/-- A line gives a rule: what stands before its first arrow writes one letter, and what stands after
it writes a word that is not empty. -/
def Text.Gives (line : Text) (key : Symbol) (r : Word) : Prop :=
  ∃ left right, SplitsFirst arrow line left right ∧ key.isLetter = true ∧
    Word.WrittenIn [key] left ∧ r.WrittenIn right ∧ r ≠ []

/-- A line has the shape of a rule: cut at its first arrow it has, blanks apart, one basic letter on
the left, and on the right at least one character and only basic letters, signs and brackets. -/
structure Text.RuleShape (line left right : Text) : Prop where
  cut : SplitsFirst arrow line left right
  letter : ∃ c : Char, left.nonblanks = [.scalar c] ∧ c.isAlpha = true
  solid : right.nonblanks ≠ []
  tokens : ∀ p ∈ right.nonblanks, ∃ c : Char, p = .scalar c ∧
    (c.isAlpha = true ∨ c ∈ ['+', '-', '[', ']'])

theorem Word.writtenIn_of_blank_left (h : lead.IsBlank) :
    w.WrittenIn (lead ++ side) ↔ w.WrittenIn side := by
  rw [WrittenIn, Text.nonblanks_append, Text.nonblanks_eq_nil_iff.mpr h, List.nil_append, WrittenIn]

theorem Word.writtenIn_of_blank_right (h : trail.IsBlank) :
    w.WrittenIn (side ++ trail) ↔ w.WrittenIn side := by
  rw [WrittenIn, Text.nonblanks_append, Text.nonblanks_eq_nil_iff.mpr h, List.append_nil, WrittenIn]

theorem Text.SplitsFirst.not_isBlank {left right : Text} (h : SplitsFirst arrow line left right) :
    ¬line.IsBlank := by
  refine not_isBlank_of_mem (c := .scalar '=') ?_ rfl
  rw [h.eq]
  simp [arrow, ofString, ofChars]

theorem Text.Gives.not_isBlank (h : line.Gives key r) : ¬line.IsBlank := by
  obtain ⟨left, right, hsplit, -⟩ := h
  exact hsplit.not_isBlank

theorem Text.gives_trim_iff : (Text.trim line).Gives key r ↔ line.Gives key r := by
  obtain ⟨lead, trail, hlead, htrail, hsplit⟩ :=
    Text.splitFirst_trim (show arrow ≠ [] by decide) (by decide) line
  constructor
  · rintro ⟨left, right, htrim, hkey, hleft, hright, hr⟩
    refine ⟨lead ++ left, right ++ trail, ?_, hkey, ?_, ?_, hr⟩
    · rw [← Text.splitFirst_eq_some_iff, hsplit, Text.splitFirst_eq_some_iff.mpr htrim]
      rfl
    · exact (Word.writtenIn_of_blank_left hlead).mpr hleft
    · exact (Word.writtenIn_of_blank_right htrail).mpr hright
  · rintro ⟨left, right, hwhole, hkey, hleft, hright, hr⟩
    rw [← Text.splitFirst_eq_some_iff, hsplit] at hwhole
    obtain ⟨⟨left', right'⟩, htrim, heq⟩ := Option.map_eq_some_iff.mp hwhole
    cases heq
    refine ⟨left', right', Text.splitFirst_eq_some_iff.mp htrim, hkey, ?_, ?_, hr⟩
    · exact (Word.writtenIn_of_blank_left hlead).mp hleft
    · exact (Word.writtenIn_of_blank_right htrail).mp hright

/-- What gives a rule has the shape of one. -/
theorem Text.exists_gives_iff :
    (∃ key r, line.Gives key r) ↔ ∃ left right, RuleShape line left right := by
  constructor
  · rintro ⟨key, r, left, right, hsplit, hkey, hleft, hright, hr⟩
    refine ⟨left, right, hsplit, ?_, ?_, ?_⟩
    · exact Word.exists_letter_writtenIn_iff.mp ⟨key, hkey, hleft⟩
    · exact fun h => hr ((Word.eq_nil_iff_of_writtenIn hright).mpr h)
    · exact Word.exists_writtenIn_iff.mp ⟨r, hright⟩
  · rintro ⟨left, right, hsplit, hleft, hsolid, hright⟩
    obtain ⟨key, hkey, hleft⟩ := Word.exists_letter_writtenIn_iff.mpr hleft
    obtain ⟨r, hright⟩ := Word.exists_writtenIn_iff.mpr hright
    refine ⟨key, r, left, right, hsplit, hkey, hleft, hright, ?_⟩
    exact fun h => hsolid ((Word.eq_nil_iff_of_writtenIn hright).mp h)

theorem RuleEntry.parse_eq_ok_iff {found : Option RuleEntry} :
    RuleEntry.parse n raw = .ok found ↔
      raw.IsBlank ∧ found = none ∨ ∃ key r, raw.Gives key r ∧ found = some ⟨n, key, r⟩ := by
  constructor
  · intro h
    simp only [RuleEntry.parse] at h
    split at h
    next hblank =>
      cases h
      exact .inl ⟨Text.trim_eq_nil_iff.mp (List.isEmpty_iff.mp hblank), rfl⟩
    next =>
      split at h
      next => cases h
      next left right hsplit =>
        obtain ⟨predecessor, hleft, h⟩ := bind_eq_ok.mp h
        split at h
        next key =>
          split at h
          next => cases h
          next hkey =>
            split at h
            next => cases h
            next hsolid =>
              obtain ⟨r, hright, h⟩ := bind_eq_ok.mp h
              cases h
              have hwritten := Word.parse_eq_ok_iff.mp hright
              refine .inr ⟨key, r, Text.gives_trim_iff.mp ?_, rfl⟩
              refine ⟨left, right, Text.splitFirst_eq_some_iff.mp hsplit, by simpa using hkey,
                Word.parse_eq_ok_iff.mp hleft, hwritten, ?_⟩
              rw [ne_eq, Word.eq_nil_iff_of_writtenIn hwritten, Text.nonblanks_eq_nil_iff,
                ← Text.trim_eq_nil_iff, ← List.isEmpty_iff]
              exact hsolid
        next => cases h
  · rintro (⟨hblank, rfl⟩ | ⟨key, r, h, rfl⟩)
    · rw [RuleEntry.parse, if_pos (List.isEmpty_iff.mpr (Text.trim_eq_nil_iff.mpr hblank))]
      rfl
    · have hraw : ¬List.isEmpty (Text.trim raw) = true := by
        rw [List.isEmpty_iff, Text.trim_eq_nil_iff]
        exact h.not_isBlank
      obtain ⟨left, right, hsplit, hkey, hleft, hright, hr⟩ := Text.gives_trim_iff.mpr h
      have hsolid : ¬List.isEmpty (Text.trim right) = true := by
        rw [List.isEmpty_iff, Text.trim_eq_nil_iff, ← Text.nonblanks_eq_nil_iff,
          ← Word.eq_nil_iff_of_writtenIn hright]
        exact hr
      have hl : ∀ line column, Word.parse left line column = .ok [key] :=
        fun _ _ => Word.parse_eq_ok_iff.mpr hleft
      have hr : ∀ line column, Word.parse right line column = .ok r :=
        fun _ _ => Word.parse_eq_ok_iff.mpr hright
      rw [RuleEntry.parse, if_neg hraw]
      simp only [Text.splitFirst_eq_some_iff.mpr hsplit, hl, hr, hkey, hsolid, bind, Except.bind]
      rfl

/-- Lines are read to their end when each is blank or gives a rule. -/
theorem RuleEntry.parseLines_stop_eq_none_iff :
    (RuleEntry.parseLines n raws).2 = none ↔
      ∀ raw ∈ raws, raw.IsBlank ∨ ∃ key r, raw.Gives key r := by
  induction raws generalizing n with
  | nil => simp [parseLines]
  | cons raw rest ih =>
    rw [parseLines, List.forall_mem_cons]
    split
    next e he =>
      constructor
      · intro h
        cases h
      · rintro ⟨hblank | ⟨key, r, h⟩, -⟩
        · cases he.symm.trans (parse_eq_ok_iff.mpr (.inl ⟨hblank, rfl⟩))
        · cases he.symm.trans (parse_eq_ok_iff.mpr (.inr ⟨key, r, h, rfl⟩))
    next found hfound =>
      have hraw : raw.IsBlank ∨ ∃ key r, raw.Gives key r := by
        rcases parse_eq_ok_iff.mp hfound with ⟨hblank, -⟩ | ⟨key, r, h, -⟩
        · exact .inl hblank
        · exact .inr ⟨key, r, h⟩
      exact ih.trans (and_iff_right hraw).symm

/-- The rules that are read are those of the lines that are not blank, in order. -/
theorem RuleEntry.gives_of_parseLines (h : (RuleEntry.parseLines n raws).2 = none) :
    List.Forall₂ (fun raw entry => Text.Gives raw entry.key entry.replacement)
      (raws.filter fun raw => ¬raw.IsBlank) (RuleEntry.parseLines n raws).1 := by
  induction raws generalizing n with
  | nil => exact .nil
  | cons raw rest ih =>
    rw [parseLines] at h ⊢
    split at h
    next => cases h
    next found hfound =>
      rcases parse_eq_ok_iff.mp hfound with ⟨hblank, rfl⟩ | ⟨key, r, hgives, rfl⟩
      · rw [List.filter_cons_of_neg (by simpa using hblank)]
        exact ih h
      · rw [List.filter_cons_of_pos (by simpa using hgives.not_isBlank)]
        exact .cons hgives (ih h)

end Lines

/-! ### Rules -/

namespace Rules

variable {key k : Symbol} {r : Word} {entries : List (Symbol × Word)}

theorem lookup_cons :
    List.lookup key ((k, r) :: entries) = if key = k then some r else entries.lookup key := by
  rw [List.lookup_cons]
  split
  next h => rw [if_pos (eq_of_beq h)]
  next h => rw [if_neg (beq_eq_false_iff_ne.mp h)]

theorem lookup_put :
    (put k r entries).lookup key = if key = k then some r else entries.lookup key := by
  induction entries with
  | nil => rw [put, lookup_cons]
  | cons entry rest ih =>
    obtain ⟨k', r'⟩ := entry
    rw [put]
    split
    next h =>
      subst h
      rw [lookup_cons, lookup_cons]
      split <;> rfl
    next h =>
      rw [lookup_cons, ih, lookup_cons]
      by_cases hkey : key = k'
      · rw [if_pos hkey, if_neg (hkey ▸ h), if_pos hkey]
      · rw [if_neg hkey, if_neg hkey]

theorem ofList_concat :
    ofList (entries ++ [(key, r)]) = (ofList entries).insert key r := by
  rw [ofList, List.foldl_append, List.foldl_cons, List.foldl_nil, ofList]

/-- The last replacement given for a symbol counts. -/
theorem replacement_ofList : (ofList entries).replacement? key = entries.reverse.lookup key := by
  induction entries using List.reverseRecOn with
  | nil => rfl
  | append_singleton entries entry ih =>
    obtain ⟨k, r⟩ := entry
    rw [ofList_concat, replacement?, insert, lookup_put, ← replacement?, ih, List.reverse_append,
      List.reverse_singleton, List.singleton_append, lookup_cons]

/-- The symbols stand in the order in which they were first given a replacement. -/
theorem keys_ofList :
    (ofList entries).entries.map Prod.fst = (entries.map Prod.fst).eraseDups := by
  induction entries using List.reverseRecOn with
  | nil => rfl
  | append_singleton entries entry ih =>
    obtain ⟨k, r⟩ := entry
    rw [ofList_concat, insert, keys_put, ih, List.map_append, List.eraseDups_append]
    by_cases h : k ∈ entries.map Prod.fst
    · simp [List.removeAll, h]
    · simp [List.removeAll, h, List.eraseDups_cons]

/-- Rules are read from a text when all its lines are, and merge what the lines give. -/
theorem parse_eq_ok_iff {text : Text} {rules : Rules} :
    (Rules.parse text).result = .ok rules ↔
      (RuleEntry.parseLines 1 (Text.lines text)).2 = none ∧
        rules = ofList ((RuleEntry.parseLines 1 (Text.lines text)).1.map fun entry =>
          (entry.key, entry.replacement)) := by
  simp only [Rules.parse]
  split
  next e he => simp [he]
  next he => simp [he, eq_comm]

/-- A text gives rules exactly when each of its lines is blank or has the shape of a rule. Then the
rules replace the letter of each line by the word on the last line that gives a rule for it, and the
letters stand in the order of the first such lines. -/
theorem rules_from_lines (text : Text) :
    ((∃ rules, (Rules.parse text).result = .ok rules) ↔
      ∀ line ∈ Text.lines text, line.IsBlank ∨ ∃ left right, Text.RuleShape line left right) ∧
    ∀ rules, (Rules.parse text).result = .ok rules →
      ∃ given : List (Symbol × Word),
        List.Forall₂ (fun line rule => Text.Gives line rule.1 rule.2)
          ((Text.lines text).filter fun line => ¬line.IsBlank) given ∧
        rules.entries.map Prod.fst = (given.map Prod.fst).eraseDups ∧
        ∀ key, rules.replacement? key = given.reverse.lookup key := by
  constructor
  · simp only [parse_eq_ok_iff, exists_and_left, exists_eq, and_true,
      RuleEntry.parseLines_stop_eq_none_iff, Text.exists_gives_iff]
  · intro rules h
    obtain ⟨hstop, rfl⟩ := parse_eq_ok_iff.mp h
    refine ⟨_, ?_, keys_ofList, fun key => replacement_ofList⟩
    exact List.forall₂_map_right_iff.mpr (RuleEntry.gives_of_parseLines hstop)

/-- Rules on three lines, with a blank line among them, of which the last changes the first. -/
def changing : Text := Text.ofString "F=>F+F\n \n\tX => [ F ]X\r\nF=>  X"

theorem changed_rule_keeps_place :
    ∃ rules, (Rules.parse changing).result = .ok rules ∧
      rules.entries.map (fun entry => (entry.1.char, entry.2.chars)) =
        [('F', ['X']), ('X', ['[', 'F', ']', 'X'])] ∧
      ∃ given : List (Symbol × Word),
        List.Forall₂ (fun line rule => Text.Gives line rule.1 rule.2)
          ((Text.lines changing).filter fun line => ¬line.IsBlank) given ∧
        rules.entries.map Prod.fst = (given.map Prod.fst).eraseDups ∧
        ∀ key, rules.replacement? key = given.reverse.lookup key := by
  have hread : (Rules.parse changing).result.toOption.any (fun rules =>
      rules.entries.map (fun entry => (entry.1.char, entry.2.chars)) ==
        [('F', ['X']), ('X', ['[', 'F', ']', 'X'])]) = true := by decide
  cases h : (Rules.parse changing).result with
  | error e => simp [h, Except.toOption] at hread
  | ok rules =>
    simp only [h, Except.toOption, Option.any_some, beq_iff_eq] at hread
    exact ⟨rules, rfl, hread, (rules_from_lines changing).2 rules h⟩

end Rules

end TurtleGrammar
