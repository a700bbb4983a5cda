import TurtleGrammar.Proofs.Grammar.Language
import TurtleGrammar.Proofs.Text.Letters

/-! Words written and read back. Several symbols are written as one character, so a word that is
written and read need not come back as it was: it does when each of its symbols is the one that its
character stands for. A text that is read and written again has lost its blanks and nothing else. -/

namespace TurtleGrammar

/-! ### Symbols -/

namespace Symbol

variable {c : Char} {s : Symbol}

/-- Whether a grammar can write a symbol. Of the symbols with a letter these are the ones that draw
and have a basic capital letter, and the nodes that have a basic small letter other than `f`. No
character writes a reset. -/
def isWritable : Symbol → Bool
  | .forward label => label.char.isUpper
  | .node label => label.char.isLower && label.char ≠ 'f'
  | .skip | .turnLeft | .turnRight | .push | .pop => true
  | .reset => false

/-- Whether no grammar has the character of a symbol: that of the reset, or a label beyond the first
128 characters. -/
def isForeign : Symbol → Bool
  | .forward label | .node label => 128 ≤ label.char.toNat
  | .reset => true
  | .skip | .turnLeft | .turnRight | .push | .pop => false

theorem Writes.char_eq (h : Writes c s) : s.char = c := by
  cases h <;> rfl

theorem isWritable_of_writes (h : Writes c s) : s.isWritable = true := by
  cases h with
  | forward l h => exact h
  | node l h hf =>
    rw [isWritable, Bool.and_eq_true, decide_eq_true_eq]
    exact ⟨h, hf⟩
  | _ => rfl

theorem isWritable_iff : s.isWritable = true ↔ Writes s.char s := by
  refine ⟨fun h => ?_, isWritable_of_writes⟩
  cases s with
  | forward l => exact .forward l h
  | node l =>
    rw [isWritable, Bool.and_eq_true, decide_eq_true_eq] at h
    exact .node l h.1 h.2
  | skip | turnLeft | turnRight | push | pop => constructor
  | reset => cases h

theorem isToken_iff : s.IsToken ↔ s.isWritable = true := by
  constructor
  · rintro ⟨c, hc⟩
    exact isWritable_of_writes (ofChar?_eq_some_iff.mp hc)
  · intro h
    exact ⟨s.char, ofChar?_eq_some_iff.mpr (isWritable_iff.mp h)⟩

theorem isBlank_char (s : Symbol) : Text.isBlank s.char = false := by
  cases s with
  | forward l | node l => exact Text.isBlank_of_isLetter l.isLetter
  | _ => rfl

theorem exists_writes_letter_iff (l : Letter) : (∃ s, Writes l.char s) ↔ l.char.toNat < 128 := by
  rw [exists_writes_iff, Text.isAlpha_iff_of_isLetter l.isLetter, or_iff_left]
  intro hsign
  -- `all` is decided on the list, while a statement about its members would be on every character
  have hnot : ['+', '-', '[', ']'].all (!Text.isLetter ·) = true := by decide +kernel
  simpa [l.isLetter] using List.all_eq_true.mp hnot l.char hsign

theorem isForeign_iff : s.isForeign = true ↔ ¬∃ t, Writes s.char t := by
  cases s with
  | forward l | node l =>
    rw [char, exists_writes_letter_iff, isForeign, decide_eq_true_eq, Nat.not_lt]
  | reset =>
    refine iff_of_true rfl ?_
    rw [exists_writes_iff]
    decide
  | skip | turnLeft | turnRight | push | pop =>
    exact iff_of_false (by decide) fun h => h ⟨_, isWritable_iff.mp rfl⟩

end Symbol

/-- Whether a code point can stand in the text of a word: it is blank or writes a symbol. -/
def Text.CodePoint.isLegible (p : CodePoint) : Bool :=
  p.isBlank || (Symbol.ofCodePoint? p).isSome

/-! ### The reading of a text, one code point after another -/

namespace Word

variable {text : Text} {p : Text.CodePoint} {s : Symbol} {v w : Word} {line column : Int}
  {e : ParseError}

theorem tokens_cons :
    tokens (p :: text) =
      if p.isBlank then (tokens text).map fun t => (t.1, t.2 + 1)
      else (p, 0) :: (tokens text).map fun t => (t.1, t.2 + 1) := by
  have hshift : (text.zipIdx 1).filter (fun t => !t.1.isBlank) =
      (tokens text).map fun t => (t.1, t.2 + 1) := by
    rw [List.zipIdx_succ, List.filter_map]
    rfl
  rw [tokens, List.zipIdx_cons, List.filter_cons, Nat.zero_add, hshift]
  by_cases h : p.isBlank = true <;> simp [h]

theorem column_succ (column : Int) (i : Nat) :
    column + ((i + 1 : Nat) : Int) = column + 1 + i := by
  omega

theorem parse_cons :
    Word.parse (p :: text) line column =
      if p.isBlank then Word.parse text line (column + 1)
      else match Symbol.ofCodePoint? p with
        | none => .error ⟨line, column, .unknownToken p⟩
        | some s => (Word.parse text line (column + 1)).map (s :: ·) := by
  rw [Word.parse, tokens_cons]
  -- what follows the first code point is read as from the next column on
  split
  · rw [List.mapM_map, Word.parse]
    simp only [Function.comp_def, column_succ]
  · rw [List.mapM_cons, List.mapM_map, Word.parse]
    simp only [Function.comp_def, column_succ]
    cases Symbol.ofCodePoint? p with
    | none =>
      rw [Int.natCast_zero, Int.add_zero]
      rfl
    | some s => rfl

/-- The reading of a text in two parts, the second from the column at which it stands. -/
theorem parse_append (a b : Text) (line column : Int) :
    Word.parse (a ++ b) line column = do
      let u ← Word.parse a line column
      let v ← Word.parse b line (column + (a.length : Nat))
      return u ++ v := by
  induction a generalizing column with
  | nil => simp [Word.parse, tokens]
  | cons p a ih =>
    rw [List.cons_append, parse_cons, parse_cons, ih, List.length_cons, column_succ]
    -- a blank only moves on what follows, and a fault ends the reading before the second part
    split
    · rfl
    · cases Symbol.ofCodePoint? p with
      | none => rfl
      | some s =>
        cases Word.parse a line (column + 1) with
        | error e => rfl
        | ok u => cases Word.parse b line (column + 1 + (a.length : Nat)) <;> rfl

theorem parse_cons_of_illegible (h : p.isLegible = false) :
    Word.parse (p :: text) line column = .error ⟨line, column, .unknownToken p⟩ := by
  rw [Text.CodePoint.isLegible, Bool.or_eq_false_iff, Option.isSome_eq_false_iff,
    Option.isNone_iff_eq_none] at h
  rw [parse_cons, h.1, h.2]
  rfl

theorem parse_cons_eq_error_iff (h : p.isLegible = true) :
    Word.parse (p :: text) line column = .error e ↔
      Word.parse text line (column + 1) = .error e := by
  rw [Text.CodePoint.isLegible, Bool.or_eq_true, Option.isSome_iff_exists] at h
  rw [parse_cons]
  split
  · rfl
  next hblank =>
    obtain ⟨s, hs⟩ := h.resolve_left hblank
    rw [hs]
    cases Word.parse text line (column + 1) <;> simp [Except.map]

/-- The reading of a text fails at the first code point that is neither blank nor a symbol, and says
which it is and where it stands. -/
theorem parse_eq_error_iff :
    Word.parse text line column = .error e ↔
      ∃ before p after, text = before ++ p :: after ∧ (∀ q ∈ before, q.isLegible = true) ∧
        p.isLegible = false ∧ e = ⟨line, column + (before.length : Nat), .unknownToken p⟩ := by
  induction text generalizing column with
  | nil => simp [Word.parse, tokens, pure, Except.pure]
  | cons q text ih =>
    cases hq : q.isLegible with
    | true =>
      rw [parse_cons_eq_error_iff hq, ih]
      constructor
      · rintro ⟨before, p, after, rfl, hbefore, hp, rfl⟩
        refine ⟨q :: before, p, after, rfl, List.forall_mem_cons.mpr ⟨hq, hbefore⟩, hp, ?_⟩
        rw [List.length_cons, column_succ]
      · -- the first code point can be read, so it is not the one that is refused
        rintro ⟨_ | ⟨q', before⟩, p, after, htext, hbefore, hp, rfl⟩
        · cases htext
          cases hq.symm.trans hp
        · cases htext
          refine ⟨before, p, after, rfl, (List.forall_mem_cons.mp hbefore).2, hp, ?_⟩
          rw [List.length_cons, column_succ]
    | false =>
      rw [parse_cons_of_illegible hq]
      constructor
      · rintro ⟨⟩
        refine ⟨[], q, text, rfl, by simp, hq, ?_⟩
        rw [List.length_nil, Int.natCast_zero, Int.add_zero]
      · rintro ⟨_ | ⟨q', before⟩, p, after, htext, hbefore, hp, rfl⟩
        · cases htext
          rw [List.length_nil, Int.natCast_zero, Int.add_zero]
        · cases htext
          cases hq.symm.trans (List.forall_mem_cons.mp hbefore).1

/-! ### The text of a word -/

theorem ofString_text : Text.ofString w.text = w.map fun s => .scalar s.char := by
  rw [Text.ofString, Word.text, String.toList_ofList, Text.ofChars, chars, List.map_map]
  rfl

theorem nonblanks_text : (Text.ofString w.text).nonblanks = Text.ofString w.text := by
  rw [ofString_text, Text.nonblanks, List.filter_eq_self]
  intro p hp
  obtain ⟨s, -, rfl⟩ := List.mem_map.mp hp
  rw [Text.CodePoint.isBlank, Symbol.isBlank_char]
  rfl

theorem writtenIn_text_iff :
    v.WrittenIn (Text.ofString w.text) ↔ List.Forall₂ (fun s t => Symbol.Writes s.char t) w v := by
  rw [WrittenIn, nonblanks_text, ofString_text, List.forall₂_map_left_iff]
  simp

theorem writtenIn_text_self_iff :
    w.WrittenIn (Text.ofString w.text) ↔ ∀ s ∈ w, s.isWritable = true := by
  rw [writtenIn_text_iff, List.forall₂_same]
  simp only [Symbol.isWritable_iff]

theorem parse_text (h : ∀ s ∈ w, s.isWritable = true) :
    Word.parse (Text.ofString w.text) line column = .ok w :=
  parse_eq_ok_iff.mpr (writtenIn_text_self_iff.mpr h)

theorem isLegible_char (s : Symbol) :
    (Text.CodePoint.scalar s.char).isLegible = true ↔ ¬s.isForeign = true := by
  rw [Text.CodePoint.isLegible, Text.CodePoint.isBlank, Symbol.isBlank_char, Bool.false_or,
    Option.isSome_iff_exists, Symbol.isForeign_iff, not_not]
  simp only [Symbol.ofCodePoint?, Symbol.ofChar?_eq_some_iff]

/-- A written word is refused at its first symbol whose character no grammar has. -/
theorem parse_text_eq_error_iff :
    Word.parse (Text.ofString w.text) line column = .error e ↔
      ∃ before s after, w = before ++ s :: after ∧ (∀ r ∈ before, ¬r.isForeign = true) ∧
        s.isForeign = true ∧
        e = ⟨line, column + (before.length : Nat), .unknownToken (.scalar s.char)⟩ := by
  rw [parse_eq_error_iff, ofString_text]
  constructor
  · rintro ⟨before, p, after, hw, hbefore, hp, rfl⟩
    obtain ⟨before, rest, rfl, rfl, hrest⟩ := List.map_eq_append_iff.mp hw
    obtain ⟨s, after, rfl, rfl, rfl⟩ := List.map_eq_cons_iff.mp hrest
    refine ⟨before, s, after, rfl, fun r hr => ?_, ?_, by rw [List.length_map]⟩
    · exact (isLegible_char r).mp (hbefore _ (List.mem_map_of_mem hr))
    · rw [← Bool.not_eq_true, isLegible_char, not_not] at hp
      exact hp
  · rintro ⟨before, s, after, rfl, hbefore, hs, rfl⟩
    refine ⟨_, _, _, List.map_append, ?_, ?_, by rw [List.length_map]⟩
    · intro p hp
      obtain ⟨r, hr, rfl⟩ := List.mem_map.mp hp
      exact (isLegible_char r).mpr (hbefore r hr)
    · rw [← Bool.not_eq_true, isLegible_char, not_not]
      exact hs

theorem exists_parse_text_error_iff :
    (∃ e, Word.parse (Text.ofString w.text) line column = .error e) ↔
      ∃ s ∈ w, s.isForeign = true := by
  simp only [parse_text_eq_error_iff]
  constructor
  · rintro ⟨e, before, s, after, rfl, -, hs, -⟩
    exact ⟨s, by simp, hs⟩
  · intro h
    obtain ⟨s, hs⟩ := Option.isSome_iff_exists.mp (List.find?_isSome.mpr h)
    obtain ⟨hforeign, before, after, rfl, hbefore⟩ := List.find?_eq_some_iff_append.mp hs
    exact ⟨_, before, s, after, rfl, by simpa using hbefore, hforeign, rfl⟩

/-- The characters of a word that is read are those of its text that are not blank. -/
theorem text_of_parse (h : Word.parse text line column = .ok w) :
    Text.ofString w.text = text.nonblanks := by
  have hw : List.Forall₂ (fun p s => p = Text.CodePoint.scalar s.char) text.nonblanks w := by
    refine (parse_eq_ok_iff.mp h).imp fun p s ⟨c, hp, hc⟩ => ?_
    rw [hp, hc.char_eq]
  rw [ofString_text]
  exact (List.forall₂_eq_eq_eq ▸ List.forall₂_map_right_iff.mpr hw : _ = _).symm

/-- A word that is written and read comes back as it is when a grammar can write all its symbols.
When one of them has a character that no grammar has, the reading fails there, and in all other
cases it gives another word of the same length. The symbols that a grammar can write are those that
some character stands for. A text that is read, and then written, is the text without its blanks. -/
theorem written_word_reads_back (w : Word) (line column : Int) :
    (∀ s : Symbol, s.isWritable = true ↔ s.IsToken) ∧
    (Word.parse (Text.ofString w.text) line column = .ok w ↔ ∀ s ∈ w, s.isWritable = true) ∧
    (∀ e, Word.parse (Text.ofString w.text) line column = .error e ↔
      ∃ before s after, w = before ++ s :: after ∧ (∀ r ∈ before, ¬r.isForeign = true) ∧
        s.isForeign = true ∧
        e = ⟨line, column + (before.length : Nat), .unknownToken (.scalar s.char)⟩) ∧
    ((∃ e, Word.parse (Text.ofString w.text) line column = .error e) ↔
      ∃ s ∈ w, s.isForeign = true) ∧
    ((¬∀ s ∈ w, s.isWritable = true) → (∀ s ∈ w, ¬s.isForeign = true) →
      ∃ v, Word.parse (Text.ofString w.text) line column = .ok v ∧ v ≠ w ∧
        v.length = w.length) ∧
    ∀ (text : Text) (v : Word), Word.parse text line column = .ok v →
      Text.ofString v.text = text.nonblanks := by
  refine ⟨fun s => Symbol.isToken_iff.symm, parse_eq_ok_iff.trans writtenIn_text_self_iff,
    fun e => parse_text_eq_error_iff, exists_parse_text_error_iff, fun hw hlegible => ?_,
    fun text v => text_of_parse⟩
  cases hv : Word.parse (Text.ofString w.text) line column with
  | error e =>
    obtain ⟨s, hs, hforeign⟩ := exists_parse_text_error_iff.mp ⟨e, hv⟩
    exact absurd hforeign (hlegible s hs)
  | ok v =>
    have hwritten := writtenIn_text_iff.mp (parse_eq_ok_iff.mp hv)
    refine ⟨v, rfl, ?_, hwritten.length_eq.symm⟩
    rintro rfl
    exact hw (writtenIn_text_self_iff.mp (parse_eq_ok_iff.mp hv))

def smallF : Letter := .ofAlpha 'f' rfl

/-- Two symbols with the label `f` come back as moves without a line. -/
theorem labels_f_read_as_moves :
    (¬∀ s ∈ [Symbol.node smallF, .forward smallF], s.isWritable = true) ∧
    (∀ s ∈ [Symbol.node smallF, .forward smallF], ¬s.isForeign = true) ∧
    (∃ v, Word.parse (Text.ofString (Word.text [.node smallF, .forward smallF])) 1 1 = .ok v ∧
      v ≠ [.node smallF, .forward smallF] ∧ v.length = 2) ∧
    Word.parse (Text.ofString "f\t[ f") 1 1 = .ok [.skip, .push, .skip] ∧
    Text.ofString (Word.text [.skip, .push, .skip]) = (Text.ofString "f\t[ f").nonblanks := by
  have hread : Word.parse (Text.ofString "f\t[ f") 1 1 = .ok [.skip, .push, .skip] := by decide
  have h := written_word_reads_back [.node smallF, .forward smallF] 1 1
  exact ⟨by decide, by decide, h.2.2.2.2.1 (by decide) (by decide), hread,
    h.2.2.2.2.2 _ _ hread⟩

end Word

end TurtleGrammar
