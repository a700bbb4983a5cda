import TurtleGrammar.Proofs.Grammar.Faults

/-! The reading of a text in parts. A text that is cut at any place can be read just when both parts
can, the second from the column at which it stands, and its word is the words of its parts, one
behind the other. A text that cannot be read is refused for its first fault, at the place of this
fault in the whole, whichever part it stands in. Blanks can be put into a text anywhere: they move
what is behind them to other columns, and the word stays as it is. -/

namespace TurtleGrammar

/-! ### Blanks put into a text -/

/-- A text with blanks put into it, at any places. -/
inductive Text.SpacedOut : (text spaced : Text) → Prop
  | nil : SpacedOut [] []
  | keep (p : CodePoint) {text spaced : Text} (rest : SpacedOut text spaced) :
      SpacedOut (p :: text) (p :: spaced)
  | insert {p : CodePoint} {text spaced : Text} (blank : p.isBlank = true)
      (rest : SpacedOut text spaced) : SpacedOut text (p :: spaced)

namespace Text.SpacedOut

variable {text spaced : Text}

theorem refl (text : Text) : text.SpacedOut text := by
  induction text with
  | nil => exact .nil
  | cons p text ih => exact .keep p ih

theorem of_blank_before {blanks : Text} (text : Text) (h : blanks.IsBlank) :
    text.SpacedOut (blanks ++ text) := by
  induction blanks with
  | nil => exact refl text
  | cons p blanks ih =>
    rw [Text.IsBlank, List.forall_mem_cons] at h
    exact .insert h.1 (ih h.2)

/-- Blanks can be put at one place. -/
theorem of_blank {blanks : Text} (before after : Text) (h : blanks.IsBlank) :
    SpacedOut (before ++ after) (before ++ blanks ++ after) := by
  induction before with
  | nil => exact of_blank_before after h
  | cons p before ih => exact .keep p ih

/-- Only blanks are put in. -/
theorem nonblanks_eq (h : text.SpacedOut spaced) : spaced.nonblanks = text.nonblanks := by
  induction h with
  | nil => rfl
  | @keep p text spaced _ ih =>
    rw [← List.singleton_append, nonblanks_append, ih, ← nonblanks_append, List.singleton_append]
  | @insert p text spaced blank _ ih =>
    have hp : IsBlank [p] := List.forall_mem_singleton.mpr blank
    rw [← List.singleton_append, nonblanks_append, nonblanks_eq_nil_iff.mpr hp, List.nil_append, ih]

end Text.SpacedOut

namespace Word

variable {a b text spaced : Text} {w : Word} {line column : Int} {e : ParseError}

/-- Whether a text can be read, and as which word, does not depend on its place, and blanks put into
it change nothing about this. -/
theorem parse_spaced_eq_ok_iff (h : text.SpacedOut spaced) {line' column' : Int} :
    Word.parse spaced line' column' = .ok w ↔ Word.parse text line column = .ok w := by
  rw [parse_eq_ok_iff, parse_eq_ok_iff, WrittenIn, WrittenIn, h.nonblanks_eq]

/-! ### A text in two parts -/

theorem parse_append_eq_ok_iff :
    Word.parse (a ++ b) line column = .ok w ↔
      ∃ u v, Word.parse a line column = .ok u ∧
        Word.parse b line (column + (a.length : Nat)) = .ok v ∧ w = u ++ v := by
  rw [parse_append, bind_eq_ok]
  constructor
  · rintro ⟨u, hu, h⟩
    obtain ⟨v, hv, h⟩ := bind_eq_ok.mp h
    exact ⟨u, v, hu, hv, (Except.ok.inj h).symm⟩
  · rintro ⟨u, v, hu, hv, rfl⟩
    exact ⟨u, hu, bind_eq_ok.mpr ⟨v, hv, rfl⟩⟩

theorem parse_append_eq_error_iff :
    Word.parse (a ++ b) line column = .error e ↔
      Word.parse a line column = .error e ∨
        ∃ u, Word.parse a line column = .ok u ∧
          Word.parse b line (column + (a.length : Nat)) = .error e := by
  rw [parse_append, bind_eq_error]
  refine or_congr_right (exists_congr fun u => and_congr_right fun _ => ?_)
  rw [bind_eq_error]
  constructor
  · rintro (h | ⟨v, -, h⟩)
    · exact h
    · cases h
  · exact .inl

/-- A text that is cut at any place can be read just when both parts can, the second from the column
at which it stands, and its word is the word of the first followed by that of the second. Otherwise
it is refused as its first part is, or, if that can be read, as its second part is from there: for
the first code point of the whole that is neither blank nor a symbol, on the given line, and as many
columns behind the given one as code points stand before it. Blanks that are put into a text,
anywhere, change neither whether it can be read nor its word. -/
theorem text_read_in_parts (a b : Text) (line column : Int) :
    (∀ w, Word.parse (a ++ b) line column = .ok w ↔
      ∃ u v, Word.parse a line column = .ok u ∧
        Word.parse b line (column + (a.length : Nat)) = .ok v ∧ w = u ++ v) ∧
    (∀ e, Word.parse (a ++ b) line column = .error e ↔
      Word.parse a line column = .error e ∨
        ∃ u, Word.parse a line column = .ok u ∧
          Word.parse b line (column + (a.length : Nat)) = .error e) ∧
    (∀ e, Word.parse (a ++ b) line column = .error e ↔
      ∃ before p after, a ++ b = before ++ p :: after ∧ (∀ q ∈ before, q.IsPlain) ∧ ¬p.IsPlain ∧
        e = ⟨line, column + (before.length : Nat), .unknownToken p⟩) ∧
    ∀ (text spaced : Text) (w : Word) (line' column' : Int), text.SpacedOut spaced →
      (Word.parse spaced line' column' = .ok w ↔ Word.parse text line column = .ok w) := by
  refine ⟨fun w => parse_append_eq_ok_iff, fun e => parse_append_eq_error_iff,
    fun e => parse_eq_error_iff_strange, ?_⟩
  intro text spaced w line' column' h
  exact parse_spaced_eq_ok_iff h

/-- A twig with a wide space and a tab in its bracket, and a text whose second part has a fault. -/
theorem spaced_twig_reads_alike :
    Text.SpacedOut (Text.ofString "f[" ++ Text.ofString "+f]")
      (Text.ofString "f[" ++ Text.ofString "\u3000\t" ++ Text.ofString "+f]") ∧
    Word.parse (Text.ofString "f[" ++ Text.ofString "+f]") 1 1 =
      .ok [.skip, .push, .turnLeft, .skip, .pop] ∧
    Word.parse (Text.ofString "f[" ++ Text.ofString "\u3000\t" ++ Text.ofString "+f]") 2 8 =
      .ok [.skip, .push, .turnLeft, .skip, .pop] ∧
    Word.parse (Text.ofString "f\u3000") 1 1 = .ok [.skip] ∧
    Word.parse (Text.ofString "\t?") 1 3 = .error ⟨1, 4, .unknownToken (.scalar '?')⟩ ∧
    Word.parse (Text.ofString "f\u3000" ++ Text.ofString "\t?") 1 1 =
      .error ⟨1, 4, .unknownToken (.scalar '?')⟩ := by
  have hblank : (Text.ofString "\u3000\t").IsBlank := by decide
  have hspaced := Text.SpacedOut.of_blank (Text.ofString "f[") (Text.ofString "+f]") hblank
  have hword : Word.parse (Text.ofString "f[" ++ Text.ofString "+f]") 1 1 =
      .ok [.skip, .push, .turnLeft, .skip, .pop] := by decide
  have hfirst : Word.parse (Text.ofString "f\u3000") 1 1 = .ok [.skip] := by decide
  have hsecond : Word.parse (Text.ofString "\t?") 1 3 =
      .error ⟨1, 4, .unknownToken (.scalar '?')⟩ := by decide
  have hparts := text_read_in_parts (Text.ofString "f\u3000") (Text.ofString "\t?") 1 1
  refine ⟨hspaced, hword, ?_, hfirst, hsecond, ?_⟩
  · exact (hparts.2.2.2 _ _ _ 2 8 hspaced).mpr hword
  · exact (hparts.2.1 _).mpr (.inr ⟨_, hfirst, hsecond⟩)

end Word

end TurtleGrammar
