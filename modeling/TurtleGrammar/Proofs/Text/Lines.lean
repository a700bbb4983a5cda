import TurtleGrammar.Text.Blank

/-! The lines of a text. A line feed cuts them in two. So pieces without line breaks that are joined
by line feeds are the lines of the text they are joined to, as long as none of them is empty. -/

namespace TurtleGrammar.Text

variable {c : CodePoint} {text piece : Text} {pieces : List Text}

/-- Nothing in a text ends a line. -/
def IsUnbroken (text : Text) : Prop := ∀ c ∈ text, c.isLineBreak = false

theorem isUnbroken_cons : IsUnbroken (c :: text) ↔ c.isLineBreak = false ∧ text.IsUnbroken :=
  List.forall_mem_cons

theorem lines_cons_of_unbroken (h : c.isLineBreak = false) :
    lines (c :: text) = consFirst c (lines text) := by
  have hc : c ≠ .scalar '\r' := by
    rintro rfl
    cases h
  rw [lines, h]
  · rfl
  · intro rest hr
    exact absurd hr hc

theorem lines_of_unbroken (h : piece.IsUnbroken) (hne : piece ≠ []) : lines piece = [piece] := by
  induction piece with
  | nil => exact absurd rfl hne
  | cons c piece ih =>
    rw [isUnbroken_cons] at h
    rw [lines_cons_of_unbroken h.1]
    cases piece with
    | nil => rfl
    | cons d piece =>
      rw [ih h.2 (List.cons_ne_nil d piece)]
      rfl

theorem lines_append_feed (h : piece.IsUnbroken) :
    lines (piece ++ .scalar '\n' :: text) = piece :: lines text := by
  induction piece with
  | nil =>
    rw [List.nil_append, lines]
    · rfl
    · intro rest hr
      cases hr
  | cons c piece ih =>
    rw [isUnbroken_cons] at h
    rw [List.cons_append, lines_cons_of_unbroken h.1, ih h.2]
    rfl

theorem lines_intercalate (h : ∀ piece ∈ pieces, piece.IsUnbroken ∧ piece ≠ []) :
    lines ([.scalar '\n'].intercalate pieces) = pieces := by
  induction pieces with
  | nil => rfl
  | cons first pieces ih =>
    rw [List.forall_mem_cons] at h
    cases pieces with
    | nil =>
      rw [List.intercalate_singleton]
      exact lines_of_unbroken h.1.1 h.1.2
    | cons second pieces =>
      rw [List.intercalate_cons_cons, List.append_assoc, List.singleton_append,
        lines_append_feed h.1.1, ih h.2]

theorem lines_cons_of_break (h : c.isLineBreak = true)
    (happart : ∀ rest, c = .scalar '\r' → text = .scalar '\n' :: rest → False) :
    lines (c :: text) = [] :: lines text := by
  rw [lines.eq_3 _ _ happart, if_pos h]

theorem lines_ne_nil (h : text ≠ []) : lines text ≠ [] := by
  have hfirst : ∀ (c : CodePoint) (rest : List Text), consFirst c rest ≠ [] := by
    rintro c (_ | ⟨line, rest⟩) <;> exact List.cons_ne_nil _ _
  unfold lines
  split
  · exact absurd rfl h
  · exact List.cons_ne_nil _ _
  · split
    · exact List.cons_ne_nil _ _
    · exact hfirst _ _

theorem consFirst_append {first rest : List Text} (h : first ≠ []) :
    consFirst c (first ++ rest) = consFirst c first ++ rest := by
  cases first with
  | nil => exact absurd rfl h
  | cons line first => rfl

/-- A line feed cuts the lines of a text in two, whatever stands on either side of it. If no line is
left open before it, it may add a blank one. -/
theorem exists_lines_append_feed (before : Text) :
    ∃ blank : List Text, (∀ line ∈ blank, line = []) ∧
      ∀ after, lines (before ++ .scalar '\n' :: after) = lines before ++ blank ++ lines after := by
  induction before using lines.induct with
  | case1 =>
    exact ⟨[[]], by simp, fun after => lines_cons_of_break rfl fun _ h => by cases h⟩
  | case2 before ih =>
    obtain ⟨blank, hblank, hlines⟩ := ih
    exact ⟨blank, hblank, fun after => congrArg ([] :: ·) (hlines after)⟩
  | case3 c before happart hc ih =>
    by_cases hlast : c = .scalar '\r' ∧ before = []
    · -- the line feed and the carriage return before it are one break
      obtain ⟨rfl, rfl⟩ := hlast
      exact ⟨[], nofun, fun after => rfl⟩
    · obtain ⟨blank, hblank, hlines⟩ := ih
      refine ⟨blank, hblank, fun after => ?_⟩
      rw [List.cons_append, lines_cons_of_break hc, hlines, lines_cons_of_break hc happart]
      · rfl
      · intro rest hreturn hrest
        cases before with
        | nil => exact hlast ⟨hreturn, rfl⟩
        | cons d before =>
          cases hrest
          exact happart _ hreturn rfl
  | case4 c before happart hc ih =>
    have hc : c.isLineBreak = false := Bool.eq_false_iff.mpr hc
    obtain ⟨blank, hblank, hlines⟩ := ih
    by_cases hbefore : before = []
    · subst hbefore
      have hunbroken : IsUnbroken [c] := by simpa [IsUnbroken] using hc
      refine ⟨[], nofun, fun after => ?_⟩
      rw [lines_append_feed hunbroken, lines_of_unbroken hunbroken (List.cons_ne_nil c [])]
      rfl
    · refine ⟨blank, hblank, fun after => ?_⟩
      rw [List.cons_append, lines_cons_of_unbroken hc, lines_cons_of_unbroken hc, hlines,
        List.append_assoc, consFirst_append (lines_ne_nil hbefore), List.append_assoc]

/-- A text without carriage returns has its lines as they are. -/
theorem unifyBreaks_eq_self {chars : List Char} (h : '\r' ∉ chars) : unifyBreaks chars = chars := by
  induction chars with
  | nil => rfl
  | cons c chars ih =>
    rw [List.mem_cons, not_or] at h
    have hc : c ≠ '\r' := Ne.symm h.1
    rw [unifyBreaks, ih h.2]
    all_goals simp [hc]

/-! ### Texts on lines of their own -/

/-- Texts with a line feed between every two. -/
def joined (texts : List Text) : Text := [.scalar '\n'].intercalate texts

/-- A text that is ended by a line feed. -/
def closed (text : Text) : Text := text ++ [.scalar '\n']

variable {before after : List Text}

theorem joined_cons_cons (first second : Text) :
    joined (first :: second :: pieces) = first ++ .scalar '\n' :: joined (second :: pieces) := by
  rw [joined, List.intercalate_cons_cons, List.append_assoc, List.singleton_append, joined]

theorem joined_append_cons :
    joined (before ++ text :: after) = before.flatMap closed ++ joined (text :: after) := by
  induction before with
  | nil => rfl
  | cons first before ih =>
    have hfirst : joined (first :: (before ++ text :: after)) =
        closed first ++ joined (before ++ text :: after) := by
      cases before <;> simp [joined_cons_cons, closed]
    rw [List.cons_append, hfirst, ih, List.flatMap_cons, List.append_assoc]

/-- With one more line feed at the end, each of the texts is ended by one. -/
theorem closed_joined (h : pieces ≠ []) : closed (joined pieces) = pieces.flatMap closed := by
  obtain ⟨before, last, rfl⟩ := List.eq_nil_or_concat pieces |>.resolve_left h
  rw [List.concat_eq_append, joined_append_cons, joined, List.intercalate_singleton, closed,
    List.append_assoc, ← closed, List.flatMap_append, List.flatMap_singleton]

end TurtleGrammar.Text
