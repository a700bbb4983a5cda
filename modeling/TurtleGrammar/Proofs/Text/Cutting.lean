import Mathlib.Data.List.Basic
import Mathlib.Data.List.DropRight
import Mathlib.Data.List.Induction
import Mathlib.Data.List.TakeWhile
import TurtleGrammar.Text.Blank

/-! The trimming of a text, its cutting at a mark, and the joining of pieces by a mark. The first
place of a mark without blanks is the same in a text and in what is left of it without the blanks at
its ends. -/

namespace TurtleGrammar.Text

/-- The code points of a text that are not blank. -/
def nonblanks (text : Text) : Text := text.filter fun c => !c.isBlank

/-- No code point of a text is other than blank. -/
def IsBlank (text : Text) : Prop := ∀ c ∈ text, c.isBlank = true

instance (text : Text) : Decidable text.IsBlank := inferInstanceAs (Decidable (∀ c ∈ text, _))

/-! ### Trimming -/

variable {text before after : Text} {c : CodePoint}

theorem nonblanks_append : (before ++ after).nonblanks = before.nonblanks ++ after.nonblanks :=
  List.filter_append ..

theorem nonblanks_eq_nil_iff : text.nonblanks = [] ↔ text.IsBlank := by
  simp [nonblanks, IsBlank, List.filter_eq_nil_iff]

theorem trimEnd_eq_rdropWhile (text : Text) : trimEnd text = text.rdropWhile CodePoint.isBlank := rfl

theorem trimEnd_append_of_blank (h : after.IsBlank) : trimEnd (before ++ after) = trimEnd before := by
  induction after using List.reverseRecOn with
  | nil => rw [List.append_nil]
  | append_singleton after c ih =>
    have hc : c.isBlank = true := h c (by simp)
    rw [← List.append_assoc, trimEnd_eq_rdropWhile, List.rdropWhile_concat_pos _ _ _ hc]
    exact ih fun d hd => h d (List.mem_append_left _ hd)

theorem trimStart_append_of_blank (h : before.IsBlank) :
    trimStart (before ++ after) = trimStart after :=
  List.dropWhile_append_of_pos h

theorem trim_append_of_blank (h : before.IsBlank) : trim (before ++ after) = trim after := by
  rw [trim, trimStart_append_of_blank h, trim]

/-- The indentation stands before what trimming leaves, and blanks stand after it. -/
theorem exists_trim_indent (text : Text) :
    ∃ lead trail : Text, text = lead ++ trim text ++ trail ∧ lead.IsBlank ∧ trail.IsBlank ∧
      lead.length = indent text := by
  refine ⟨text.takeWhile CodePoint.isBlank,
    ((trimStart text).reverse.takeWhile CodePoint.isBlank).reverse, ?_, ?_, ?_, rfl⟩
  · have hend : trim text ++ ((trimStart text).reverse.takeWhile CodePoint.isBlank).reverse =
        trimStart text := by
      rw [trim, trimEnd, ← List.reverse_append, List.takeWhile_append_dropWhile,
        List.reverse_reverse]
    rw [List.append_assoc, hend, trimStart, List.takeWhile_append_dropWhile]
  · intro c hc
    exact List.mem_takeWhile_imp hc
  · intro c hc
    exact List.mem_takeWhile_imp (List.mem_reverse.mp hc)

/-- What trimming takes away at the two ends is blank. -/
theorem exists_trim (text : Text) :
    ∃ lead trail : Text, text = lead ++ trim text ++ trail ∧ lead.IsBlank ∧ trail.IsBlank := by
  obtain ⟨lead, trail, htext, hlead, htrail, -⟩ := exists_trim_indent text
  exact ⟨lead, trail, htext, hlead, htrail⟩

theorem nonblanks_trim (text : Text) : (trim text).nonblanks = text.nonblanks := by
  obtain ⟨lead, trail, htext, hlead, htrail⟩ := exists_trim text
  have h := congrArg nonblanks htext
  rw [nonblanks_append, nonblanks_append, nonblanks_eq_nil_iff.mpr hlead,
    nonblanks_eq_nil_iff.mpr htrail, List.append_nil, List.nil_append] at h
  exact h.symm

theorem trim_eq_nil_iff : trim text = [] ↔ text.IsBlank := by
  constructor
  · intro h
    rw [← nonblanks_eq_nil_iff, ← nonblanks_trim, h]
    rfl
  · intro h
    rw [trim, trimStart, List.dropWhile_eq_nil_iff.mpr h]
    rfl

theorem not_isBlank_of_mem (h : c ∈ text) (hc : c.isBlank = false) : ¬text.IsBlank :=
  fun hblank => Bool.false_ne_true (hc.symm.trans (hblank c h))

theorem exists_start (h : ¬text.IsBlank) :
    ∃ lead c rest, text = lead ++ c :: rest ∧ IsBlank lead ∧ c.isBlank = false := by
  have hsome : (text.find? fun c => !c.isBlank).isSome = true := by
    simpa [IsBlank] using h
  obtain ⟨c, hc⟩ := Option.isSome_iff_exists.mp hsome
  obtain ⟨hsolid, lead, rest, htext, hlead⟩ := List.find?_eq_some_iff_append.mp hc
  exact ⟨lead, c, rest, htext, by simpa [IsBlank] using hlead, by simpa using hsolid⟩

theorem exists_end (h : ¬text.IsBlank) :
    ∃ before c trail, text = before ++ c :: trail ∧ c.isBlank = false ∧ IsBlank trail := by
  have hreverse : ¬IsBlank text.reverse := by simpa [IsBlank] using h
  obtain ⟨trail, c, before, htext, htrail, hc⟩ := exists_start hreverse
  refine ⟨before.reverse, c, trail.reverse, ?_, hc, by simpa [IsBlank] using htrail⟩
  rw [← List.reverse_reverse text, htext]
  simp

theorem indent_of_start (hblank : before.IsBlank) (hc : c.isBlank = false)
    (h : text = before ++ c :: after) : indent text = before.length := by
  rw [indent, h, List.takeWhile_append_of_pos hblank, List.takeWhile_cons_of_neg (by simp [hc]),
    List.append_nil]

theorem trimEnd_of_end (hblank : after.IsBlank) (hc : c.isBlank = false)
    (h : text = before ++ c :: after) : trimEnd text = before ++ [c] := by
  rw [h, List.append_cons, trimEnd_append_of_blank hblank, trimEnd_eq_rdropWhile,
    List.rdropWhile_concat_neg _ _ _ (by simp [hc])]

theorem trimEnd_append_of_solid (h : ¬after.IsBlank) :
    trimEnd (before ++ after) = before ++ trimEnd after := by
  obtain ⟨start, c, trail, hafter, hc, htrail⟩ := exists_end h
  have hwhole : before ++ after = before ++ start ++ c :: trail := by
    rw [hafter, List.append_assoc]
  rw [trimEnd_of_end htrail hc hafter, trimEnd_of_end htrail hc hwhole, List.append_assoc]

/-- A text without the blanks that it ends with is its indentation and what trimming leaves. -/
theorem length_trimEnd (h : ¬text.IsBlank) :
    (trimEnd text).length = indent text + (trim text).length := by
  have hcut : text.takeWhile CodePoint.isBlank ++ trimStart text = text :=
    List.takeWhile_append_dropWhile
  have hsolid : ¬(trimStart text).IsBlank := by
    rw [← trim_eq_nil_iff] at h ⊢
    rwa [trim, trimStart, trimStart, List.dropWhile_idempotent]
  calc (trimEnd text).length
    _ = (trimEnd (text.takeWhile CodePoint.isBlank ++ trimStart text)).length := by rw [hcut]
    _ = indent text + (trim text).length := by
      rw [trimEnd_append_of_solid hsolid, List.length_append, indent, trim]

/-! ### The first place of a mark -/

section First

variable {α : Type} {mark whole left right l : List α} {c : α}

/-- The parts of a list before and after the first place where `mark` stands in it. -/
structure SplitsFirst (mark whole left right : List α) : Prop where
  eq : whole = left ++ mark ++ right
  first : ∀ left' right', whole = left' ++ mark ++ right' → left.length ≤ left'.length

theorem prefix_append_iff_of_not_mem {trail : List α} (htrail : ∀ c ∈ trail, c ∉ mark) :
    mark <+: l ++ trail ↔ mark <+: l := by
  constructor
  · rintro ⟨t, ht⟩
    rcases List.append_eq_append_iff.mp ht with ⟨a, rfl, -⟩ | ⟨b, rfl, rfl⟩
    · exact List.prefix_append ..
    · cases b with
      | nil => simp
      | cons c b =>
        have hc : c ∈ l ++ c :: b := by simp
        exact absurd hc (htrail c (by simp))
  · intro h
    exact h.trans (List.prefix_append ..)

variable [DecidableEq α]

theorem splitFirst_eq_dropInfix : splitFirst mark whole = whole.dropInfix? mark := by
  -- The loop of `dropInfix?` keeps what it has passed in reverse.
  have loop : ∀ passed, List.dropInfix?.go mark whole passed =
      (splitFirst mark whole).map fun r => (passed.reverse ++ r.1, r.2) := by
    induction whole with
    | nil =>
      intro passed
      rw [List.dropInfix?.go, splitFirst]
      split <;> simp
    | cons c rest ih =>
      intro passed
      rw [List.dropInfix?.go, splitFirst]
      split
      next h =>
        have hprefix : ¬mark.isPrefixOf (c :: rest) = true := by
          rw [List.isPrefixOf_iff_prefix]
          rintro ⟨t, ht⟩
          have hsome : (c :: rest).dropPrefix? mark = some t :=
            List.dropPrefix?_eq_some_iff.mpr ⟨mark, ht.symm, by simp⟩
          cases h.symm.trans hsome
        rw [if_neg hprefix, ih]
        simp [Function.comp_def]
      next t h =>
        obtain ⟨mark', hrest, hmark⟩ := List.dropPrefix?_eq_some_iff.mp h
        rw [eq_of_beq hmark] at hrest
        have hprefix : mark.isPrefixOf (c :: rest) = true :=
          List.isPrefixOf_iff_prefix.mpr ⟨t, hrest.symm⟩
        rw [if_pos hprefix, hrest]
        simp
  rw [List.dropInfix?, loop]
  simp

theorem splitFirst_eq_some_iff :
    splitFirst mark whole = some (left, right) ↔ SplitsFirst mark whole left right := by
  rw [splitFirst_eq_dropInfix, List.dropInfix?_eq_some_iff]
  constructor
  · rintro ⟨⟨mark', hwhole, hmark⟩, hfirst⟩
    rw [eq_of_beq hmark] at hwhole
    exact ⟨hwhole, fun left' right' h => hfirst left' mark right' h (by simp)⟩
  · rintro ⟨hwhole, hfirst⟩
    refine ⟨⟨mark, hwhole, by simp⟩, fun left' mark' right' h hmark => ?_⟩
    rw [eq_of_beq hmark] at h
    exact hfirst left' right' h

theorem splitFirst_eq_none_iff : splitFirst mark whole = none ↔ ¬mark <:+: whole := by
  induction whole with
  | nil => simp [splitFirst, List.infix_nil]
  | cons c rest ih =>
    rw [List.infix_cons_iff, not_or, ← ih, splitFirst, ← List.isPrefixOf_iff_prefix]
    split <;> simp [*]

theorem splitFirst_cons_of_not_prefix (h : ¬mark <+: c :: l) :
    splitFirst mark (c :: l) = (splitFirst mark l).map fun (left, right) => (c :: left, right) := by
  rw [splitFirst, if_neg (mt List.isPrefixOf_iff_prefix.mp h)]

/-- No place of a mark starts in `lead`, whatever follows it. -/
def Passes (mark lead : List α) : Prop :=
  ∀ l, splitFirst mark (lead ++ l) =
    (splitFirst mark l).map fun (left, right) => (lead ++ left, right)

section Passing

variable {m n d : α} {lead lead' : List α}

theorem Passes.nil : Passes mark [] := fun l => by simp

theorem Passes.append (h : Passes mark lead) (h' : Passes mark lead') :
    Passes mark (lead ++ lead') := by
  intro l
  rw [List.append_assoc, h, h', Option.map_map]
  simp [Function.comp_def]

theorem Passes.cons (h : Passes mark lead) (hpre : ∀ l, ¬mark <+: c :: (lead ++ l)) :
    Passes mark (c :: lead) := by
  intro l
  rw [List.cons_append, splitFirst_cons_of_not_prefix (hpre l), h, Option.map_map]
  rfl

theorem passes_of_not_mem (h : m ∉ lead) : Passes (m :: mark) lead := by
  induction lead with
  | nil => exact Passes.nil
  | cons c lead ih =>
    rw [List.mem_cons, not_or] at h
    exact (ih h.2).cons fun l hpre => h.1 (List.cons_prefix_cons.mp hpre).1

/-- A mark does not start where something else follows its first item. -/
theorem passes_cons_cons (hn : n ≠ d) (hm : m ∉ d :: lead) :
    Passes (m :: n :: mark) (m :: d :: lead) := by
  refine (passes_of_not_mem hm).cons fun l hpre => hn ?_
  exact (List.cons_prefix_cons.mp (List.cons_prefix_cons.mp hpre).2).1

theorem splitFirst_of_passes (hmark : mark ≠ []) (h : Passes mark lead) (l : List α) :
    splitFirst mark (lead ++ (mark ++ l)) = some (lead, l) := by
  obtain ⟨m, mark, rfl⟩ := List.exists_cons_of_ne_nil hmark
  have hpre : (m :: mark).isPrefixOf (m :: (mark ++ l)) = true :=
    List.isPrefixOf_iff_prefix.mpr (List.prefix_append _ _)
  rw [h, List.cons_append, splitFirst, if_pos hpre, ← List.cons_append, List.drop_left]
  simp

end Passing

theorem splitFirst_append_left (hmark : mark ≠ []) {lead : List α} (hlead : ∀ c ∈ lead, c ∉ mark) :
    splitFirst mark (lead ++ l) =
      (splitFirst mark l).map fun (left, right) => (lead ++ left, right) := by
  obtain ⟨m, mark, rfl⟩ := List.exists_cons_of_ne_nil hmark
  exact passes_of_not_mem (fun hm => hlead m hm List.mem_cons_self) l

theorem splitFirst_append_right (hmark : mark ≠ []) {trail : List α}
    (htrail : ∀ c ∈ trail, c ∉ mark) :
    splitFirst mark (l ++ trail) =
      (splitFirst mark l).map fun (left, right) => (left, right ++ trail) := by
  induction l with
  | nil =>
    have h := splitFirst_append_left (l := []) hmark htrail
    rw [List.append_nil] at h
    simp [h, splitFirst, hmark]
  | cons c l ih =>
    have hiff := prefix_append_iff_of_not_mem (l := c :: l) htrail
    rw [List.cons_append] at hiff ⊢
    simp only [splitFirst, List.isPrefixOf_iff_prefix, hiff]
    split
    next h =>
      rw [← List.cons_append, List.drop_append_of_le_length h.length_le]
      rfl
    next =>
      rw [ih, Option.map_map, Option.map_map]
      rfl

end First

/-- Blanks before and after a text do not matter for where a mark without blanks stands first. -/
theorem splitFirst_between {mark lead trail : Text} (hmark : mark ≠ [])
    (hsolid : ∀ c ∈ mark, c.isBlank = false) (hlead : lead.IsBlank) (htrail : trail.IsBlank) :
    splitFirst mark (lead ++ text ++ trail) =
      (splitFirst mark text).map fun (left, right) => (lead ++ left, right ++ trail) := by
  have hnot : ∀ {s : Text}, s.IsBlank → ∀ c ∈ s, c ∉ mark := by
    intro s hs c hc hm
    cases (hs c hc).symm.trans (hsolid c hm)
  rw [splitFirst_append_right hmark (hnot htrail), splitFirst_append_left hmark (hnot hlead),
    Option.map_map]
  rfl

/-- A mark without blanks stands first where it stands first once the blanks at the ends are
gone. -/
theorem splitFirst_trim {mark : Text} (hmark : mark ≠ []) (hsolid : ∀ c ∈ mark, c.isBlank = false)
    (text : Text) :
    ∃ lead trail : Text, lead.IsBlank ∧ trail.IsBlank ∧
      splitFirst mark text =
        (splitFirst mark (trim text)).map fun (left, right) => (lead ++ left, right ++ trail) := by
  obtain ⟨lead, trail, htext, hlead, htrail⟩ := exists_trim text
  refine ⟨lead, trail, hlead, htrail, ?_⟩
  rw [← splitFirst_between hmark hsolid hlead htrail, ← htext]

/-! ### Joining -/

section Joining

variable {α : Type} {x : α} {mark piece : List α} {pieces : List (List α)}

theorem mem_intercalate (hpiece : piece ∈ pieces) (hx : x ∈ piece) :
    x ∈ mark.intercalate pieces := by
  refine List.mem_flatten.mpr ⟨piece, ?_, hx⟩
  induction pieces with
  | nil => cases hpiece
  | cons first rest ih =>
    cases rest with
    | nil => exact hpiece
    | cons second rest =>
      rw [List.intersperse_cons_cons, List.mem_cons, List.mem_cons]
      exact (List.mem_cons.mp hpiece).imp_right fun h => .inr (ih h)

theorem map_intercalate {β : Type} (f : α → β) :
    (mark.intercalate pieces).map f = (mark.map f).intercalate (pieces.map (List.map f)) := by
  induction pieces with
  | nil => rfl
  | cons first rest ih =>
    cases rest with
    | nil => simp
    | cons second rest =>
      rw [List.intercalate_cons_cons, List.map_append, List.map_append, ih]
      simp only [List.map_cons, List.intercalate_cons_cons]

theorem mem_of_mem_intercalate (h : x ∈ mark.intercalate pieces) :
    x ∈ mark ∨ ∃ piece ∈ pieces, x ∈ piece := by
  obtain ⟨piece, hpiece, hx⟩ := List.mem_flatten.mp h
  induction pieces with
  | nil => cases hpiece
  | cons first rest ih =>
    cases rest with
    | nil => exact .inr ⟨piece, hpiece, hx⟩
    | cons second rest =>
      rw [List.intersperse_cons_cons, List.mem_cons, List.mem_cons] at hpiece
      rcases hpiece with rfl | rfl | hpiece
      · exact .inr ⟨piece, List.mem_cons_self, hx⟩
      · exact .inl hx
      · refine (ih ?_ hpiece).imp_right fun ⟨p, hp, hxp⟩ => ⟨p, List.mem_cons_of_mem _ hp, hxp⟩
        exact List.mem_flatten.mpr ⟨piece, hpiece, hx⟩

end Joining

end TurtleGrammar.Text
