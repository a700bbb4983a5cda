import Mathlib.Data.List.DropRight
import TurtleGrammar.Drawing.Svg

/-! Tags as a reader of markup sees them. The double quotes cut a tag into pieces, by turns a name
and a value, and in a value entities stand for the characters that markup keeps for itself. The
attributes of a tag are read back just when none of their values holds such a character. -/

namespace TurtleGrammar.Markup

/-- The mark around the value of an attribute. -/
def quote : Text.CodePoint := .scalar '"'

/-- The mark that starts a tag. -/
def opening : Text.CodePoint := .scalar '<'

/-- The mark that ends a tag. -/
def closing : Text.CodePoint := .scalar '>'

/-- The mark that starts an entity. -/
def ampersand : Text.CodePoint := .scalar '&'

/-! ### Values -/

/-- The entities that markup knows by itself, without their mark, and what they stand for. -/
def entities : List (Text × Text.CodePoint) :=
  [("amp;", .scalar '&'), ("lt;", .scalar '<'), ("gt;", .scalar '>'), ("quot;", .scalar '"'),
    ("apos;", .scalar '\'')]

/-- What a value stands for, after so many code points that belong to an entity. No tag starts
within a value, and the mark of an entity has one behind it. -/
def decodeAfter : Nat → Text → Option Text
  | _, [] => some []
  | skipped + 1, _ :: rest => decodeAfter skipped rest
  | 0, c :: rest =>
    if c = opening then none
    else if c = ampersand then
      match entities.find? fun entity => entity.1.isPrefixOf rest with
      | some (name, meant) => (decodeAfter name.length rest).map (meant :: ·)
      | none => none
    else (decodeAfter 0 rest).map (c :: ·)

/-- What a value stands for. -/
def decode? (value : Text) : Option Text := decodeAfter 0 value

/-- A text holds no character that markup keeps for itself, so that it can be a value as it is. -/
def IsPlain (t : Text) : Prop := quote ∉ t ∧ opening ∉ t ∧ ampersand ∉ t

instance (t : Text) : Decidable (IsPlain t) := inferInstanceAs (Decidable (_ ∧ _ ∧ _))

variable {t u value rest : Text} {n : Nat} {c meant : Text.CodePoint} {name : Text}

theorem entity_length
    (h : (entities.find? fun entity => entity.1.isPrefixOf rest) = some (name, meant)) :
    0 < name.length ∧ name.length ≤ rest.length := by
  have hnames : ∀ entity ∈ entities, 0 < entity.1.length := by decide
  have hfound : name.isPrefixOf rest = true :=
    List.find?_some (p := fun entity : Text × Text.CodePoint => entity.1.isPrefixOf rest) h
  have hlead : name <+: rest := List.isPrefixOf_iff_prefix.mp hfound
  exact ⟨hnames _ (List.mem_of_find?_eq_some h), hlead.length_le⟩

theorem length_le_of_decodeAfter (h : decodeAfter n t = some u) : u.length ≤ t.length - n := by
  induction t generalizing n u with
  | nil =>
    rw [decodeAfter.eq_1] at h
    cases h
    exact Nat.zero_le _
  | cons c rest ih =>
    cases n with
    | succ n =>
      rw [decodeAfter] at h
      simpa using ih h
    | zero =>
      rw [decodeAfter] at h
      split at h
      · cases h
      · split at h
        · split at h
          · next name meant hfind =>
            obtain ⟨u', hu', rfl⟩ := Option.map_eq_some_iff.mp h
            have := entity_length hfind
            have := ih hu'
            simp only [List.length_cons]
            omega
          · cases h
        · obtain ⟨u', hu', rfl⟩ := Option.map_eq_some_iff.mp h
          simpa using ih hu'

/-- An entity is longer than what it stands for. -/
theorem decode?_ampersand (rest : Text) :
    decode? (ampersand :: rest) ≠ some (ampersand :: rest) := by
  intro h
  rw [decode?, decodeAfter, if_neg (by decide), if_pos rfl] at h
  split at h
  · next name meant hfind =>
    obtain ⟨u, hu, hcons⟩ := Option.map_eq_some_iff.mp h
    obtain ⟨rfl, rfl⟩ := List.cons.inj hcons
    have := entity_length hfind
    have := length_le_of_decodeAfter hu
    omega
  · cases h

theorem decode?_cons (hopening : c ≠ opening) (hampersand : c ≠ ampersand) (rest : Text) :
    decode? (c :: rest) = (decode? rest).map (c :: ·) := by
  rw [decode?, decodeAfter, if_neg hopening, if_neg hampersand, decode?]

/-- A value stands for itself when no tag and no entity starts in it. -/
theorem decode?_eq_self_iff : decode? t = some t ↔ opening ∉ t ∧ ampersand ∉ t := by
  induction t with
  | nil => simp [decode?, decodeAfter]
  | cons c rest ih =>
    by_cases hopening : c = opening
    · subst hopening
      simp [decode?, decodeAfter]
    · by_cases hampersand : c = ampersand
      · subst hampersand
        simpa using decode?_ampersand rest
      · simp [decode?_cons hopening hampersand, ih, Ne.symm hopening, Ne.symm hampersand]

/-- How a code point of a title is written. -/
theorem escapeCodePoint_cases (c : Text.CodePoint) :
    c = ampersand ∧ Svg.escapeCodePoint c = "&amp;" ∨
      c = opening ∧ Svg.escapeCodePoint c = "&lt;" ∨
      c = closing ∧ Svg.escapeCodePoint c = "&gt;" ∨
      (c ≠ ampersand ∧ c ≠ opening ∧ c ≠ closing) ∧ Svg.escapeCodePoint c = [c] := by
  rw [Svg.escapeCodePoint]
  split
  · exact .inl ⟨‹_›, rfl⟩
  · split
    · exact .inr (.inl ⟨‹_›, rfl⟩)
    · split
      · exact .inr (.inr (.inl ⟨‹_›, rfl⟩))
      · exact .inr (.inr (.inr ⟨⟨‹_›, ‹_›, ‹_›⟩, rfl⟩))

theorem escape_cons (c : Text.CodePoint) (t : Text) :
    Svg.escape (c :: t) = Svg.escapeCodePoint c ++ Svg.escape t :=
  List.flatMap_cons

theorem decode?_escapeCodePoint (c : Text.CodePoint) (rest : Text) :
    decode? (Svg.escapeCodePoint c ++ rest) = (decode? rest).map (c :: ·) := by
  rcases escapeCodePoint_cases c with ⟨rfl, h⟩ | ⟨rfl, h⟩ | ⟨rfl, h⟩ | ⟨hc, h⟩ <;> rw [h]
  · rfl
  · rfl
  · rfl
  · exact decode?_cons hc.2.1 hc.1 rest

/-- The text of a title is escaped, so that what is written stands for it. -/
theorem decode?_escape (t : Text) : decode? (Svg.escape t) = some t := by
  induction t with
  | nil => rfl
  | cons c t ih => rw [escape_cons, decode?_escapeCodePoint, ih, Option.map_some]

/-! ### Attributes -/

/-- The name that stands before the value of an attribute: behind the last blank, and without the
sign of equality. -/
def nameIn (before : Text) : Text := (before.rtakeWhile (· ≠ .scalar ' ')).dropLast

/-- The attributes among the pieces of a tag, and none if a value is left open. -/
def attributesIn? : List Text → Option (List (Text × Text))
  | before :: value :: rest =>
    (decode? value).bind fun meant =>
      (attributesIn? rest).map fun attributes => (nameIn before, meant) :: attributes
  | [_] => some []
  | [] => none

/-- The attributes of a tag, by name and value. -/
def attributes? (tag : Text) : Option (List (Text × Text)) := attributesIn? (tag.splitOn quote)

/-- A tag with attributes, where the values are written as they are. -/
def tag (start : Text) (attributes : List (String × Text)) (finish : Text) : Text :=
  start ++ attributes.flatMap (fun a => Svg.attr a.1 a.2) ++ finish

/-- A tag without quotes but those around its values, and without blanks in names. -/
structure IsProper (start : Text) (attributes : List (String × Text)) (finish : Text) : Prop where
  start : quote ∉ start
  names : ∀ a ∈ attributes, quote ∉ Text.ofString a.1 ∧ .scalar ' ' ∉ Text.ofString a.1
  finish : quote ∉ finish

variable {start finish lead : Text} {a : String × Text} {attributes : List (String × Text)}
  {pieces : List Text} {read : List (Text × Text)}

theorem IsProper.tail (h : IsProper start (a :: attributes) finish) :
    IsProper [] attributes finish :=
  ⟨List.not_mem_nil, fun b hb => h.names b (List.mem_cons_of_mem _ hb), h.finish⟩

/-- What stands before the value of an attribute. -/
def before (lead : Text) (name : String) : Text :=
  lead ++ .scalar ' ' :: (Text.ofString name ++ [.scalar '='])

theorem nameIn_before {name : String} (h : .scalar ' ' ∉ Text.ofString name) :
    nameIn (before lead name) = Text.ofString name := by
  have hname : ∀ c ∈ (Text.ofString name ++ [Text.CodePoint.scalar '=']).reverse,
      decide (c ≠ .scalar ' ') = true := by
    intro c hc
    rw [List.mem_reverse, List.mem_append, List.mem_singleton] at hc
    rcases hc with hc | rfl
    · exact decide_eq_true fun heq => h (heq ▸ hc)
    · decide
  rw [nameIn, before, List.rtakeWhile, List.reverse_append, List.reverse_cons, List.append_assoc,
    List.takeWhile_append_of_pos hname, List.singleton_append,
    List.takeWhile_cons_of_neg (by decide), List.append_nil, List.reverse_reverse,
    List.dropLast_concat]

theorem tag_cons : tag start (a :: attributes) finish =
    before start a.1 ++ quote :: (a.2 ++ quote :: tag [] attributes finish) := by
  simp [tag, before, Svg.attr, quote, Text.ofString, Text.ofChars]

/-- The pieces of a tag up to its first value, those of the value, and the rest. -/
theorem splitOn_tag_cons (h : IsProper start (a :: attributes) finish) :
    (tag start (a :: attributes) finish).splitOn quote =
      before start a.1 :: (a.2.splitOn quote ++ (tag [] attributes finish).splitOn quote) := by
  have hbefore : quote ∉ before start a.1 := by
    have hname := (h.names a List.mem_cons_self).1
    simp only [before, List.mem_append, List.mem_cons, List.not_mem_nil, not_or]
    exact ⟨h.start, by decide, hname, by decide, not_false⟩
  rw [tag_cons, List.splitOn_append_cons_self_of_not_mem hbefore, List.splitOn_append_cons_self]

theorem splitOn_quote_eq (h : quote ∉ t) : t.splitOn quote = [t] := List.splitOn_eq_singleton h

theorem length_attributesIn? (h : attributesIn? pieces = some read) :
    pieces.length = 2 * read.length + 1 := by
  induction pieces using attributesIn?.induct generalizing read with
  | case1 before value rest ih =>
    rw [attributesIn?, Option.bind_eq_some_iff] at h
    obtain ⟨meant, -, h⟩ := h
    obtain ⟨read, hread, rfl⟩ := Option.map_eq_some_iff.mp h
    have := ih hread
    simp only [List.length_cons]
    omega
  | case2 =>
    cases h
    rfl
  | case3 => cases h

theorem one_le_length_splitOn (t : Text) : 1 ≤ (t.splitOn quote).length :=
  List.length_pos_of_ne_nil (List.splitOn_ne_nil quote t)

theorem not_mem_of_length_splitOn (h : (t.splitOn quote).length ≤ 1) : quote ∉ t := by
  intro hmem
  obtain ⟨front, back, rfl⟩ := List.append_of_mem hmem
  have := one_le_length_splitOn front
  have := one_le_length_splitOn back
  rw [List.splitOn_append_cons_self, List.length_append] at h
  omega

/-- Every attribute of a tag gives two pieces or more, and two only if its value has no quote. -/
theorem length_splitOn_tag (h : IsProper start attributes finish) :
    2 * attributes.length + 1 ≤ ((tag start attributes finish).splitOn quote).length ∧
      (((tag start attributes finish).splitOn quote).length ≤ 2 * attributes.length + 1 →
        ∀ a ∈ attributes, quote ∉ a.2) := by
  induction attributes generalizing start with
  | nil => exact ⟨one_le_length_splitOn _, fun _ => nofun⟩
  | cons a attributes ih =>
    obtain ⟨hle, hquotes⟩ := ih h.tail
    have hvalue := one_le_length_splitOn a.2
    simp only [splitOn_tag_cons h, List.length_cons, List.length_append]
    refine ⟨by omega, fun hlength => List.forall_mem_cons.mpr ⟨?_, hquotes (by omega)⟩⟩
    exact not_mem_of_length_splitOn (by omega)

theorem attributes?_tag (h : IsProper start attributes finish)
    (hquote : ∀ a ∈ attributes, quote ∉ a.2) :
    attributes? (tag start attributes finish) =
        some (attributes.map fun a => (Text.ofString a.1, a.2)) ↔
      ∀ a ∈ attributes, decode? a.2 = some a.2 := by
  induction attributes generalizing start with
  | nil =>
    have hnone : quote ∉ tag start [] finish := by
      simpa [tag] using ⟨h.start, h.finish⟩
    simp [attributes?, splitOn_quote_eq hnone, attributesIn?]
  | cons a attributes ih =>
    rw [List.forall_mem_cons] at hquote ⊢
    rw [attributes?, splitOn_tag_cons h, splitOn_quote_eq hquote.1, List.singleton_append,
      attributesIn?, nameIn_before (h.names a List.mem_cons_self).2, ← attributes?,
      ← ih h.tail hquote.2]
    simp [Option.bind_eq_some_iff, ← and_assoc]

/-- A tag is read back as it was given just when its values are plain. -/
theorem attributes?_tag_iff (h : IsProper start attributes finish) :
    attributes? (tag start attributes finish) =
        some (attributes.map fun a => (Text.ofString a.1, a.2)) ↔
      ∀ a ∈ attributes, IsPlain a.2 := by
  constructor
  · intro hread
    have hlength := length_attributesIn? hread
    rw [List.length_map] at hlength
    have hquote := (length_splitOn_tag h).2 hlength.le
    intro a ha
    exact ⟨hquote a ha, decode?_eq_self_iff.mp ((attributes?_tag h hquote).mp hread a ha)⟩
  · intro hplain
    exact (attributes?_tag h fun a ha => (hplain a ha).1).mpr fun a ha =>
      decode?_eq_self_iff.mpr (hplain a ha).2

end TurtleGrammar.Markup
