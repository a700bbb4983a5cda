import TurtleGrammar.Proofs.Drawing.Tags
import TurtleGrammar.Proofs.Text.Lines

/-! The title of a drawing. Three characters of it are written as entities, one replacement of the
whole text after the other, with the ampersand first. What is written ends where the first tag
behind it starts, and one reading of its entities gives the title back, also where the title itself
looks like an entity. So a document tells its title. -/

namespace TurtleGrammar

namespace Text

/-- A text with another text in each place of a code point. -/
def replace (text : Text) (c : CodePoint) (entity : Text) : Text :=
  text.flatMap fun d => if d = c then entity else [d]

/-- What stands between the first place of a mark and the first place of another one behind it. -/
def between? (start stop text : Text) : Option Text :=
  (splitFirst start text).bind fun (_, rest) => (splitFirst stop rest).map Prod.fst

theorem between?_of_passes {start stop lead inner : Text} (hstart : start ≠ []) (hstop : stop ≠ [])
    (hlead : Passes start lead) (hinner : Passes stop inner) (after : Text) :
    between? start stop (lead ++ (start ++ (inner ++ (stop ++ after)))) = some inner := by
  simp [between?, splitFirst_of_passes hstart hlead, splitFirst_of_passes hstop hinner]

end Text

namespace Markup

/-- The entities for the ampersand and for the marks of a tag, without their own mark. -/
def titleEntities : List Text := ["amp;", "lt;", "gt;"]

/-- A text in which no tag starts or ends and each ampersand starts one of these entities. -/
structure IsEscaped (shown : Text) : Prop where
  opening : opening ∉ shown
  closing : closing ∉ shown
  entity : ∀ rest, ampersand :: rest <:+ shown → ∃ name ∈ titleEntities, name <+: rest

/-- A text with these entities read once, from its start, and everything else as it is. -/
def unescape : Text → Text
  | .scalar '&' :: .scalar 'a' :: .scalar 'm' :: .scalar 'p' :: .scalar ';' :: rest =>
    ampersand :: unescape rest
  | .scalar '&' :: .scalar 'l' :: .scalar 't' :: .scalar ';' :: rest => opening :: unescape rest
  | .scalar '&' :: .scalar 'g' :: .scalar 't' :: .scalar ';' :: rest => closing :: unescape rest
  | c :: rest => c :: unescape rest
  | [] => []

variable {c : Text.CodePoint} {t u : Text}

theorem IsEscaped.append (ht : IsEscaped t) (hu : IsEscaped u) : IsEscaped (t ++ u) := by
  refine ⟨?_, ?_, ?_⟩
  · simpa using ⟨ht.opening, hu.opening⟩
  · simpa using ⟨ht.closing, hu.closing⟩
  · rintro rest ⟨before, hsplit⟩
    rcases List.append_eq_append_iff.mp hsplit with ⟨middle, rfl, hmiddle⟩ | ⟨middle, -, hmiddle⟩
    · cases middle with
      | nil => exact hu.entity rest ⟨[], by simpa using hmiddle⟩
      | cons c middle =>
        -- an entity that starts in the first text ends there too
        obtain ⟨rfl, rfl⟩ := List.cons.inj hmiddle
        obtain ⟨name, hname, hpre⟩ := ht.entity middle ⟨before, rfl⟩
        exact ⟨name, hname, hpre.trans (List.prefix_append _ _)⟩
    · exact hu.entity rest ⟨middle, hmiddle.symm⟩

theorem isEscaped_entity (name : Text) (h : name ∈ titleEntities) :
    IsEscaped (ampersand :: name) := by
  have hplain : ∀ name ∈ titleEntities, Markup.opening ∉ name ∧ Markup.closing ∉ name ∧
      ampersand ∉ name := by decide
  obtain ⟨hopening, hclosing, hampersand⟩ := hplain name h
  refine ⟨List.not_mem_cons_of_ne_of_not_mem (by decide) hopening,
    List.not_mem_cons_of_ne_of_not_mem (by decide) hclosing, fun rest hrest => ?_⟩
  rcases List.suffix_cons_iff.mp hrest with heq | hrest
  · obtain ⟨-, rfl⟩ := List.cons.inj heq
    exact ⟨rest, h, List.prefix_rfl⟩
  · exact absurd (hrest.subset List.mem_cons_self) hampersand

theorem isEscaped_singleton (hampersand : c ≠ ampersand) (hopening : c ≠ opening)
    (hclosing : c ≠ closing) : IsEscaped [c] := by
  refine ⟨List.mem_singleton.not.mpr hopening.symm, List.mem_singleton.not.mpr hclosing.symm,
    fun rest hrest => ?_⟩
  exact absurd (List.mem_singleton.mp (hrest.subset List.mem_cons_self)) hampersand.symm

theorem isEscaped_escapeCodePoint (c : Text.CodePoint) : IsEscaped (Svg.escapeCodePoint c) := by
  rcases escapeCodePoint_cases c with ⟨-, h⟩ | ⟨-, h⟩ | ⟨-, h⟩ | ⟨hc, h⟩ <;> rw [h]
  · exact isEscaped_entity "amp;" (by decide)
  · exact isEscaped_entity "lt;" (by decide)
  · exact isEscaped_entity "gt;" (by decide)
  · exact isEscaped_singleton hc.1 hc.2.1 hc.2.2

theorem isEscaped_escape (t : Text) : IsEscaped (Svg.escape t) := by
  induction t with
  | nil => exact ⟨List.not_mem_nil, List.not_mem_nil, fun _ h => nomatch List.suffix_nil.mp h⟩
  | cons c t ih =>
    rw [escape_cons]
    exact (isEscaped_escapeCodePoint c).append ih

theorem unescape_cons (h : c ≠ ampersand) (rest : Text) :
    unescape (c :: rest) = c :: unescape rest := by
  rw [unescape.eq_4]
  all_goals
    intro _ hc
    exact absurd hc h

theorem unescape_escape (t : Text) : unescape (Svg.escape t) = t := by
  induction t with
  | nil => rfl
  | cons c t ih =>
    rw [escape_cons]
    rcases escapeCodePoint_cases c with ⟨rfl, h⟩ | ⟨rfl, h⟩ | ⟨rfl, h⟩ | ⟨hc, h⟩ <;> rw [h]
    · exact congrArg (ampersand :: ·) ih
    · exact congrArg (opening :: ·) ih
    · exact congrArg (closing :: ·) ih
    · rw [List.singleton_append, unescape_cons hc.1, ih]

/-- Each of the three replacements sees the text that the one before it leaves. -/
theorem escape_eq_replace (t : Text) :
    Svg.escape t = ((t.replace ampersand "&amp;").replace opening "&lt;").replace closing "&gt;" := by
  simp only [Svg.escape, Text.replace, List.flatMap_assoc]
  refine List.flatMap_congr fun c _ => ?_
  rcases escapeCodePoint_cases c with ⟨rfl, h⟩ | ⟨rfl, h⟩ | ⟨rfl, h⟩ | ⟨hc, h⟩ <;> rw [h]
  · rfl
  · rfl
  · rfl
  · simp [hc]

end Markup

namespace Svg.Sheet

open Markup
open Text (Passes between? closed)

variable {sheet : Sheet} {document : Document} {title : Text}

/-- The text between the tags of the title, for a reader that takes the first of each. -/
def title? (document : Text) : Option Text := between? "<title>" "</title>" document

/-- A drawing with a title that is not empty is rendered to a document. -/
def IsTitled (title : Text) (document : Document) : Prop :=
  title ≠ [] ∧ ∃ (sheet : Sheet) (segments : List Segment),
    sheet.title = some title ∧ sheet.render segments = .ok document

theorem opening_not_mem_attr {name : String} {t : Text} (hname : opening ∉ Text.ofString name)
    (h : opening ∉ t) : opening ∉ attr name t := by
  simp +decide [attr, hname, h]

theorem opening_not_mem_sizeAttributes {name : String} (hname : opening ∉ Text.ofString name)
    (size : Option Float) :
    ∀ a ∈ sheet.sizeAttributes name size, opening ∉ attr a.1 a.2 := by
  cases size with
  | none => exact List.forall_mem_nil _
  | some x =>
    rw [sizeAttributes]
    split
    · exact List.forall_mem_nil _
    · exact List.forall_mem_singleton.mpr
        (opening_not_mem_attr hname (not_mem_numeral x (by decide)))

theorem opening_not_mem_rootAttributes (b : Bounds) :
    opening ∉ (sheet.rootAttributes b).flatMap fun a => attr a.1 a.2 := by
  have hview : opening ∉ attr "viewBox" (sheet.viewText b) :=
    opening_not_mem_attr (by decide) (not_mem_viewText b (by decide) (by decide))
  have hall : ∀ a ∈ sheet.rootAttributes b, opening ∉ attr a.1 a.2 := by
    simp only [rootAttributes, List.forall_mem_append, List.forall_mem_cons]
    exact ⟨⟨⟨by decide, by decide, hview, List.forall_mem_nil _⟩,
      opening_not_mem_sizeAttributes (by decide) _⟩, opening_not_mem_sizeAttributes (by decide) _⟩
  intro hmem
  obtain ⟨a, ha, hmem⟩ := List.mem_flatMap.mp hmem
  exact hall a ha hmem

/-- The title stands in the third line, behind the tag of the view. -/
theorem lines_of_title (htitle : sheet.title = some title) (hne : title ≠ []) (b : Bounds)
    (polylines : List (List Point)) :
    ∃ after : Text, (sheet.lines b polylines).flatMap closed =
      closed "<?xml version=\"1.0\" encoding=\"UTF-8\"?>" ++ closed (sheet.root b) ++ "  " ++
        ("<title>" ++ (escape title ++ ("</title>" ++ after))) := by
  have hlines : sheet.titleLines = ["  " ++ "<title>" ++ escape title ++ "</title>"] := by
    simp [titleLines, htitle, hne]
    rfl
  refine ⟨.scalar '\n' :: (sheet.backgroundLines b ++ sheet.drawingLines b polylines ++
    [Text.ofString "</svg>"]).flatMap closed, ?_⟩
  simp [lines, hlines, closed]

theorem passes_root (b : Bounds) : Passes "<title>" (closed (sheet.root b)) := by
  have hrest : opening ∉ Text.ofString "svg" ++
      ((sheet.rootAttributes b).flatMap fun a => attr a.1 a.2) ++ Text.ofString ">\n" := by
    simp +decide [-List.mem_flatMap, opening_not_mem_rootAttributes b]
  have hroot : closed (sheet.root b) = opening :: (Text.ofString "svg" ++
      ((sheet.rootAttributes b).flatMap fun a => attr a.1 a.2) ++ Text.ofString ">\n") := by
    rw [root_eq, tag, closed, List.append_assoc]
    rfl
  rw [hroot]
  exact Text.passes_cons_cons (by decide) hrest

theorem passes_lead (b : Bounds) : Passes (Text.ofString "<title>")
    (closed "<?xml version=\"1.0\" encoding=\"UTF-8\"?>" ++ closed (sheet.root b) ++
      Text.ofString "  ") := by
  have hdeclaration : Passes (Text.ofString "<title>")
      (closed "<?xml version=\"1.0\" encoding=\"UTF-8\"?>") := by
    refine Text.passes_cons_cons ?_ ?_ <;> decide
  exact (hdeclaration.append (passes_root b)).append (Text.passes_of_not_mem (by decide))

theorem title?_of_title (htitle : sheet.title = some title) (hne : title ≠ []) (b : Bounds)
    (polylines : List (List Point)) :
    title? ((sheet.lines b polylines).flatMap closed) = some (escape title) := by
  obtain ⟨after, hlines⟩ := lines_of_title htitle hne b polylines
  -- an escaped text holds no mark of a tag, so the first one behind it ends the title
  have hescape : Passes (Text.ofString "</title>") (escape title) :=
    Text.passes_of_not_mem (isEscaped_escape title).opening
  rw [title?, hlines]
  exact Text.between?_of_passes (by decide) (by decide) (passes_lead b) hescape after

theorem IsTitled.title? (h : IsTitled title document) :
    title? document.flatten = some (escape title) := by
  obtain ⟨hne, sheet, segments, htitle, hrender⟩ := h
  obtain ⟨b, -, hlines⟩ := flatten_of_render hrender
  rw [hlines]
  exact title?_of_title htitle hne b _

/-- What stands between the tags of the title is the title after the three replacements. No tag
starts or ends in it, each ampersand in it starts one of the three entities, and one reading of
these gives the title, as does a reading of all entities of markup. So no other title gives the same
text. -/
theorem titles_read_back (h : IsTitled title document) :
    ∃ shown, title? document.flatten = some shown ∧
      shown = ((title.replace ampersand "&amp;").replace opening "&lt;").replace closing "&gt;" ∧
      IsEscaped shown ∧ unescape shown = title ∧ decode? shown = some title ∧
      ∀ title' document', IsTitled title' document' →
        title? document'.flatten = some shown → title' = title := by
  refine ⟨escape title, h.title?, escape_eq_replace title, isEscaped_escape title,
    unescape_escape title, decode?_escape title, fun title' document' h' hshown => ?_⟩
  have hescape : escape title' = escape title := Option.some.inj (h'.title?.symm.trans hshown)
  calc title'
    _ = unescape (escape title') := (unescape_escape title').symm
    _ = unescape (escape title) := by rw [hescape]
    _ = title := unescape_escape title

theorem exists_titled (hne : title ≠ []) : ∃ document, IsTitled title document := by
  have hview : (view 10.0 ((Polyline.chain stub).map Polyline.points)).isOk = true := by
    decide +kernel
  obtain ⟨document, h⟩ : ∃ document,
      Sheet.render ⟨10.0, 3, true, none, none, .standard, none, some title⟩ stub = .ok document :=
    exists_render hview (show (0 : Int) ≤ 3 ∧ (3 : Int) ≤ 10 by decide)
  exact ⟨document, hne, _, _, rfl, h⟩

/-- A title with what looks like an entity, whole and in part. -/
theorem escaped_title_reads_back : ∃ document, IsTitled "&lt;b> & &amp" document ∧
    title? document.flatten = some (Text.ofString "&amp;lt;b&gt; &amp; &amp;amp") ∧
    unescape "&amp;lt;b&gt; &amp; &amp;amp" = "&lt;b> & &amp" := by
  obtain ⟨document, h⟩ : ∃ document, IsTitled "&lt;b> & &amp" document :=
    exists_titled (by decide)
  obtain ⟨shown, hshown, hreplaced, -, hread, -, -⟩ := titles_read_back h
  have hshape : shown = Text.ofString "&amp;lt;b&gt; &amp; &amp;amp" := by
    rw [hreplaced]
    decide +kernel
  subst hshape
  exact ⟨document, h, hshown, hread⟩

end Svg.Sheet

end TurtleGrammar
