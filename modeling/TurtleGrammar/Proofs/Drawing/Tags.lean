import TurtleGrammar.Proofs.Drawing.Markup
import TurtleGrammar.Proofs.Drawing.Texts
import TurtleGrammar.Proofs.Grammar.Reading
import TurtleGrammar.Proofs.Number.Compact
import TurtleGrammar.Proofs.Text.Cutting
import TurtleGrammar.Proofs.Text.Lines

/-! The tags of a drawing. A document holds the tag of the view, the tag of the rectangle behind the
drawing if there is one, the tag of the group that is flipped, and a tag for each polyline, with the
values of their attributes as they are. -/

namespace TurtleGrammar.Svg.Sheet

open Markup

variable (sheet : Sheet)

/-- The numbers of the view: its least coordinates, its width and its height. -/
def viewNumbers (b : Bounds) : List Float := [b.minX, b.minY, b.width, b.height]

/-- The numbers of the view as they are written. -/
def viewText (b : Bounds) : Text := [.scalar ' '].intercalate ((viewNumbers b).map sheet.numeral)

/-- The points of a polyline as they are written. -/
def pointsText (points : List Point) : Text :=
  [.scalar ' '].intercalate (points.map sheet.pointText)

/-- The attribute of a size, if it is there. -/
def sizeAttributes (name : String) : Option Float → List (String × Text)
  | some x => if x == 0.0 then [] else [(name, sheet.numeral x)]
  | none => []

/-- The attributes of the tag of the view. -/
def rootAttributes (b : Bounds) : List (String × Text) :=
  [("xmlns", Text.ofString "http://www.w3.org/2000/svg"), ("version", Text.ofString "1.1"),
    ("viewBox", sheet.viewText b)] ++
  sheet.sizeAttributes "width" sheet.width ++ sheet.sizeAttributes "height" sheet.height

/-- The attributes of the rectangle behind the drawing. -/
def rectAttributes (b : Bounds) (colour : Text) : List (String × Text) :=
  [("x", sheet.numeral b.minX), ("y", sheet.numeral b.minY), ("width", sheet.numeral b.width),
    ("height", sheet.numeral b.height), ("fill", colour)]

/-- The attributes of the group that is flipped. -/
def groupAttributes (b : Bounds) : List (String × Text) :=
  [("transform", "translate(0," ++ sheet.numeral (b.minY + b.maxY) ++ ") scale(1,-1)")]

/-- The attributes of a polyline. -/
def polylineAttributes (points : List Point) : List (String × Text) :=
  [("points", sheet.pointsText points), ("stroke", sheet.style.stroke),
    ("stroke-width", sheet.numeral sheet.style.strokeWidth), ("fill", sheet.style.fill),
    ("stroke-linecap", sheet.style.lineCap), ("stroke-linejoin", sheet.style.lineJoin)]

/-- The colour behind the drawing, if one is given that is shown. -/
def shownBackground? : Option Text :=
  sheet.background.filter fun colour => !(colour.isEmpty || colour.shown.toLower == "none")

/-- A document holds the tags of a drawing. -/
structure Shows (b : Bounds) (polylines : List (List Point)) (document : Text) : Prop where
  root : tag "<svg" (sheet.rootAttributes b) ">" <:+: document
  background : ∀ colour, sheet.shownBackground? = some colour →
    tag "<rect" (sheet.rectAttributes b colour) " />" <:+: document
  group : sheet.flip = true → tag "<g" (sheet.groupAttributes b) ">" <:+: document
  polylines : ∀ points ∈ polylines,
    tag "<polyline" (sheet.polylineAttributes points) " />" <:+: document

variable {sheet}

theorem within_intercalate {sep line : Text} {lines : List Text} (h : line ∈ lines) :
    line <:+: sep.intercalate lines := by
  induction lines with
  | nil => cases h
  | cons first rest ih =>
    cases rest with
    | nil =>
      rw [List.intercalate_singleton, List.mem_singleton.mp h]
    | cons second rest =>
      rw [List.intercalate_cons_cons]
      rcases List.mem_cons.mp h with rfl | h
      · exact (List.prefix_append _ _).isInfix.trans (List.prefix_append _ _).isInfix
      · exact (ih h).trans (List.suffix_append _ _).isInfix

theorem sizeAttribute_eq (name : String) (size : Option Float) :
    sheet.sizeAttribute name size =
      (sheet.sizeAttributes name size).flatMap fun a => attr a.1 a.2 := by
  cases size with
  | none => rfl
  | some x =>
    rw [sizeAttribute, sizeAttributes]
    split <;> simp

theorem root_eq (b : Bounds) : sheet.root b = tag "<svg" (sheet.rootAttributes b) ">" := by
  simp [root, tag, rootAttributes, viewText, viewNumbers, sizeAttribute_eq]

theorem polylineTag_eq (points : List Point) :
    sheet.polylineTag points = tag "<polyline" (sheet.polylineAttributes points) " />" := by
  simp [polylineTag, tag, polylineAttributes, pointsText, styleAttributes]

theorem within_indented (indent : String) (t : Text) : t <:+: Text.ofString indent ++ t :=
  (List.suffix_append _ _).isInfix

theorem background_within {b : Bounds} {colour : Text} (h : sheet.shownBackground? = some colour) :
    ∃ line ∈ sheet.backgroundLines b,
      tag "<rect" (sheet.rectAttributes b colour) " />" <:+: line := by
  obtain ⟨hcolour, hshown⟩ := Option.filter_eq_some_iff.mp h
  rw [Bool.not_eq_true'] at hshown
  simp only [backgroundLines, hcolour, hshown]
  refine ⟨_, List.mem_singleton_self _, ?_⟩
  have hstart : Text.ofString "  <rect" = Text.ofString "  " ++ Text.ofString "<rect" := rfl
  rw [hstart]
  simpa [tag, rectAttributes] using
    within_indented "  " (tag "<rect" (sheet.rectAttributes b colour) " />")

theorem group_within {b : Bounds} {polylines : List (List Point)} (h : sheet.flip = true) :
    ∃ line ∈ sheet.drawingLines b polylines, tag "<g" (sheet.groupAttributes b) ">" <:+: line := by
  rw [drawingLines, if_pos h]
  refine ⟨_, List.mem_append_left _ List.mem_cons_self, ?_⟩
  have hstart : Text.ofString "  <g" = Text.ofString "  " ++ Text.ofString "<g" := rfl
  rw [hstart]
  simpa [tag, groupAttributes] using within_indented "  " (tag "<g" (sheet.groupAttributes b) ">")

theorem polyline_within {b : Bounds} {polylines : List (List Point)} {points : List Point}
    (h : points ∈ polylines) : ∃ line ∈ sheet.drawingLines b polylines,
      tag "<polyline" (sheet.polylineAttributes points) " />" <:+: line := by
  rw [drawingLines, ← polylineTag_eq]
  split
  · exact ⟨_, List.mem_append_left _ (List.mem_cons_of_mem _ (List.mem_map_of_mem h)),
      within_indented "    " _⟩
  · exact ⟨_, List.mem_map_of_mem h, within_indented "  " _⟩

/-- A document is made of the lines for its view. -/
theorem of_render {segments : List Segment} {document : Document}
    (h : sheet.render segments = .ok document) :
    ∃ b, view sheet.margin ((Polyline.chain segments).map Polyline.points) = .ok b ∧
      document = [[.scalar '\n'].intercalate
        (sheet.lines b ((Polyline.chain segments).map Polyline.points)), [.scalar '\n']] := by
  rw [render, renderPolylines] at h
  obtain ⟨b, hb, h⟩ := bind_eq_ok.mp h
  obtain ⟨_, -, h⟩ := bind_eq_ok.mp h
  cases h
  exact ⟨b, mapError_eq_ok.mp hb, rfl⟩

/-- Each of the lines of a document is ended by a line feed. -/
theorem flatten_of_render {segments : List Segment} {document : Document}
    (h : sheet.render segments = .ok document) :
    ∃ b, view sheet.margin ((Polyline.chain segments).map Polyline.points) = .ok b ∧
      document.flatten =
        (sheet.lines b ((Polyline.chain segments).map Polyline.points)).flatMap Text.closed := by
  obtain ⟨b, hview, rfl⟩ := of_render h
  have hne : sheet.lines b ((Polyline.chain segments).map Polyline.points) ≠ [] :=
    List.cons_ne_nil _ _
  refine ⟨b, hview, ?_⟩
  rw [← Text.closed_joined hne, Text.closed, Text.joined, List.flatten_cons, List.flatten_singleton]

theorem shows_of_render {segments : List Segment} {document : Document}
    (h : sheet.render segments = .ok document) :
    ∃ b, view sheet.margin ((Polyline.chain segments).map Polyline.points) = .ok b ∧
      sheet.Shows b ((Polyline.chain segments).map Polyline.points) document.flatten := by
  obtain ⟨b, hview, rfl⟩ := of_render h
  generalize (Polyline.chain segments).map Polyline.points = polylines at hview ⊢
  have hline : ∀ line ∈ sheet.lines b polylines, line <:+:
      List.flatten [[.scalar '\n'].intercalate (sheet.lines b polylines), [.scalar '\n']] := by
    intro line hline
    exact (within_intercalate hline).trans (List.prefix_append _ _).isInfix
  have hmem : ∀ line,
      line ∈ sheet.root b :: (sheet.backgroundLines b ++ sheet.drawingLines b polylines) →
        line ∈ sheet.lines b polylines := by
    intro line h
    simp only [lines, List.mem_cons, List.mem_append] at h ⊢
    tauto
  refine ⟨b, hview, ?_, fun colour hcolour => ?_, fun hflip => ?_,
    fun points hpoints => ?_⟩
  · rw [← root_eq]
    exact hline _ (hmem _ List.mem_cons_self)
  · obtain ⟨line, hmem', hwithin⟩ := background_within (b := b) hcolour
    exact hwithin.trans (hline _ (hmem _ (by simp [hmem'])))
  · obtain ⟨line, hmem', hwithin⟩ : ∃ line ∈ sheet.drawingLines b polylines, _ := group_within hflip
    exact hwithin.trans (hline _ (hmem _ (by simp [hmem'])))
  · obtain ⟨line, hmem', hwithin⟩ := polyline_within (b := b) hpoints
    exact hwithin.trans (hline _ (hmem _ (by simp [hmem'])))

/-- A drawing with a view and with decimals that configurations may have is rendered. -/
theorem exists_render {segments : List Segment}
    (hview : (view sheet.margin ((Polyline.chain segments).map Polyline.points)).isOk = true)
    (hprecision : 0 ≤ sheet.precision ∧ sheet.precision ≤ 10) :
    ∃ document, sheet.render segments = .ok document := by
  rw [render, renderPolylines, places?_of_le hprecision]
  generalize (Polyline.chain segments).map Polyline.points = polylines at hview ⊢
  cases h : view sheet.margin polylines with
  | error e =>
    rw [h] at hview
    cases hview
  | ok b => exact ⟨_, rfl⟩

/-! ### What is read back -/

/-- A numeral in a drawing holds digits and the marks of numerals only. -/
theorem numeral_chars {c : Text.CodePoint} {x : Float} (h : c ∈ sheet.numeral x) :
    ∃ d : Char, c = .scalar d ∧ (Text.isDigit d ∨ d ∈ Number.Compact.marks) := by
  rw [numeral, Number.Compact.text, Text.ofString, String.toList_ofList, Text.ofChars,
    List.mem_map] at h
  obtain ⟨d, hd, rfl⟩ := h
  exact ⟨d, rfl, Number.Compact.isDigit_or_mem_marks hd⟩

theorem not_mem_numeral {d : Char} (x : Float)
    (h : Text.isDigit d = false ∧ d ∉ Number.Compact.marks) :
    Text.CodePoint.scalar d ∉ sheet.numeral x := by
  intro hmem
  obtain ⟨d', hd, hmem⟩ := numeral_chars hmem
  cases hd
  rw [h.1] at hmem
  exact hmem.elim nofun h.2

theorem isPlain_numeral (x : Float) : IsPlain (sheet.numeral x) :=
  ⟨not_mem_numeral x (by decide), not_mem_numeral x (by decide), not_mem_numeral x (by decide)⟩

theorem not_mem_pointText {d : Char} (p : Point)
    (h : Text.isDigit d = false ∧ d ∉ Number.Compact.marks) (hcomma : d ≠ ',') :
    Text.CodePoint.scalar d ∉ sheet.pointText p := by
  rw [pointText, List.mem_append, List.mem_append]
  rintro ((hmem | hmem) | hmem)
  · exact not_mem_numeral _ h hmem
  · exact hcomma (Text.CodePoint.scalar.inj (List.mem_singleton.mp hmem))
  · exact not_mem_numeral _ h hmem

theorem not_mem_intercalate {d : Char} {pieces : List Text} (hblank : d ≠ ' ')
    (h : ∀ piece ∈ pieces, Text.CodePoint.scalar d ∉ piece) :
    Text.CodePoint.scalar d ∉ [.scalar ' '].intercalate pieces := by
  intro hmem
  rcases Text.mem_of_mem_intercalate hmem with hmem | ⟨piece, hpiece, hmem⟩
  · exact hblank (Text.CodePoint.scalar.inj (List.mem_singleton.mp hmem))
  · exact h piece hpiece hmem

theorem not_mem_viewText {d : Char} (b : Bounds)
    (h : Text.isDigit d = false ∧ d ∉ Number.Compact.marks) (hblank : d ≠ ' ') :
    Text.CodePoint.scalar d ∉ sheet.viewText b := by
  refine not_mem_intercalate hblank fun piece hpiece => ?_
  obtain ⟨x, -, rfl⟩ := List.mem_map.mp hpiece
  exact not_mem_numeral x h

theorem not_mem_points {d : Char} (points : List Point)
    (h : Text.isDigit d = false ∧ d ∉ Number.Compact.marks) (hblank : d ≠ ' ') (hcomma : d ≠ ',') :
    Text.CodePoint.scalar d ∉ sheet.pointsText points := by
  refine not_mem_intercalate hblank fun piece hpiece => ?_
  obtain ⟨p, -, rfl⟩ := List.mem_map.mp hpiece
  exact not_mem_pointText p h hcomma

theorem isPlain_points (points : List Point) : IsPlain (sheet.pointsText points) :=
  ⟨not_mem_points points (by decide) (by decide) (by decide),
    not_mem_points points (by decide) (by decide) (by decide),
    not_mem_points points (by decide) (by decide) (by decide)⟩

/-- Attributes by the texts of their names. -/
def named (attributes : List (String × Text)) : List (Text × Text) :=
  attributes.map fun a => (Text.ofString a.1, a.2)

/-- The texts that a sheet gives for lines and colours stand in its drawings as they are. A reader
of the markup finds them, and no attributes but those meant, just when no text holds a double quote
or starts a tag or an entity. -/
theorem given_texts_read_back_iff {segments : List Segment} {document : Document}
    (h : sheet.render segments = .ok document) :
    ∃ b, view sheet.margin ((Polyline.chain segments).map Polyline.points) = .ok b ∧
      sheet.Shows b ((Polyline.chain segments).map Polyline.points) document.flatten ∧
      (∀ points, attributes? (tag "<polyline" (sheet.polylineAttributes points) " />") =
          some (named (sheet.polylineAttributes points)) ↔
        ∀ t ∈ [sheet.style.stroke, sheet.style.fill, sheet.style.lineCap, sheet.style.lineJoin],
          IsPlain t) ∧
      ∀ colour, sheet.shownBackground? = some colour →
        (attributes? (tag "<rect" (sheet.rectAttributes b colour) " />") =
          some (named (sheet.rectAttributes b colour)) ↔ IsPlain colour) := by
  obtain ⟨b, hview, hshows⟩ := shows_of_render h
  refine ⟨b, hview, hshows, fun points => ?_, fun colour _ => ?_⟩
  · refine (attributes?_tag_iff ⟨by decide, ?_, by decide⟩).trans ?_
    · simp only [polylineAttributes, List.forall_mem_cons]
      decide
    · simp [polylineAttributes, isPlain_numeral, isPlain_points]
  · refine (attributes?_tag_iff ⟨by decide, ?_, by decide⟩).trans ?_
    · simp only [rectAttributes, List.forall_mem_cons]
      decide
    · simp [rectAttributes, isPlain_numeral]

/-- A sheet for lines of a colour. -/
def coloured (stroke : Text) : Sheet :=
  ⟨10.0, 3, true, none, none, { Style.standard with stroke }, none, none⟩

/-- One segment from the origin. -/
def stub : List Segment := [⟨.ofPoint ⟨0.0, 0.0⟩, .ofPoint ⟨1.0, 2.0⟩⟩]

theorem red_lines_read_back : ∃ document, (coloured "red").render stub = .ok document ∧
    ∀ points, attributes? (tag "<polyline" ((coloured "red").polylineAttributes points) " />") =
      some (named ((coloured "red").polylineAttributes points)) := by
  obtain ⟨document, h⟩ : ∃ document, (coloured "red").render stub = .ok document :=
    exists_render (by decide +kernel) (by decide)
  obtain ⟨b, -, -, hread, -⟩ := given_texts_read_back_iff h
  exact ⟨document, h, fun points => (hread points).mpr (by decide)⟩

/-- A colour with a double quote in it ends its attribute and adds another. -/
theorem quoted_colour_adds_attribute :
    ∃ sheet segments document, Sheet.render sheet segments = .ok document ∧
      sheet.style.stroke = Text.ofString "red\" onload=\"alert(1)" ∧
      ∃ points ∈ (Polyline.chain segments).map Polyline.points,
        tag "<polyline" (sheet.polylineAttributes points) " />" <:+: document.flatten ∧
        attributes? (tag "<polyline" (sheet.polylineAttributes points) " />") = some (named
          [("points", "0,0 1,2"), ("stroke", "red"), ("onload", "alert(1)"), ("stroke-width", "1"),
            ("fill", "none"), ("stroke-linecap", "round"), ("stroke-linejoin", "round")]) := by
  obtain ⟨document, h⟩ : ∃ document,
      (coloured "red\" onload=\"alert(1)").render stub = .ok document :=
    exists_render (by decide +kernel) (by decide)
  obtain ⟨b, -, hshows⟩ := shows_of_render h
  have hpoints : [⟨0.0, 0.0⟩, ⟨1.0, 2.0⟩] ∈ (Polyline.chain stub).map Polyline.points :=
    List.mem_singleton_self _
  exact ⟨_, _, _, h, rfl, _, hpoints, hshows.polylines _ hpoints, by decide +kernel⟩

end TurtleGrammar.Svg.Sheet
