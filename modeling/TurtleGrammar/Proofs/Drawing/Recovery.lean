import TurtleGrammar.Proofs.Drawing.Numbers
import TurtleGrammar.Proofs.Files.Reading
import TurtleGrammar.Proofs.Text.Lines

/-! What the file of a drawing tells. A reader that knows the sheet finds in it the numerals of all
points, polyline by polyline, whatever texts the sheet gives. The numbers of the view end at a mark
that no numeral holds, so the lines before the drawing can be told from what follows them, and each
line of the drawing starts with a polyline or ends the drawing. -/

namespace TurtleGrammar

namespace Text

/-- Texts none of which goes on in another one, so that it can be told where one of them ends. -/
def PrefixFree {α : Type} (f : α → Text) : Prop :=
  ∀ a a' rest rest', f a ++ rest = f a' ++ rest' → f a = f a' ∧ rest = rest'

variable {α : Type} {f g : α → Text} {c : CodePoint} {t t' rest rest' : Text}

/-- A text ends where a mark stands first that it does not hold. -/
theorem append_mark_inj (ht : c ∉ t) (ht' : c ∉ t') (h : t ++ c :: rest = t' ++ c :: rest') :
    t = t' ∧ rest = rest' := by
  induction t generalizing t' with
  | nil =>
    cases t' with
    | nil =>
      cases h
      exact ⟨rfl, rfl⟩
    | cons d t' =>
      cases h
      exact absurd List.mem_cons_self ht'
  | cons d t ih =>
    cases t' with
    | nil =>
      cases h
      exact absurd List.mem_cons_self ht
    | cons d' t' =>
      rw [List.mem_cons, not_or] at ht ht'
      obtain ⟨rfl, htail⟩ := List.cons.inj h
      obtain ⟨rfl, hrest⟩ := ih ht.2 ht'.2 htail
      exact ⟨rfl, hrest⟩

namespace PrefixFree

theorem const (t : Text) : PrefixFree fun _ : α => t :=
  fun _ _ _ _ h => ⟨rfl, List.append_cancel_left h⟩

theorem append (hf : PrefixFree f) (hg : PrefixFree g) : PrefixFree fun a => f a ++ g a := by
  intro a a' rest rest' h
  rw [List.append_assoc, List.append_assoc] at h
  obtain ⟨hfirst, h⟩ := hf a a' _ _ h
  obtain ⟨hsecond, h⟩ := hg a a' _ _ h
  exact ⟨congrArg₂ (· ++ ·) hfirst hsecond, h⟩

end PrefixFree

end Text

namespace Svg

open Text (PrefixFree closed)
open Markup (quote)

theorem attr_append_inj {name : String} {t t' rest rest' : Text} (ht : quote ∉ t)
    (ht' : quote ∉ t') (h : attr name t ++ rest = attr name t' ++ rest') :
    t = t' ∧ rest = rest' := by
  simp only [attr, List.append_assoc] at h
  have hvalue := List.append_cancel_left (List.append_cancel_left (List.append_cancel_left h))
  exact Text.append_mark_inj ht ht' hvalue

theorem prefixFree_attr {α : Type} {f : α → Text} (name : String) (h : ∀ a, quote ∉ f a) :
    PrefixFree fun a => attr name (f a) := by
  intro a a' rest rest' happend
  obtain ⟨hvalue, hrest⟩ := attr_append_inj (h a) (h a') happend
  exact ⟨congrArg (attr name) hvalue, hrest⟩

namespace Sheet

variable (sheet : Sheet)

/-- The line that opens the group that is flipped, if it is. -/
def groupLines (b : Bounds) : List Text :=
  if sheet.flip then
    ["  <g" ++ attr "transform" ("translate(0," ++ sheet.numeral (b.minY + b.maxY) ++
      ") scale(1,-1)") ++ ">"]
  else []

/-- The lines before the polylines. -/
def headLines (b : Bounds) : List Text :=
  let opening : List Text := ["<?xml version=\"1.0\" encoding=\"UTF-8\"?>", sheet.root b]
  opening ++ sheet.titleLines ++ sheet.backgroundLines b ++ sheet.groupLines b

/-- The line of a polyline. -/
def polylineLine (points : List Point) : Text :=
  (if sheet.flip then "    " else "  ") ++ sheet.polylineTag points

/-- The lines after the polylines. -/
def footLines : List Text := (if sheet.flip then ["  </g>"] else []) ++ ["</svg>"]

variable {sheet} {b b' : Bounds} {polylines polylines' : List (List Point)}
  {points points' : List Point} {rest rest' : Text}

theorem lines_eq (b : Bounds) (polylines : List (List Point)) :
    sheet.lines b polylines =
      sheet.headLines b ++ (polylines.map sheet.polylineLine ++ sheet.footLines) := by
  cases hflip : sheet.flip <;>
    simp [lines, drawingLines, headLines, groupLines, polylineLine, footLines, hflip]

theorem flatMap_lines (b : Bounds) (polylines : List (List Point)) :
    (sheet.lines b polylines).flatMap closed =
      (sheet.headLines b).flatMap closed ++
        (polylines.map sheet.polylineLine ++ sheet.footLines).flatMap closed := by
  rw [lines_eq, List.flatMap_append]

/-! ### The lines before the drawing -/

theorem quote_not_mem_numeral (x : Float) : quote ∉ sheet.numeral x :=
  not_mem_numeral x (by decide)

theorem prefixFree_root : PrefixFree fun b => sheet.root b := by
  have hview := prefixFree_attr (f := fun b => sheet.viewText b) "viewBox"
    fun b => not_mem_viewText b (by decide) (by decide)
  exact ((((((PrefixFree.const _).append (.const _)).append (.const _)).append hview).append
    (.const _)).append (.const _)).append (.const _)

/-- An attribute whose value is a numeral of the view. -/
theorem prefixFree_numeral (name : String) (f : Bounds → Float) :
    PrefixFree fun b => attr name (sheet.numeral (f b)) :=
  prefixFree_attr name fun _ => quote_not_mem_numeral _

theorem prefixFree_closed {α : Type} {f : α → Text} (h : PrefixFree f) :
    PrefixFree fun a => closed (f a) :=
  h.append (.const _)

theorem prefixFree_backgroundLines :
    PrefixFree fun b => (sheet.backgroundLines b).flatMap closed := by
  simp only [backgroundLines]
  split
  · split
    · exact .const _
    · simp only [List.flatMap_singleton]
      exact prefixFree_closed <| ((((((PrefixFree.const _).append (prefixFree_numeral _ _)).append
        (prefixFree_numeral _ _)).append (prefixFree_numeral _ _)).append
        (prefixFree_numeral _ _)).append (.const _)).append (.const _)
  · exact .const _

theorem prefixFree_groupLines : PrefixFree fun b => (sheet.groupLines b).flatMap closed := by
  simp only [groupLines]
  split
  · simp only [List.flatMap_singleton]
    refine prefixFree_closed <| ((PrefixFree.const _).append
      (prefixFree_attr _ fun b => ?_)).append (.const _)
    simp only [List.mem_append, not_or]
    exact ⟨⟨by decide, quote_not_mem_numeral _⟩, by decide⟩
  · exact .const _

/-- The lines before the drawing depend on the view only. -/
theorem prefixFree_headLines : PrefixFree fun b => (sheet.headLines b).flatMap closed := by
  simp only [headLines, List.flatMap_append, List.flatMap_cons, List.flatMap_nil, List.append_nil]
  exact ((((PrefixFree.const _).append (prefixFree_closed prefixFree_root)).append
    (.const _)).append prefixFree_backgroundLines).append prefixFree_groupLines

/-! ### The drawing -/

theorem quote_not_mem_pointsText (points : List Point) : quote ∉ sheet.pointsText points :=
  not_mem_points points (by decide) (by decide) (by decide)

/-- The line of a polyline tells its points and where it ends. -/
theorem polylineLine_append_inj
    (h : closed (sheet.polylineLine points) ++ rest =
      closed (sheet.polylineLine points') ++ rest') :
    sheet.pointsText points = sheet.pointsText points' ∧ rest = rest' := by
  simp only [closed, polylineLine, polylineTag, List.append_assoc] at h
  have h := List.append_cancel_left (List.append_cancel_left h)
  obtain ⟨hpoints, h⟩ := attr_append_inj (quote_not_mem_pointsText points)
    (quote_not_mem_pointsText points') h
  exact ⟨hpoints, List.append_cancel_left (List.append_cancel_left (List.append_cancel_left h))⟩

/-- What ends the drawing is no polyline. -/
theorem footLines_ne :
    sheet.footLines.flatMap closed ≠ closed (sheet.polylineLine points) ++ rest := by
  intro h
  have hstart := congrArg (List.take 4) h
  rw [footLines, polylineLine] at hstart
  generalize sheet.flip = flip at hstart
  cases flip <;> cases hstart

theorem pointsText_of_drawing
    (h : (polylines.map sheet.polylineLine ++ sheet.footLines).flatMap closed =
      (polylines'.map sheet.polylineLine ++ sheet.footLines).flatMap closed) :
    polylines.map sheet.pointsText = polylines'.map sheet.pointsText := by
  induction polylines generalizing polylines' with
  | nil =>
    cases polylines' with
    | nil => rfl
    | cons points' polylines' => exact absurd h footLines_ne
  | cons points polylines ih =>
    cases polylines' with
    | nil => exact absurd h.symm footLines_ne
    | cons points' polylines' =>
      simp only [List.map_cons, List.cons_append, List.flatMap_cons] at h
      obtain ⟨hpoints, hrest⟩ := polylineLine_append_inj h
      rw [List.map_cons, List.map_cons, hpoints, ih hrest]

/-- Two documents on one sheet that are written alike have the same points. -/
theorem pointsText_of_lines
    (h : (sheet.lines b polylines).flatMap closed = (sheet.lines b' polylines').flatMap closed) :
    polylines.map sheet.pointsText = polylines'.map sheet.pointsText := by
  rw [flatMap_lines, flatMap_lines] at h
  obtain ⟨-, hdrawing⟩ := prefixFree_headLines b b' _ _ h
  exact pointsText_of_drawing hdrawing

/-- The numerals of the points of each polyline. -/
def pointNumerals (sheet : Sheet) (segments : List Segment) : List (List (List Text)) :=
  (Polyline.chain segments).map fun p =>
    p.points.map fun q => [sheet.numeral q.x, sheet.numeral q.y]

theorem map_splitOn_pointsText (hne : points ≠ []) :
    ((sheet.pointsText points).splitOn (.scalar ' ')).map (List.splitOn (.scalar ',')) =
      points.map fun q => [sheet.numeral q.x, sheet.numeral q.y] := by
  rw [splitOn_pointsText hne, List.map_map]
  refine List.map_congr_left fun q _ => ?_
  rw [Function.comp_apply, splitOn_pointText]

theorem pointNumerals_eq (segments : List Segment) :
    sheet.pointNumerals segments =
      (((Polyline.chain segments).map Polyline.points).map sheet.pointsText).map
        fun t => (t.splitOn (.scalar ' ')).map (List.splitOn (.scalar ',')) := by
  rw [pointNumerals, List.map_map, List.map_map]
  refine List.map_congr_left fun p _ => ?_
  have hne : p.points ≠ [] := List.cons_ne_nil _ _
  rw [Function.comp_apply, Function.comp_apply, map_splitOn_pointsText hne]

/-! ### The lines of a document -/

/-- A line that starts with the tag of a polyline, after blanks. -/
def isPolylineLine (line : Text) : Bool :=
  (Text.ofString "<polyline").isPrefixOf (line.dropWhile (· = .scalar ' '))

theorem isPolylineLine_polylineLine (points : List Point) :
    isPolylineLine (sheet.polylineLine points) = true := by
  rw [polylineLine]
  cases sheet.flip <;> rfl

theorem isPolylineLine_headLines : ∀ line ∈ sheet.headLines b, isPolylineLine line = false := by
  simp only [headLines, titleLines, backgroundLines, groupLines, List.forall_mem_append,
    List.forall_mem_cons]
  refine ⟨⟨⟨⟨rfl, rfl, List.forall_mem_nil _⟩, ?_⟩, ?_⟩, ?_⟩
  · split
    · split
      · exact List.forall_mem_nil _
      · exact List.forall_mem_singleton.mpr rfl
    · exact List.forall_mem_nil _
  · split
    · split
      · exact List.forall_mem_nil _
      · exact List.forall_mem_singleton.mpr rfl
    · exact List.forall_mem_nil _
  · split
    · exact List.forall_mem_singleton.mpr rfl
    · exact List.forall_mem_nil _

theorem isPolylineLine_footLines : ∀ line ∈ sheet.footLines, isPolylineLine line = false := by
  rw [footLines]
  cases sheet.flip <;> decide

/-- The lines of polylines in a document are those of its polylines, in order. -/
theorem filter_lines (b : Bounds) (polylines : List (List Point)) :
    (sheet.lines b polylines).filter isPolylineLine = polylines.map sheet.polylineLine := by
  have hhead : (sheet.headLines b).filter isPolylineLine = [] :=
    List.filter_eq_nil_iff.mpr fun line hline => by simp [isPolylineLine_headLines line hline]
  have hfoot : sheet.footLines.filter isPolylineLine = [] :=
    List.filter_eq_nil_iff.mpr fun line hline => by simp [isPolylineLine_footLines line hline]
  have hdrawing : (polylines.map sheet.polylineLine).filter isPolylineLine =
      polylines.map sheet.polylineLine := by
    refine List.filter_eq_self.mpr fun line hline => ?_
    obtain ⟨points, -, rfl⟩ := List.mem_map.mp hline
    exact isPolylineLine_polylineLine points
  rw [lines_eq, List.filter_append, List.filter_append, hhead, hdrawing, hfoot, List.nil_append,
    List.append_nil]

/-! ### Documents by their line feeds -/

/-- A text without line feeds. -/
def IsOneLine (t : Text) : Prop := .scalar '\n' ∉ t

instance (t : Text) : Decidable (IsOneLine t) := inferInstanceAs (Decidable (_ ∉ _))

@[simp] theorem isOneLine_cons {c : Char} {t : Text} :
    IsOneLine (.scalar c :: t) ↔ c ≠ '\n' ∧ IsOneLine t := by
  simp [IsOneLine, eq_comm]

@[simp] theorem isOneLine_append {s t : Text} : IsOneLine (s ++ t) ↔ IsOneLine s ∧ IsOneLine t := by
  simp [IsOneLine]

@[simp] theorem isOneLine_attr {name : String} {t : Text} :
    IsOneLine (attr name t) ↔ IsOneLine (Text.ofString name) ∧ IsOneLine t := by
  simp +decide [attr]

@[simp] theorem isOneLine_numeral (x : Float) : IsOneLine (sheet.numeral x) :=
  not_mem_numeral x (by decide)

theorem isOneLine_escape {t : Text} (h : IsOneLine t) : IsOneLine (escape t) := by
  intro hmem
  obtain ⟨c, hc, hmem⟩ := List.mem_flatMap.mp hmem
  rcases Markup.escapeCodePoint_cases c with ⟨-, hc'⟩ | ⟨-, hc'⟩ | ⟨-, hc'⟩ | ⟨-, hc'⟩ <;>
    rw [hc'] at hmem
  · exact absurd hmem (by decide)
  · exact absurd hmem (by decide)
  · exact absurd hmem (by decide)
  · exact h (List.mem_singleton.mp hmem ▸ hc)

@[simp] theorem isOneLine_sizeAttribute {name : String} (size : Option Float)
    (h : IsOneLine (Text.ofString name)) : IsOneLine (sheet.sizeAttribute name size) := by
  unfold sizeAttribute
  split
  · split
    · decide
    · simp [h]
  · decide

theorem isOneLine_headLines (h : ∀ t ∈ sheet.texts, IsOneLine t) (b : Bounds) :
    ∀ line ∈ sheet.headLines b, IsOneLine line := by
  simp only [headLines, titleLines, backgroundLines, groupLines, List.forall_mem_append,
    List.forall_mem_cons]
  refine ⟨⟨⟨⟨by decide, ?_, List.forall_mem_nil _⟩, ?_⟩, ?_⟩, ?_⟩
  · simp +decide [root]
  · split
    next title htitle =>
      have hgiven : IsOneLine title := h title (by simp [texts, htitle])
      split
      · exact List.forall_mem_nil _
      · simp +decide [isOneLine_escape hgiven]
    next => exact List.forall_mem_nil _
  · split
    next colour hcolour =>
      have hgiven : IsOneLine colour := h colour (by simp [texts, hcolour])
      split
      · exact List.forall_mem_nil _
      · simp +decide [hgiven]
    next => exact List.forall_mem_nil _
  · split
    · simp +decide
    · exact List.forall_mem_nil _

theorem isOneLine_polylineLine (h : ∀ t ∈ sheet.texts, IsOneLine t) (points : List Point) :
    IsOneLine (sheet.polylineLine points) := by
  have hpoints : IsOneLine (sheet.pointsText points) :=
    not_mem_points points (by decide) (by decide) (by decide)
  simp only [texts, List.forall_mem_append, List.forall_mem_cons] at h
  have hindent : IsOneLine (Text.ofString (if sheet.flip then "    " else "  ")) := by
    split <;> decide
  rw [polylineLine, isOneLine_append]
  refine ⟨hindent, ?_⟩
  rw [pointsText] at hpoints
  simp +decide [polylineTag, styleAttributes, hpoints, h.2]

theorem isOneLine_lines (h : ∀ t ∈ sheet.texts, IsOneLine t) (b : Bounds)
    (polylines : List (List Point)) : ∀ line ∈ sheet.lines b polylines, IsOneLine line := by
  rw [lines_eq, List.forall_mem_append, List.forall_mem_append]
  refine ⟨isOneLine_headLines h b, fun line hline => ?_, ?_⟩
  · obtain ⟨points, -, rfl⟩ := List.mem_map.mp hline
    exact isOneLine_polylineLine h points
  · rw [footLines]
    cases sheet.flip <;> decide

theorem splitOn_flatMap_closed {lines : List Text} (h : ∀ line ∈ lines, IsOneLine line) :
    (lines.flatMap closed).splitOn (.scalar '\n') = lines ++ [[]] := by
  induction lines with
  | nil => rfl
  | cons line lines ih =>
    rw [List.forall_mem_cons] at h
    rw [List.flatMap_cons, closed, List.append_assoc, List.singleton_append,
      List.splitOn_append_cons_self, List.splitOn_eq_singleton h.1, ih h.2, List.singleton_append,
      List.cons_append]

/-! ### Files -/

/-- The drawing of segments is written to a file without an error. -/
def DrawsTo (sheet : Sheet) (segments : List Segment) (files : Files) (path : String)
    (after : Files) : Prop :=
  ∃ document, sheet.render segments = .ok document ∧ files.save path document = (after, none)

/-- The file of a drawing holds the lines of the document, each ended by a line feed. -/
theorem DrawsTo.read {segments : List Segment} {files after : Files} {path : String}
    (h : sheet.DrawsTo segments files path after) :
    ∃ b written, view sheet.margin ((Polyline.chain segments).map Polyline.points) = .ok b ∧
      after.read path = .ok (.text written) ∧
      Text.ofString written =
        (sheet.lines b ((Polyline.chain segments).map Polyline.points)).flatMap closed := by
  obtain ⟨document, hrender, hsave⟩ := h
  obtain ⟨hfault, hwrite⟩ := Files.save_eq_iff.mp hsave
  obtain ⟨b, hview, hlines⟩ := flatten_of_render hrender
  exact ⟨b, _, hview, Files.read_write hwrite, (Document.ofString_written hfault).trans hlines⟩

/-- The file of a drawing has one line for each polyline, in order, also when it is cut at its line
feeds if no text that the sheet gives holds one. Two files on one sheet that are equal have equally
many polylines, with equally many points, and the same numerals for all of them, in order, whatever
texts the sheet gives. -/
theorem drawing_told_by_file (sheet : Sheet) :
    (∀ (segments : List Segment) (files after : Files) (path : String),
      sheet.DrawsTo segments files path after →
      let polylines := (Polyline.chain segments).map Polyline.points
      ∃ b written, view sheet.margin polylines = .ok b ∧ after.read path = .ok (.text written) ∧
        Text.ofString written = (sheet.lines b polylines).flatMap closed ∧
        (sheet.lines b polylines).filter isPolylineLine = polylines.map sheet.polylineLine ∧
        ((∀ t ∈ sheet.texts, IsOneLine t) →
          ((Text.ofString written).splitOn (.scalar '\n')).filter isPolylineLine =
            polylines.map sheet.polylineLine)) ∧
    ∀ (segments segments' : List Segment) (files files' after after' : Files)
      (path path' : String), sheet.DrawsTo segments files path after →
      sheet.DrawsTo segments' files' path' after' → after.read path = after'.read path' →
      sheet.pointNumerals segments = sheet.pointNumerals segments' := by
  refine ⟨fun segments files after path h => ?_, ?_⟩
  · obtain ⟨b, written, hview, hread, hlines⟩ := h.read
    refine ⟨b, written, hview, hread, hlines, filter_lines b _, fun htexts => ?_⟩
    rw [hlines, splitOn_flatMap_closed (isOneLine_lines htexts b _), List.filter_append,
      filter_lines]
    exact List.append_nil _
  · intro segments segments' files files' after after' path path' h h' hsame
    obtain ⟨b, written, -, hread, hlines⟩ := h.read
    obtain ⟨b', written', -, hread', hlines'⟩ := h'.read
    cases (hread.symm.trans hsame).trans hread'
    rw [pointNumerals_eq, pointNumerals_eq, pointsText_of_lines (hlines.symm.trans hlines')]

/-- The stub with an end that is off by less than three decimals show. -/
def nudged : List Segment := [⟨.ofPoint ⟨0.0, 0.0⟩, .ofPoint ⟨1.0001, 2.0⟩⟩]

/-- The stub and the nudged stub have the same file, and so the same numerals. -/
theorem nudged_stub_told_by_file :
    let sheet := coloured "red"
    let files := Files.ofList ["home"] []
    ∃ after after', sheet.DrawsTo stub files "c.json" after ∧
      sheet.DrawsTo nudged files "c.json" after' ∧ after.read "c.json" = after'.read "c.json" ∧
      sheet.pointNumerals stub = sheet.pointNumerals nudged := by
  intro sheet files
  have hsame : (sheet.render stub).toOption = (sheet.render nudged).toOption := by decide +kernel
  have hsound : (sheet.render stub).toOption.any (fun d => d.fault?.isNone) = true := by
    decide +kernel
  cases h : sheet.render stub with
  | error e =>
    rw [h] at hsound
    cases hsound
  | ok document =>
    cases h' : sheet.render nudged with
    | error e =>
      rw [h, h'] at hsame
      cases hsame
    | ok document' =>
      rw [h] at hsound hsame
      rw [h'] at hsame
      cases Option.some.inj hsame
      have hsave : files.save "c.json" document = (_, none) :=
        Files.save_eq_iff.mpr ⟨Option.isNone_iff_eq_none.mp hsound, Files.write_first _⟩
      have hstub : sheet.DrawsTo stub files "c.json" _ := ⟨_, h, hsave⟩
      have hnudged : sheet.DrawsTo nudged files "c.json" _ := ⟨_, h', hsave⟩
      exact ⟨_, _, hstub, hnudged, rfl,
        (drawing_told_by_file sheet).2 _ _ _ _ _ _ _ _ hstub hnudged rfl⟩

end Sheet

end Svg

end TurtleGrammar
