import TurtleGrammar.Proofs.Drawing.Tags
import TurtleGrammar.Proofs.Number.Compact

/-! The numbers in a drawing. Each is written as the compact numeral of one floating-point number, a
decimal numeral if that is finite and a word if it is not. The view has a width and a height greater
than zero, and none of its numbers is the value that is not a number. -/

namespace TurtleGrammar.Svg.Sheet

open Markup Number

/-- How a floating-point number is written: as the decimal numeral of its rounded value, or with a
word if it is infinite or not a number. -/
structure Writes (places : Nat) (x : Float) (t : Text) : Prop where
  finite : x.isFinite → ∃ numeral r, t = Text.ofChars numeral ∧ Compact.Shows places x numeral r
  infinite : x.isInf → t = Text.ofString "inf" ∨ t = Text.ofString "-inf"
  nan : x.isNaN → t = Text.ofString "nan"

/-- The numerals in a list of coordinates, with blanks between points and commas within them. -/
def numeralsIn (t : Text) : List Text :=
  (t.splitOn (.scalar ' ')).flatMap fun point => point.splitOn (.scalar ',')

variable {sheet : Sheet} {margin : Float} {polylines : List (List Point)} {b : Bounds} {x : Float}

theorem writes_numeral (h : 0 ≤ sheet.precision ∧ sheet.precision ≤ 10) (x : Float) :
    Writes sheet.precision.toNat x (sheet.numeral x) := by
  have hplaces : sheet.precision.toNat ≤ 2 ^ 31 - 310 := by omega
  have hnumeral : sheet.numeral x = Text.ofChars (Compact.write sheet.precision.toNat x) := by
    rw [numeral, Compact.text, Text.ofString, String.toList_ofList]
  rw [hnumeral]
  refine ⟨fun hx => ?_, fun hx => ?_, fun hx => ?_⟩
  · obtain ⟨negative, units, hunits⟩ := Binary64.isFinite_iff.mp hx
    rw [Compact.write_of_finite hunits, Fixed.shown_of_places_le hplaces hunits]
    exact ⟨_, _, rfl, Compact.shows_of_finite hplaces hunits⟩
  · obtain ⟨negative, hinfinite⟩ := Binary64.isInf_iff.mp hx
    rw [Compact.write_infinite hinfinite]
    cases negative with
    | false => exact .inl rfl
    | true => exact .inr rfl
  · rw [Compact.write_nan (Binary64.isNaN_iff.mp hx)]
    rfl

theorem numeralsIn_intercalate {pieces : List Text} (hne : pieces ≠ [])
    (h : ∀ piece ∈ pieces, Text.CodePoint.scalar ' ' ∉ piece) :
    numeralsIn ([.scalar ' '].intercalate pieces) =
      pieces.flatMap fun piece => piece.splitOn (.scalar ',') := by
  rw [numeralsIn, List.splitOn_intercalate _ h hne]

theorem blank_not_mem_numeral (x : Float) : Text.CodePoint.scalar ' ' ∉ sheet.numeral x :=
  not_mem_numeral x (by decide)

theorem splitOn_numeral (x : Float) :
    (sheet.numeral x).splitOn (.scalar ',') = [sheet.numeral x] :=
  List.splitOn_eq_singleton (not_mem_numeral x (by decide))

theorem numeralsIn_view (b : Bounds) :
    numeralsIn (sheet.viewText b) = (viewNumbers b).map sheet.numeral := by
  rw [viewText, numeralsIn_intercalate (by simp [viewNumbers])]
  · simp [viewNumbers, splitOn_numeral]
  · intro piece hpiece
    obtain ⟨x, -, rfl⟩ := List.mem_map.mp hpiece
    exact blank_not_mem_numeral x

theorem splitOn_pointText (p : Point) :
    (sheet.pointText p).splitOn (.scalar ',') = [sheet.numeral p.x, sheet.numeral p.y] := by
  have hcomma : sheet.pointText p = sheet.numeral p.x ++ .scalar ',' :: sheet.numeral p.y := by
    simp [pointText, Text.ofString, Text.ofChars]
  rw [hcomma, List.splitOn_append_cons_self, splitOn_numeral, splitOn_numeral]
  rfl

theorem splitOn_pointsText {points : List Point} (hne : points ≠ []) :
    (sheet.pointsText points).splitOn (.scalar ' ') = points.map sheet.pointText := by
  refine List.splitOn_intercalate _ (fun piece hpiece => ?_) (by simpa using hne)
  obtain ⟨p, -, rfl⟩ := List.mem_map.mp hpiece
  exact not_mem_pointText p (by decide) (by decide)

theorem numeralsIn_points {points : List Point} (hne : points ≠ []) :
    numeralsIn (sheet.pointsText points) =
      points.flatMap fun p => [sheet.numeral p.x, sheet.numeral p.y] := by
  rw [numeralsIn, splitOn_pointsText hne, List.flatMap_map]
  exact List.flatMap_congr fun p _ => splitOn_pointText p

theorem of_view_eq_ok (h : view margin polylines = .ok b) : 0 < b.width ∧ 0 < b.height := by
  obtain ⟨bounds, -, h⟩ := bind_eq_ok.mp h
  simp only at h
  split at h
  · next hpos =>
    cases h
    exact hpos
  · cases h

theorem isNaN_viewNumbers (hwidth : 0 < b.width) (hheight : 0 < b.height) :
    ∀ x ∈ viewNumbers b, x.isNaN = false := by
  simp only [viewNumbers, List.forall_mem_cons]
  exact ⟨(Binary64.isNaN_of_pos_sub hwidth).2, (Binary64.isNaN_of_pos_sub hheight).2,
    Binary64.isNaN_of_pos hwidth, Binary64.isNaN_of_pos hheight, List.forall_mem_nil _⟩

/-- The numbers of a drawing, in the view, the rectangle, the group and the points, are written each
as one floating-point number. Those of the view are numbers, and its width and height are greater
than zero, also as they are written if they are finite and more than half a unit of the last
decimal. -/
theorem drawn_numbers_written {segments : List Segment} {document : Document}
    (hprecision : 0 ≤ sheet.precision ∧ sheet.precision ≤ 10)
    (h : sheet.render segments = .ok document) :
    ∃ b, view sheet.margin ((Polyline.chain segments).map Polyline.points) = .ok b ∧
      sheet.Shows b ((Polyline.chain segments).map Polyline.points) document.flatten ∧
      numeralsIn (sheet.viewText b) = (viewNumbers b).map sheet.numeral ∧
      (∀ points ∈ (Polyline.chain segments).map Polyline.points,
        numeralsIn (sheet.pointsText points) =
          points.flatMap fun p => [sheet.numeral p.x, sheet.numeral p.y]) ∧
      (∀ x, Writes sheet.precision.toNat x (sheet.numeral x)) ∧
      (∀ x ∈ viewNumbers b, x.isNaN = false) ∧
      ∀ x ∈ [b.width, b.height], 0 < x ∧
        ∀ v, (Binary64.ofFloat x).value? = some v → 1 / 2 < v * 10 ^ sheet.precision.toNat →
          ∃ numeral r, sheet.numeral x = Text.ofChars numeral ∧
            Decimal.value? numeral = some r ∧ 0 < r := by
  obtain ⟨b, hview, hshows⟩ := shows_of_render h
  obtain ⟨hwidth, hheight⟩ := of_view_eq_ok hview
  refine ⟨b, hview, hshows, numeralsIn_view b, fun points hpoints => ?_,
    writes_numeral hprecision, isNaN_viewNumbers hwidth hheight, fun x hx => ⟨?_, ?_⟩⟩
  · obtain ⟨polyline, -, rfl⟩ := List.mem_map.mp hpoints
    exact numeralsIn_points (List.cons_ne_nil _ _)
  · simp only [List.mem_cons, List.not_mem_nil, or_false] at hx
    rcases hx with rfl | rfl
    · exact hwidth
    · exact hheight
  · intro v hv hhalf
    obtain ⟨negative, units, hunits, -⟩ := Binary64.exists_of_value? hv
    obtain ⟨numeral, r, hnumeral, hr⟩ :=
      (writes_numeral hprecision x).finite (Binary64.isFinite_iff.mpr ⟨_, _, hunits⟩)
    obtain ⟨v', hv', hrounded⟩ := hr.rounded
    cases hv.symm.trans hv'
    exact ⟨numeral, r, hnumeral, hr.read, hrounded.pos hhalf⟩

theorem stub_numbers_written : ∃ document, (coloured "red").render stub = .ok document ∧
    ∃ b, view 10.0 ((Polyline.chain stub).map Polyline.points) = .ok b ∧
      numeralsIn ((coloured "red").viewText b) = (viewNumbers b).map (coloured "red").numeral ∧
      0 < b.width ∧ 0 < b.height := by
  obtain ⟨document, h⟩ : ∃ document, (coloured "red").render stub = .ok document :=
    exists_render (by decide +kernel) (by decide)
  obtain ⟨b, hview, -, hnumerals, -, -, -, hpositive⟩ := drawn_numbers_written (by decide) h
  exact ⟨document, h, b, hview, hnumerals, (hpositive _ (by simp)).1, (hpositive _ (by simp)).1⟩

/-- A sheet with a margin. -/
def framed (margin : Float) : Sheet := ⟨margin, 3, false, none, none, .standard, none, none⟩

theorem exists_shown (sheet : Sheet) (segments : List Segment) (written : Text)
    (hprecision : 0 ≤ sheet.precision ∧ sheet.precision ≤ 10)
    (hview : (view sheet.margin ((Polyline.chain segments).map Polyline.points)).toOption.map
      sheet.viewText = some written) :
    ∃ document b, sheet.render segments = .ok document ∧
      sheet.Shows b ((Polyline.chain segments).map Polyline.points) document.flatten ∧
      sheet.viewText b = written := by
  cases h : view sheet.margin ((Polyline.chain segments).map Polyline.points) with
  | error e =>
    rw [h] at hview
    cases hview
  | ok b =>
    rw [h] at hview
    obtain ⟨document, hdocument⟩ := exists_render (by rw [h]; rfl) hprecision
    obtain ⟨b', hb', hshows⟩ := shows_of_render hdocument
    cases h.symm.trans hb'
    exact ⟨document, b, hdocument, hshows, Option.some.inj hview⟩

/-- With an infinite margin the view is written with words, and a drawing smaller than the last
decimal has a view whose width and height are written as zero. -/
theorem view_without_extent :
    (∃ sheet segments document b, Sheet.render sheet segments = .ok document ∧
      (0 ≤ sheet.precision ∧ sheet.precision ≤ 10) ∧
      sheet.Shows b ((Polyline.chain segments).map Polyline.points) document.flatten ∧
      sheet.viewText b = Text.ofString "-inf -inf inf inf") ∧
    ∃ sheet segments document b, Sheet.render sheet segments = .ok document ∧
      (0 ≤ sheet.precision ∧ sheet.precision ≤ 10) ∧
      sheet.Shows b ((Polyline.chain segments).map Polyline.points) document.flatten ∧
      sheet.viewText b = Text.ofString "0 0 0 0" := by
  constructor
  · obtain ⟨document, b, h, hshows, hview⟩ := exists_shown (framed (Binary64.infinity false)) stub
      "-inf -inf inf inf" (by decide) (by decide +kernel)
    exact ⟨_, _, document, b, h, by decide, hshows, hview⟩
  · obtain ⟨document, b, h, hshows, hview⟩ := exists_shown (framed 0.0)
      [⟨.ofPoint ⟨0.0, 0.0⟩, .ofPoint ⟨0.0004, 0.0004⟩⟩] "0 0 0 0" (by decide) (by decide +kernel)
    exact ⟨_, _, document, b, h, by decide, hshows, hview⟩

end TurtleGrammar.Svg.Sheet
