import Mathlib
import TurtleGrammar.Proofs.Turtle.Follow
import TurtleGrammar.Drawing.Polyline

/-! The chaining of segments. Where every coordinate is a number, the polylines that segments are
chained into are told by three properties: each has two points at least, cut into pairs of
consecutive points they are the segments in order, and none ends where the next one starts. -/

namespace TurtleGrammar

/-! ### Points whose coordinates are numbers -/

namespace Point

/-- Both coordinates are numbers, or infinite. -/
def IsNumeric (p : Point) : Prop := p.x.isNaN = false ∧ p.y.isNaN = false

instance : DecidablePred IsNumeric := fun _ => inferInstanceAs (Decidable (_ ∧ _))

variable {p q r : Point}

theorem agrees_iff : p.agrees q = true ↔ (p.x == q.x) = true ∧ (p.y == q.y) = true :=
  Bool.and_eq_true_iff

theorem agrees_self_iff : p.agrees p = true ↔ p.IsNumeric := by
  simp [agrees_iff, IsNumeric]

theorem agrees_symm (h : p.agrees q = true) : q.agrees p = true := by
  rw [agrees_iff] at *
  exact ⟨BEq.symm h.1, BEq.symm h.2⟩

theorem agrees_trans (hpq : p.agrees q = true) (hqr : q.agrees r = true) : p.agrees r = true := by
  rw [agrees_iff] at *
  exact ⟨BEq.trans hpq.1 hqr.1, BEq.trans hpq.2 hqr.2⟩

theorem isNumeric_of_agrees (h : p.agrees q = true) : p.IsNumeric :=
  agrees_self_iff.mp (agrees_trans h (agrees_symm h))

/-- Points that agree with two points agree as these do. -/
theorem agrees_congr {p' q' : Point} (hp : p.agrees p' = true) (hq : q.agrees q' = true) :
    p.agrees q = p'.agrees q' := by
  rw [Bool.eq_iff_iff]
  exact ⟨fun h => agrees_trans (agrees_trans (agrees_symm hp) h) hq,
    fun h => agrees_trans (agrees_trans hp h) (agrees_symm hq)⟩

end Point

/-! ### Lines that trace segments -/

/-- Lines of points trace segments: each has two points at least, cut into pairs of consecutive
points they are the segments in order, and none ends where the next one starts. The points of the
lines stand to those of the segments as `same` says. -/
structure Point.Traces (same : Point → Point → Prop) (lines : List (List Point))
    (segments : List (Point × Point)) : Prop where
  two_le : ∀ line ∈ lines, 2 ≤ line.length
  cut : (lines.flatMap List.consecutivePairs).Forall₂
    (fun a b => same a.1 b.1 ∧ same a.2 b.2) segments
  apart : lines.IsChain fun line next =>
    ∀ p ∈ line.getLast?, ∀ q ∈ next.head?, p.agrees q = false

namespace Point

section Traces

variable {same : Point → Point → Prop} {p q r q' : Point} {rest : List Point}
  {lines : List (List Point)} {a b : Point × Point} {segments : List (Point × Point)}

theorem traces_nil_iff : Traces same lines [] ↔ lines = [] := by
  constructor
  · intro h
    have hcut := List.forall₂_nil_right_iff.mp h.cut
    refine List.eq_nil_iff_forall_not_mem.mpr fun line hline => ?_
    have hpairs : line.consecutivePairs.length = 0 := by
      rw [List.flatMap_eq_nil_iff.mp hcut line hline, List.length_nil]
    have hlength := h.two_le line hline
    simp only [List.consecutivePairs, List.length_zip, List.length_tail] at hpairs
    omega
  · rintro rfl
    exact ⟨by simp, .nil, .nil⟩

/-- A line of two points in front draws the first segment. -/
theorem traces_pair_cons :
    Traces same ([p, q] :: lines) (a :: segments) ↔
      same p a.1 ∧ same q a.2 ∧ (∀ line ∈ lines.head?, ∀ q' ∈ line.head?, q.agrees q' = false) ∧
        Traces same lines segments := by
  constructor
  · intro h
    have hcut := h.cut
    have hapart := List.isChain_cons.mp h.apart
    simp only [List.flatMap_cons, List.consecutivePairs, List.tail_cons, List.zip_cons_cons,
      List.zip_nil_right, List.singleton_append, List.forall₂_cons] at hcut
    exact ⟨hcut.1.1, hcut.1.2, fun line hline => hapart.1 line hline q rfl,
      fun line hline => h.two_le line (.tail _ hline), hcut.2, hapart.2⟩
  · rintro ⟨hp, hq, hapart, h⟩
    refine ⟨List.forall_mem_cons.mpr ⟨Nat.le_refl 2, h.two_le⟩, .cons ⟨hp, hq⟩ h.cut, ?_⟩
    refine List.isChain_cons.mpr ⟨fun line hline p hp => ?_, h.apart⟩
    cases hp
    exact hapart line hline

/-- A longer line in front draws the first segment and goes on. -/
theorem traces_long_cons :
    Traces same ((p :: q :: r :: rest) :: lines) (a :: segments) ↔
      same p a.1 ∧ same q a.2 ∧ Traces same ((q :: r :: rest) :: lines) segments := by
  constructor
  · intro h
    have hcut := h.cut
    have hapart := List.isChain_cons.mp h.apart
    simp only [List.flatMap_cons, List.consecutivePairs, List.tail_cons, List.zip_cons_cons,
      List.cons_append, List.forall₂_cons] at hcut
    refine ⟨hcut.1.1, hcut.1.2, ?_, hcut.2, List.isChain_cons.mpr ⟨?_, hapart.2⟩⟩
    · exact List.forall_mem_cons.mpr ⟨by simp, fun line hline => h.two_le line (.tail _ hline)⟩
    · simpa [List.getLast?_cons_cons] using hapart.1
  · rintro ⟨hp, hq, h⟩
    have hapart := List.isChain_cons.mp h.apart
    refine ⟨List.forall_mem_cons.mpr ⟨by simp, fun line hline => h.two_le line (.tail _ hline)⟩,
      .cons ⟨hp, hq⟩ h.cut, List.isChain_cons.mpr ⟨?_, hapart.2⟩⟩
    simpa [List.getLast?_cons_cons] using hapart.1

/-- Lines that trace some segments start with a line whose first two points are those of the first
segment. -/
theorem Traces.exists_cons (h : Traces same lines (a :: segments)) :
    ∃ p q rest others, lines = (p :: q :: rest) :: others ∧ same p a.1 ∧ same q a.2 := by
  cases lines with
  | nil => cases h.cut
  | cons line others =>
    have htwo := h.two_le line (.head _)
    match line, htwo with
    | p :: q :: rest, _ =>
      cases rest with
      | nil =>
        obtain ⟨hp, hq, -⟩ := traces_pair_cons.mp h
        exact ⟨p, q, [], others, rfl, hp, hq⟩
      | cons r rest =>
        obtain ⟨hp, hq, -⟩ := traces_long_cons.mp h
        exact ⟨p, q, r :: rest, others, rfl, hp, hq⟩

theorem Traces.replace_first (h : Traces same ((q :: r :: rest) :: lines) (a :: segments))
    (hp : same p a.1) : Traces same ((p :: r :: rest) :: lines) (a :: segments) := by
  cases rest with
  | nil => exact traces_pair_cons.mpr ⟨hp, (traces_pair_cons.mp h).2⟩
  | cons r' rest => exact traces_long_cons.mpr ⟨hp, (traces_long_cons.mp h).2⟩

end Traces

end Point

/-! ### Polylines -/

/-- A segment between two points that no move led to. -/
def Segment.ofPoints (pair : Point × Point) : Segment := ⟨.ofPoint pair.1, .ofPoint pair.2⟩

/-- Points that are the `same` as those of segments go on in one another where the segments do. -/
structure Segment.Faithful (same : Point → Point → Prop) (segments : List Segment) : Prop where
  numeric : ∀ s ∈ segments, ∀ p, same p s.stop.point → p.IsNumeric
  agrees_eq : ∀ s ∈ segments, ∀ r ∈ segments, ∀ p q, same p s.stop.point →
    same q r.start.point → p.agrees q = s.stop.meets r.start

theorem Segment.Faithful.tail {same : Point → Point → Prop} {s : Segment} {segments : List Segment}
    (h : Faithful same (s :: segments)) : Faithful same segments :=
  ⟨fun s hs => h.numeric s (.tail _ hs),
    fun s hs r hr => h.agrees_eq s (.tail _ hs) r (.tail _ hr)⟩

theorem Place.meets_eq_agrees {a b : Place} (hb : b.point.IsNumeric)
    (hvisit : a.visit.isSome = true → a.visit = b.visit → a.point = b.point) :
    a.meets b = a.point.agrees b.point := by
  rw [meets, Bool.or_eq_right_iff_imp, Bool.and_eq_true_iff]
  rintro ⟨hsome, hsame⟩
  rw [hvisit hsome (by simpa using hsame)]
  exact Point.agrees_self_iff.mpr hb

theorem Segment.meets_ofPoints {a b : Point × Point} (hb : b.1.IsNumeric) :
    (ofPoints a).stop.meets (ofPoints b).start = a.2.agrees b.1 :=
  Place.meets_eq_agrees (a := .ofPoint a.2) (b := .ofPoint b.1) hb (by simp [Place.ofPoint])

namespace Polyline

variable {same : Point → Point → Prop} {lines : List (List Point)} {segments : List Segment}
  {s : Segment} {a b : Place} {rest : List Place} {p : Polyline} {ps : List Polyline}

theorem chain_cons : chain (s :: segments) = prepend s (chain segments) := rfl

theorem prepend_of_meets (h : s.stop.meets p.first = true) :
    prepend s (p :: ps) = ⟨s.start, s.stop, p.second :: p.rest⟩ :: ps := by
  rw [prepend, if_pos h]

theorem prepend_of_apart (h : s.stop.meets p.first = false) :
    prepend s (p :: ps) = ⟨s.start, s.stop, []⟩ :: p :: ps := by
  rw [prepend, if_neg (by simp [h])]

/-- The first polyline starts where the first segment starts. -/
theorem exists_chain_cons (s : Segment) (segments : List Segment) :
    ∃ p ps, chain (s :: segments) = p :: ps ∧ p.first = s.start := by
  rw [chain_cons]
  cases chain segments with
  | nil => exact ⟨_, _, rfl, rfl⟩
  | cons p ps =>
    rw [prepend]
    split <;> exact ⟨_, _, rfl, rfl⟩

theorem chain_ne_nil (h : segments ≠ []) : chain segments ≠ [] := by
  cases segments with
  | nil => contradiction
  | cons s segments =>
    obtain ⟨p, ps, hchain, -⟩ := exists_chain_cons s segments
    simp [hchain]

/-- Lines that trace segments are the polylines that the segments are chained into. -/
theorem forall₂_chain (hs : Segment.Faithful same segments)
    (h : Point.Traces same lines (segments.map Segment.points)) :
    lines.Forall₂ (List.Forall₂ same) ((chain segments).map points) := by
  induction segments generalizing lines with
  | nil =>
    rw [Point.traces_nil_iff.mp h]
    exact .nil
  | cons s segments ih =>
    obtain ⟨x, y, rest, others, rfl, hx, hy⟩ := h.exists_cons
    cases rest with
    | nil =>
      obtain ⟨-, -, hapart, h⟩ := Point.traces_pair_cons.mp h
      have hothers := ih hs.tail h
      cases segments with
      | nil =>
        rw [Point.traces_nil_iff.mp h]
        exact .cons (.cons hx (.cons hy .nil)) .nil
      | cons r segments =>
        obtain ⟨p, ps, hchain, hfirst⟩ := exists_chain_cons r segments
        obtain ⟨z, w, rest, others, rfl, hz, -⟩ := h.exists_cons
        have hmeets : s.stop.meets p.first = false := by
          rw [hfirst, ← hs.agrees_eq s (.head _) r (.tail _ (.head _)) y z hy hz]
          exact hapart _ rfl z rfl
        rw [chain_cons, hchain, prepend_of_apart hmeets]
        rw [hchain] at hothers
        exact .cons (.cons hx (.cons hy .nil)) hothers
    | cons z rest =>
      obtain ⟨-, -, h⟩ := Point.traces_long_cons.mp h
      have hothers := ih hs.tail h
      cases segments with
      | nil => cases Point.traces_nil_iff.mp h
      | cons r segments =>
        obtain ⟨p, ps, hchain, hfirst⟩ := exists_chain_cons r segments
        obtain ⟨y', z', rest', others', heq, hy', -⟩ := h.exists_cons
        cases heq
        -- the point that the two segments share is a number, so it agrees with itself
        have hmeets : s.stop.meets p.first = true := by
          rw [hfirst, ← hs.agrees_eq s (.head _) r (.tail _ (.head _)) y y hy hy']
          exact Point.agrees_self_iff.mpr (hs.numeric s (.head _) y hy)
        rw [chain_cons, hchain, prepend_of_meets hmeets]
        rw [hchain, List.map_cons, List.forall₂_cons, points, places, List.map_cons,
          List.forall₂_cons] at hothers
        exact .cons (.cons hx (.cons hy hothers.1.2)) hothers.2

/-- The polylines that segments are chained into trace them. -/
theorem traces_chain (hnumeric : ∀ s ∈ segments, s.start.point.IsNumeric ∧ s.stop.point.IsNumeric)
    (hs : Segment.Faithful (fun p q => p.agrees q = true) segments) :
    Point.Traces (fun p q => p.agrees q = true) ((chain segments).map points)
      (segments.map Segment.points) := by
  induction segments with
  | nil => exact Point.traces_nil_iff.mpr rfl
  | cons s segments ih =>
    rw [List.forall_mem_cons] at hnumeric
    have h := ih hnumeric.2 hs.tail
    have hstart := Point.agrees_self_iff.mpr hnumeric.1.1
    have hstop := Point.agrees_self_iff.mpr hnumeric.1.2
    cases segments with
    | nil => exact Point.traces_pair_cons.mpr ⟨hstart, hstop, by simp, Point.traces_nil_iff.mpr rfl⟩
    | cons r segments =>
      obtain ⟨p, ps, hchain, hfirst⟩ := exists_chain_cons r segments
      have hr := Point.agrees_self_iff.mpr (hnumeric.2 r (.head _)).1
      have heq := hs.agrees_eq s (.head _) r (.tail _ (.head _)) _ _ hstop hr
      rw [hchain, List.map_cons] at h
      rw [chain_cons, hchain]
      cases hmeets : s.stop.meets p.first with
      | true =>
        rw [prepend_of_meets hmeets]
        refine Point.traces_long_cons.mpr ⟨hstart, hstop, h.replace_first ?_⟩
        exact heq.trans (hfirst ▸ hmeets)
      | false =>
        rw [prepend_of_apart hmeets]
        refine Point.traces_pair_cons.mpr ⟨hstart, hstop, fun line hline q hq => ?_, h⟩
        cases hline
        cases hq
        rw [hfirst] at hmeets ⊢
        exact heq.trans hmeets

/-- Lines that trace some segments are got back from the pairs of points they are cut into. -/
theorem chain_cut {segments : List (Point × Point)}
    (h : Point.Traces (fun p q => p.agrees q = true) lines segments) :
    (chain ((lines.flatMap List.consecutivePairs).map Segment.ofPoints)).map points = lines := by
  have hnumeric : ∀ a ∈ lines.flatMap List.consecutivePairs, a.1.IsNumeric ∧ a.2.IsNumeric := by
    have hcut := h.cut.imp fun a b hab => And.intro
      (And.intro (Point.isNumeric_of_agrees hab.1) (Point.isNumeric_of_agrees hab.2)) hab
    exact ((List.forall₂_and_left _ _).mp hcut).1
  have hs : Segment.Faithful Eq ((lines.flatMap List.consecutivePairs).map Segment.ofPoints) := by
    constructor
    · rintro s hs p rfl
      obtain ⟨a, ha, rfl⟩ := List.mem_map.mp hs
      exact (hnumeric a ha).2
    · rintro s hs r hr p q rfl rfl
      obtain ⟨a, ha, rfl⟩ := List.mem_map.mp hs
      obtain ⟨b, hb, rfl⟩ := List.mem_map.mp hr
      exact (Segment.meets_ofPoints (hnumeric b hb).1).symm
  have hpoints : ((lines.flatMap List.consecutivePairs).map Segment.ofPoints).map Segment.points =
      lines.flatMap List.consecutivePairs := by
    rw [List.map_map]
    exact List.map_id _
  have htraces : Point.Traces Eq lines
      (((lines.flatMap List.consecutivePairs).map Segment.ofPoints).map Segment.points) := by
    rw [hpoints]
    exact ⟨h.two_le, List.forall₂_same.mpr fun _ _ => ⟨rfl, rfl⟩, h.apart⟩
  have hlines := forall₂_chain hs htraces
  rw [List.forall₂_eq_eq_eq, List.forall₂_eq_eq_eq] at hlines
  exact hlines.symm

/-- Of segments whose coordinates are numbers, where a visit leads to one point: the polylines they
are chained into trace them, agree with any other lines that trace them, and are got back by
chaining the pairs of points they are cut into. -/
theorem chain_traces_uniquely (segments : List Segment)
    (hnumeric : ∀ s ∈ segments, s.start.point.IsNumeric ∧ s.stop.point.IsNumeric)
    (hvisit : ∀ s ∈ segments, ∀ r ∈ segments, s.stop.visit.isSome = true →
      s.stop.visit = r.start.visit → s.stop.point = r.start.point) :
    let agree := fun p q : Point => p.agrees q = true
    let lines := (chain segments).map points
    Point.Traces agree lines (segments.map Segment.points) ∧
    (∀ others, Point.Traces agree others (segments.map Segment.points) →
      others.Forall₂ (List.Forall₂ agree) lines) ∧
    (chain ((lines.flatMap List.consecutivePairs).map Segment.ofPoints)).map points = lines := by
  have hs : Segment.Faithful (fun p q => p.agrees q = true) segments := by
    refine ⟨fun s _ p hp => Point.isNumeric_of_agrees hp, fun s hs r hr p q hp hq => ?_⟩
    rw [Place.meets_eq_agrees (hnumeric r hr).1 (hvisit s hs r hr)]
    exact Point.agrees_congr hp hq
  have htraces := traces_chain hnumeric hs
  exact ⟨htraces, fun others hothers => forall₂_chain hs hothers, chain_cut htraces⟩

/-- A line to a point, a line that stays there, the line back, one that goes on from the other zero,
and one elsewhere. -/
def errand : List Segment :=
  [((0.0, 0.0), (1.0, 0.0)), ((1.0, 0.0), (1.0, 0.0)), ((1.0, 0.0), (0.0, 0.0)),
    ((-0.0, 0.0), (0.0, 1.0)), ((5.0, 5.0), (6.0, 5.0))].map
      fun (p, q) => Segment.ofPoints (⟨p.1, p.2⟩, ⟨q.1, q.2⟩)

theorem errand_traced :
    (∀ s ∈ errand, s.start.point.IsNumeric ∧ s.stop.point.IsNumeric) ∧
    (chain errand).map (·.points.length) = [5, 2] ∧
    Point.Traces (fun p q => p.agrees q = true) ((chain errand).map points)
      (errand.map Segment.points) := by
  have hnumeric : ∀ s ∈ errand, s.start.point.IsNumeric ∧ s.stop.point.IsNumeric := by
    decide +kernel
  have hvisit : ∀ s ∈ errand, ∀ r ∈ errand, s.stop.visit.isSome = true →
      s.stop.visit = r.start.visit → s.stop.point = r.start.point := by
    simp [errand, Segment.ofPoints, Place.ofPoint]
  exact ⟨hnumeric, by decide +kernel, (chain_traces_uniquely errand hnumeric hvisit).1⟩

end Polyline

end TurtleGrammar
