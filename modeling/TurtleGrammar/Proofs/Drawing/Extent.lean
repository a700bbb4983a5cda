import TurtleGrammar.Drawing.Bounds
import TurtleGrammar.Proofs.Drawing.Chaining
import TurtleGrammar.Proofs.Number.Order

/-! The bounds of a drawing. They are the least and the greatest of the coordinates of all ends of
segments, of which those that are not numbers do not count. So the bounds depend neither on the
order of the segments nor on how they are chained. -/

namespace TurtleGrammar

/-! ### Coordinates -/

namespace Number.Binary64

variable {x y z : Float}

/-- Two floating-point numbers are equal, or neither of them is a number. -/
def Alike (x y : Float) : Prop := (x == y) = true ∨ x.isNaN = true ∧ y.isNaN = true

instance : DecidableRel Alike := fun _ _ => inferInstanceAs (Decidable (_ ∨ _))

theorem alike_iff : Alike x y ↔ (ofFloat x).place? = (ofFloat y).place? := by
  rw [Alike, beq_iff, ← place?_eq_none_iff, ← place?_eq_none_iff]
  constructor
  · rintro (⟨p, hp, hq⟩ | ⟨hp, hq⟩) <;> rw [hp, hq]
  · intro h
    cases hx : (ofFloat x).place? with
    | none => exact .inr ⟨rfl, h ▸ hx⟩
    | some p => exact .inl ⟨p, rfl, h ▸ hx⟩

theorem Alike.symm (h : Alike x y) : Alike y x := alike_iff.mpr (alike_iff.mp h).symm

theorem Alike.trans (hxy : Alike x y) (hyz : Alike y z) : Alike x z :=
  alike_iff.mpr ((alike_iff.mp hxy).trans (alike_iff.mp hyz))

theorem Alike.isNaN_eq (h : Alike x y) : x.isNaN = y.isNaN := by
  rw [Bool.eq_iff_iff, ← place?_eq_none_iff, ← place?_eq_none_iff, alike_iff.mp h]

end Number.Binary64

namespace Bounds

open Number.Binary64 (infinity Alike)

/-! ### The extreme of numbers -/

section Extremes

variable {before : Float → Float → Prop} {choose : Float → Float → Float} {last a b c : Float}
  {xs ys : List Float}

/-- Of floating-point numbers, the one that comes before all that are numbers. If there is no number
it is the one that comes last. -/
structure IsExtreme (before : Float → Float → Prop) (last b : Float) (xs : List Float) : Prop where
  number : b.isNaN = false
  before : ∀ x ∈ xs, x.isNaN = false → before b x
  attained : b ∈ xs ∨ (∀ x ∈ xs, x.isNaN = true) ∧ b = last

/-- The second of two floating-point numbers is chosen if it is a number that comes before the first
in some order, and else the first. -/
structure Selects (before : Float → Float → Prop) (choose : Float → Float → Float) : Prop where
  trans : ∀ {a b c}, before a b → before b c → before a c
  beq_iff : ∀ {a b}, (a == b) = true ↔ before a b ∧ before b a
  eq_or_eq : ∀ a b, choose a b = a ∨ choose a b = b
  number : ∀ {a} (b), a.isNaN = false → (choose a b).isNaN = false
  first : ∀ {a} (b), a.isNaN = false → before (choose a b) a
  second : ∀ {a b}, a.isNaN = false → b.isNaN = false → before (choose a b) b

theorem selects_lesser : Selects (· ≤ ·) lesser where
  trans := Number.Binary64.le_trans
  beq_iff := Number.Binary64.beq_iff_le
  eq_or_eq a b := by
    rw [lesser]
    split
    · exact .inr rfl
    · exact .inl rfl
  number b ha := by
    rw [lesser]
    split
    next h => exact (Number.Binary64.isNaN_of_lt h).1
    next => exact ha
  first b ha := by
    rw [lesser]
    split
    next h => exact Number.Binary64.le_of_lt h
    next => exact Number.Binary64.le_self ha
  second ha hb := by
    rw [lesser]
    split
    next => exact Number.Binary64.le_self hb
    next h => exact Number.Binary64.le_of_not_lt hb ha h

theorem selects_greater : Selects (· ≥ ·) greater where
  trans hab hbc := Number.Binary64.le_trans hbc hab
  beq_iff := Number.Binary64.beq_iff_le.trans and_comm
  eq_or_eq a b := by
    rw [greater]
    split
    · exact .inr rfl
    · exact .inl rfl
  number b ha := by
    rw [greater]
    split
    next h => exact (Number.Binary64.isNaN_of_lt h).2
    next => exact ha
  first b ha := by
    rw [greater]
    split
    next h => exact Number.Binary64.le_of_lt h
    next => exact Number.Binary64.le_self ha
  second ha hb := by
    rw [greater]
    split
    next => exact Number.Binary64.le_self hb
    next h => exact Number.Binary64.le_of_not_lt ha hb h

namespace Selects

variable (h : Selects before choose)
include h

theorem refl (ha : a.isNaN = false) : before a a := by
  have hself := h.first a ha
  rwa [(h.eq_or_eq a a).elim id id] at hself

theorem congr (hab : before a b) (hbc : Alike b c) (hc : c.isNaN = false) : before a c := by
  rcases hbc with hbc | ⟨-, hnan⟩
  · exact h.trans hab (h.beq_iff.mp hbc).1
  · cases hnan.symm.trans hc

/-- What is chosen from a number and further ones in turn is one of them, and comes before all that
are numbers. -/
theorem foldl (ha : a.isNaN = false) (xs : List Float) :
    (xs.foldl choose a).isNaN = false ∧ before (xs.foldl choose a) a ∧
      (∀ x ∈ xs, x.isNaN = false → before (xs.foldl choose a) x) ∧
      (xs.foldl choose a = a ∨ xs.foldl choose a ∈ xs) := by
  induction xs generalizing a with
  | nil => exact ⟨ha, h.refl ha, nofun, .inl rfl⟩
  | cons x xs ih =>
    obtain ⟨hnumber, hchosen, hrest, hmem⟩ := ih (h.number x ha)
    rw [List.foldl_cons]
    refine ⟨hnumber, h.trans hchosen (h.first x ha), List.forall_mem_cons.mpr ⟨?_, hrest⟩, ?_⟩
    · exact fun hx => h.trans hchosen (h.second ha hx)
    · rcases hmem with hmem | hmem
      · rw [hmem]
        rcases h.eq_or_eq a x with hx | hx
        · exact .inl hx
        · rw [hx]
          exact .inr List.mem_cons_self
      · exact .inr (List.mem_cons_of_mem x hmem)

/-- If nothing comes after the number that the choice starts from, what is chosen is the extreme. -/
theorem isExtreme (last : Float) (hnumber : last.isNaN = false)
    (hlast : ∀ x, before last x → x = last) (xs : List Float) :
    IsExtreme before last (xs.foldl choose last) xs := by
  obtain ⟨hnumber, -, hbefore, hmem⟩ := h.foldl hnumber xs
  refine ⟨hnumber, hbefore, ?_⟩
  rcases hmem with hmem | hmem
  · by_cases hnan : ∀ x ∈ xs, x.isNaN = true
    · exact .inr ⟨hnan, hmem⟩
    · simp only [not_forall, Bool.not_eq_true] at hnan
      obtain ⟨x, hx, hxnumber⟩ := hnan
      have hlater := hbefore x hx hxnumber
      rw [hmem] at hlater ⊢
      exact .inl (hlast x hlater ▸ hx)
  · exact .inl hmem

/-- Numbers that are alike change nothing. -/
theorem isExtreme_of_alike (hb : IsExtreme before last b xs) (hsub : xs ⊆ ys)
    (halike : ∀ y ∈ ys, ∃ x ∈ xs, Alike x y) : IsExtreme before last b ys := by
  refine ⟨hb.number, fun y hy hynumber => ?_, ?_⟩
  · obtain ⟨x, hx, hxy⟩ := halike y hy
    exact h.congr (hb.before x hx (hxy.isNaN_eq.trans hynumber)) hxy hynumber
  · refine hb.attained.imp (hsub ·) fun ⟨hnan, hlast⟩ => ⟨fun y hy => ?_, hlast⟩
    obtain ⟨x, hx, hxy⟩ := halike y hy
    exact hxy.isNaN_eq ▸ hnan x hx

theorem before_of_alike (hb : IsExtreme before last b xs) (hc : IsExtreme before last c ys)
    (hxs : ∀ x ∈ xs, ∃ y ∈ ys, Alike y x) (hys : ∀ y ∈ ys, ∃ x ∈ xs, Alike x y) :
    before b c := by
  rcases hc.attained with hmem | ⟨hnan, rfl⟩
  · obtain ⟨x, hx, hxc⟩ := hys c hmem
    exact h.congr (hb.before x hx (hxc.isNaN_eq.trans hc.number)) hxc hc.number
  · rcases hb.attained with hmem | ⟨-, rfl⟩
    · obtain ⟨y, hy, hyb⟩ := hxs b hmem
      cases (hyb.isNaN_eq.symm.trans (hnan y hy)).symm.trans hb.number
    · exact h.refl hb.number

/-- The extremes of numbers that are alike are equal. -/
theorem beq_of_alike (hb : IsExtreme before last b xs) (hc : IsExtreme before last c ys)
    (hxs : ∀ x ∈ xs, ∃ y ∈ ys, Alike y x) (hys : ∀ y ∈ ys, ∃ x ∈ xs, Alike x y) :
    (b == c) = true :=
  h.beq_iff.mpr ⟨h.before_of_alike hb hc hxs hys, h.before_of_alike hc hb hys hxs⟩

end Selects

end Extremes

end Bounds

/-! ### The bounds of points -/

/-- In both coordinates two points are equal, or neither of them has a number there. -/
def Point.Alike (p q : Point) : Prop :=
  Number.Binary64.Alike p.x q.x ∧ Number.Binary64.Alike p.y q.y

instance : DecidableRel Point.Alike := fun _ _ => inferInstanceAs (Decidable (_ ∧ _))

/-- Each of some points is like one of others. -/
def Point.Cover (points others : List Point) : Prop := ∀ q ∈ others, ∃ p ∈ points, p.Alike q

namespace Bounds

open Number.Binary64 (infinity)

variable {b c : Bounds} {points others : List Point}

/-- The bounds are the extreme coordinates of points. -/
structure Fits (b : Bounds) (points : List Point) : Prop where
  minX : IsExtreme (· ≤ ·) (infinity false) b.minX (points.map Point.x)
  minY : IsExtreme (· ≤ ·) (infinity false) b.minY (points.map Point.y)
  maxX : IsExtreme (· ≥ ·) (infinity true) b.maxX (points.map Point.x)
  maxY : IsExtreme (· ≥ ·) (infinity true) b.maxY (points.map Point.y)

/-- Whether two bounds are equal, up to the sign of zeros. -/
def agrees (b c : Bounds) : Bool :=
  b.minX == c.minX && b.minY == c.minY && b.maxX == c.maxX && b.maxY == c.maxY

theorem foldl_cover (b : Bounds) (points : List Point) :
    points.foldl cover b =
      { minX := (points.map Point.x).foldl lesser b.minX
        minY := (points.map Point.y).foldl lesser b.minY
        maxX := (points.map Point.x).foldl greater b.maxX
        maxY := (points.map Point.y).foldl greater b.maxY } := by
  induction points generalizing b with
  | nil => rfl
  | cons p points ih =>
    rw [List.foldl_cons, ih]
    rfl

theorem fits_ofPoints (points : List Point) : (ofPoints points).Fits points := by
  have hleast := selects_lesser.isExtreme (infinity false) (by decide +kernel)
    fun _ => Number.Binary64.eq_of_infinity_le
  have hgreatest := selects_greater.isExtreme (infinity true) (by decide +kernel)
    fun _ => Number.Binary64.eq_of_le_infinity
  rw [ofPoints, foldl_cover]
  exact ⟨hleast _, hleast _, hgreatest _, hgreatest _⟩

theorem exists_alike_of_cover {f : Point → Float}
    (hf : ∀ p q, p.Alike q → Number.Binary64.Alike (f p) (f q)) (h : Point.Cover points others) :
    ∀ y ∈ others.map f, ∃ x ∈ points.map f, Number.Binary64.Alike x y := by
  intro y hy
  obtain ⟨q, hq, rfl⟩ := List.mem_map.mp hy
  obtain ⟨p, hp, hpq⟩ := h q hq
  exact ⟨f p, List.mem_map_of_mem hp, hf p q hpq⟩

theorem Fits.of_cover (h : b.Fits points) (hsub : points ⊆ others)
    (hcover : Point.Cover points others) : b.Fits others := by
  have hx := exists_alike_of_cover (f := Point.x) (fun _ _ h => h.1) hcover
  have hy := exists_alike_of_cover (f := Point.y) (fun _ _ h => h.2) hcover
  have hsubmap (f : Point → Float) : points.map f ⊆ others.map f := List.map_subset f hsub
  exact ⟨selects_lesser.isExtreme_of_alike h.minX (hsubmap _) hx,
    selects_lesser.isExtreme_of_alike h.minY (hsubmap _) hy,
    selects_greater.isExtreme_of_alike h.maxX (hsubmap _) hx,
    selects_greater.isExtreme_of_alike h.maxY (hsubmap _) hy⟩

theorem Fits.agrees (h : b.Fits points) (h' : c.Fits others) (hcover : Point.Cover points others)
    (hcover' : Point.Cover others points) : b.agrees c = true := by
  have hx := exists_alike_of_cover (f := Point.x) (fun _ _ h => h.1) hcover
  have hy := exists_alike_of_cover (f := Point.y) (fun _ _ h => h.2) hcover
  have hx' := exists_alike_of_cover (f := Point.x) (fun _ _ h => h.1) hcover'
  have hy' := exists_alike_of_cover (f := Point.y) (fun _ _ h => h.2) hcover'
  simp only [Bounds.agrees, Bool.and_eq_true]
  exact ⟨⟨⟨selects_lesser.beq_of_alike h.minX h'.minX hx' hx,
    selects_lesser.beq_of_alike h.minY h'.minY hy' hy⟩,
    selects_greater.beq_of_alike h.maxX h'.maxX hx' hx⟩,
    selects_greater.beq_of_alike h.maxY h'.maxY hy' hy⟩

end Bounds

/-! ### The points of polylines -/

namespace Point

variable {p q r : Point} {points others : List Point} {line : List Point}

theorem Alike.refl (p : Point) : p.Alike p :=
  ⟨Number.Binary64.alike_iff.mpr rfl, Number.Binary64.alike_iff.mpr rfl⟩

theorem Alike.symm (h : p.Alike q) : q.Alike p := ⟨h.1.symm, h.2.symm⟩

theorem Alike.trans (hpq : p.Alike q) (hqr : q.Alike r) : p.Alike r :=
  ⟨hpq.1.trans hqr.1, hpq.2.trans hqr.2⟩

theorem alike_of_agrees (h : p.agrees q = true) : p.Alike q :=
  ⟨.inl (agrees_iff.mp h).1, .inl (agrees_iff.mp h).2⟩

theorem Cover.trans {thirds : List Point} (h : Cover points others) (h' : Cover others thirds) :
    Cover points thirds := by
  intro r hr
  obtain ⟨q, hq, hqr⟩ := h' r hr
  obtain ⟨p, hp, hpq⟩ := h q hq
  exact ⟨p, hp, hpq.trans hqr⟩

theorem cover_of_subset (h : others ⊆ points) : Cover points others :=
  fun q hq => ⟨q, h hq, .refl q⟩

/-- The ends of lines between points. -/
def ends (pairs : List (Point × Point)) : List Point := pairs.flatMap fun a => [a.1, a.2]

section Ends

variable {a : Point × Point} {pairs pairs' : List (Point × Point)} {lines : List (List Point)}

theorem ends_cons : ends (a :: pairs) = a.1 :: a.2 :: ends pairs := rfl

theorem mem_ends_iff : p ∈ ends pairs ↔ ∃ a ∈ pairs, p = a.1 ∨ p = a.2 := by simp [ends]

theorem ends_subset (h : pairs ⊆ pairs') : ends pairs ⊆ ends pairs' := by
  intro p hp
  obtain ⟨a, ha, hpa⟩ := mem_ends_iff.mp hp
  exact mem_ends_iff.mpr ⟨a, h ha, hpa⟩

theorem cover_ends (h : pairs.Forall₂ (fun a b => a.1.Alike b.1 ∧ a.2.Alike b.2) pairs') :
    Cover (ends pairs) (ends pairs') := by
  induction h with
  | nil => exact nofun
  | @cons a b pairs pairs' hab h ih =>
    rw [ends_cons, ends_cons]
    refine List.forall_mem_cons.mpr ⟨⟨a.1, by simp, hab.1⟩,
      List.forall_mem_cons.mpr ⟨⟨a.2, by simp, hab.2⟩, fun q hq => ?_⟩⟩
    obtain ⟨p, hp, hpq⟩ := ih q hq
    exact ⟨p, by simp [hp], hpq⟩

/-- A line of two points or more is cut into pairs that hold the same points. -/
theorem mem_ends_consecutivePairs (p q : Point) (rest : List Point) :
    r ∈ ends (p :: q :: rest).consecutivePairs ↔ r ∈ p :: q :: rest := by
  induction rest generalizing p q with
  | nil => simp [ends, List.consecutivePairs]
  | cons q' rest ih =>
    have h := ih q q'
    simp only [List.consecutivePairs, List.tail_cons, List.zip_cons_cons, ends_cons,
      List.mem_cons] at h ⊢
    tauto

theorem mem_ends_cut (h : ∀ line ∈ lines, 2 ≤ line.length) :
    r ∈ ends (lines.flatMap List.consecutivePairs) ↔ r ∈ lines.flatten := by
  rw [ends, List.flatMap_assoc, List.mem_flatMap, List.mem_flatten]
  refine exists_congr fun line => and_congr_right fun hline => ?_
  match line, h line hline with
  | p :: q :: rest, _ => exact mem_ends_consecutivePairs p q rest

/-- Lines that are cut into pairs have points like the ends of these. -/
theorem cover_of_cut (h : ∀ line ∈ lines, 2 ≤ line.length)
    (hcut : (lines.flatMap List.consecutivePairs).Forall₂
      (fun a b => a.1.Alike b.1 ∧ a.2.Alike b.2) pairs) :
    Cover lines.flatten (ends pairs) ∧ Cover (ends pairs) lines.flatten := by
  have hflip := hcut.flip.imp fun a b hab => And.intro hab.1.symm hab.2.symm
  exact ⟨(cover_of_subset fun _ => (mem_ends_cut h).mp).trans (cover_ends hcut),
    (cover_ends hflip).trans (cover_of_subset fun _ => (mem_ends_cut h).mpr)⟩

end Ends

end Point

/-! ### Polylines -/

/-- If one segment ends with the visit that another one starts with, it ends at a point like the one
where that starts. A visit stands for the point that one move led to, so drawings are made of such
segments. -/
def Segment.VisitsAgree (segments : List Segment) : Prop :=
  ∀ s ∈ segments, ∀ r ∈ segments, s.stop.visit.isSome = true →
    s.stop.visit = r.start.visit → s.stop.point.Alike r.start.point

instance (segments : List Segment) : Decidable (Segment.VisitsAgree segments) :=
  inferInstanceAs (Decidable (∀ s ∈ segments, _))

theorem Segment.VisitsAgree.of_subset {segments others : List Segment} (h : VisitsAgree segments)
    (hsub : others ⊆ segments) : VisitsAgree others :=
  fun s hs r hr => h s (hsub hs) r (hsub hr)

theorem Place.alike_of_meets {a b : Place} (h : a.meets b = true)
    (hvisit : a.visit.isSome = true → a.visit = b.visit → a.point.Alike b.point) :
    a.point.Alike b.point := by
  rw [meets, Bool.or_eq_true, Bool.and_eq_true, beq_iff_eq] at h
  rcases h with ⟨hsome, hsame⟩ | h
  · exact hvisit hsome hsame
  · exact Point.alike_of_agrees h

namespace Polyline

open Point (ends Cover)

variable {segments : List Segment}

/-- The points of the polylines that segments are chained into. -/
def chainPoints (segments : List Segment) : List Point := ((chain segments).map points).flatten

/-- A segment adds its two ends, and where the next one goes on from it, its end takes the place of
the start of that one. -/
theorem exists_chainPoints (s r : Segment) (segments : List Segment) :
    ∃ rest, chainPoints (r :: segments) = r.start.point :: rest ∧
      chainPoints (s :: r :: segments) = s.start.point :: s.stop.point ::
        if s.stop.meets r.start then rest else r.start.point :: rest := by
  obtain ⟨p, ps, hchain, hfirst⟩ := exists_chain_cons r segments
  refine ⟨p.second.point :: p.rest.map Place.point ++ (ps.map points).flatten, ?_, ?_⟩
  · simp [chainPoints, hchain, points, places, hfirst]
  · rw [chainPoints, chain_cons, hchain, ← hfirst]
    cases h : s.stop.meets p.first with
    | true => simp [prepend_of_meets h, points, places]
    | false => simp [prepend_of_apart h, points, places]

theorem chainPoints_subset (segments : List Segment) :
    chainPoints segments ⊆ ends (segments.map Segment.points) := by
  induction segments with
  | nil => exact List.Subset.refl []
  | cons s segments ih =>
    rw [List.map_cons, Point.ends_cons]
    cases segments with
    | nil => exact List.Subset.refl _
    | cons r segments =>
      obtain ⟨rest, hrest, hpoints⟩ := exists_chainPoints s r segments
      rw [hrest] at ih
      rw [hpoints]
      refine List.cons_subset_cons _ (List.cons_subset_cons _ ?_)
      split
      · exact List.subset_of_cons_subset ih
      · exact ih

/-- A start that is left out where segments meet is like the end before it. -/
theorem cover_chainPoints (hvisit : Segment.VisitsAgree segments) :
    Cover (chainPoints segments) (ends (segments.map Segment.points)) := by
  induction segments with
  | nil => exact nofun
  | cons s segments ih =>
    have hcover := ih (hvisit.of_subset (List.subset_cons_self s segments))
    cases segments with
    | nil => exact Point.cover_of_subset (List.Subset.refl _)
    | cons r segments =>
      obtain ⟨rest, hrest, hpoints⟩ := exists_chainPoints s r segments
      rw [hrest] at hcover
      rw [List.map_cons, Point.ends_cons, hpoints]
      refine List.forall_mem_cons.mpr ⟨⟨_, List.mem_cons_self, .refl _⟩, List.forall_mem_cons.mpr
        ⟨⟨s.stop.point, by simp, .refl _⟩, fun q hq => ?_⟩⟩
      obtain ⟨p, hp, hpq⟩ := hcover q hq
      cases hmeets : s.stop.meets r.start with
      | false => exact ⟨p, by simpa using .inr (.inr (List.mem_cons.mp hp)), hpq⟩
      | true =>
        -- the start of the second segment is left out, and the end of the first stands for it
        rcases List.mem_cons.mp hp with rfl | hp
        · have halike := Place.alike_of_meets hmeets (hvisit s (.head _) r (.tail _ (.head _)))
          exact ⟨s.stop.point, by simp, halike.trans hpq⟩
        · exact ⟨p, by simp [hp], hpq⟩

end Polyline

/-! ### The bounds of a drawing -/

namespace Bounds

open Point (ends Cover)
open Polyline (chain chainPoints)

variable {segments : List Segment} {lines : List (List Point)}

theorem ofPolylines_of_ne_nil (h : lines ≠ []) :
    ofPolylines lines = .ok (ofPoints lines.flatten) := by
  rw [ofPolylines, if_neg (by rwa [List.isEmpty_iff])]

theorem ofPolylines_chain (h : segments ≠ []) :
    ofPolylines ((chain segments).map Polyline.points) = .ok (ofPoints (chainPoints segments)) :=
  ofPolylines_of_ne_nil (by simpa using Polyline.chain_ne_nil h)

theorem fits_chain (hvisit : Segment.VisitsAgree segments) :
    (ofPoints (chainPoints segments)).Fits (ends (segments.map Segment.points)) :=
  (fits_ofPoints _).of_cover (Polyline.chainPoints_subset segments)
    (Polyline.cover_chainPoints hvisit)

/-- Segments whose visits agree have bounds if there are any segments. The
bounds are the extreme coordinates of all ends of the segments, and the same for the segments in any
other order, and for any lines that are cut into the segments in some order. -/
theorem bounds_of_segments (segments : List Segment) (hvisit : Segment.VisitsAgree segments) :
    (segments = [] →
      ofPolylines ((chain segments).map Polyline.points) = .error .nothingDrawn) ∧
    (segments ≠ [] → ∃ b, ofPolylines ((chain segments).map Polyline.points) = .ok b ∧
      b.Fits (ends (segments.map Segment.points)) ∧
      (∀ others : List Segment, others.Perm segments →
        ∃ c, ofPolylines ((chain others).map Polyline.points) = .ok c ∧ c.agrees b = true) ∧
      ∀ (lines : List (List Point)) (order : List (Point × Point)),
        (∀ line ∈ lines, 2 ≤ line.length) → order.Perm (segments.map Segment.points) →
        (lines.flatMap List.consecutivePairs).Forall₂
          (fun a b => a.1.Alike b.1 ∧ a.2.Alike b.2) order →
        ∃ c, ofPolylines lines = .ok c ∧ c.agrees b = true) := by
  refine ⟨fun h => h ▸ rfl, fun hne => ⟨_, ofPolylines_chain hne, fits_chain hvisit, ?_, ?_⟩⟩
  · intro others hperm
    have hothers : others ≠ [] := fun h => hne (h ▸ hperm).nil_eq.symm
    have hfits := fits_chain (hvisit.of_subset hperm.subset)
    have hpoints := hperm.map Segment.points
    exact ⟨_, ofPolylines_chain hothers, hfits.agrees (fits_chain hvisit)
      (Point.cover_of_subset (Point.ends_subset hpoints.symm.subset))
      (Point.cover_of_subset (Point.ends_subset hpoints.subset))⟩
  · intro lines order htwo hperm hcut
    have hlines : lines ≠ [] := by
      rintro rfl
      cases hcut
      exact hne (List.map_eq_nil_iff.mp hperm.nil_eq.symm)
    obtain ⟨hcover, hcover'⟩ := Point.cover_of_cut htwo hcut
    exact ⟨_, ofPolylines_of_ne_nil hlines, (fits_ofPoints _).agrees (fits_chain hvisit)
      (hcover.trans (Point.cover_of_subset (Point.ends_subset hperm.symm.subset)))
      ((Point.cover_of_subset (Point.ends_subset hperm.subset)).trans hcover')⟩

/-- A line to a visited point without an abscissa, a line that goes on from there without end, and
a dot at the other zero. -/
def blurred : List Segment :=
  let lost : Place := ⟨⟨Number.Binary64.notANumber, 2.0⟩, some 1⟩
  [⟨.ofPoint ⟨0.0, 0.0⟩, lost⟩, ⟨lost, .ofPoint ⟨-0.0, Number.Binary64.infinity false⟩⟩,
    .ofPoints (⟨-0.0, 1.0⟩, ⟨-0.0, 1.0⟩)]

theorem blurred_bounds :
    (chain blurred).map (·.points.length) = [3, 2] ∧
    ∃ b, ofPolylines ((chain blurred).map Polyline.points) = .ok b ∧
      b.agrees ⟨0.0, 0.0, 0.0, Number.Binary64.infinity false⟩ = true ∧
      b.Fits (ends (blurred.map Segment.points)) ∧
      ∃ c, ofPolylines ((chain blurred.reverse).map Polyline.points) = .ok c ∧
        c.agrees b = true := by
  have hvisit : Segment.VisitsAgree blurred := by decide +kernel
  obtain ⟨b, hb, hfits, hothers, -⟩ :=
    (bounds_of_segments blurred hvisit).2 (List.cons_ne_nil _ _)
  have hread : (ofPolylines ((chain blurred).map Polyline.points)).toOption.any
      (·.agrees ⟨0.0, 0.0, 0.0, Number.Binary64.infinity false⟩) = true := by decide +kernel
  rw [hb] at hread
  exact ⟨by decide +kernel, b, hb, hread, hfits, hothers _ (List.reverse_perm _)⟩

end Bounds

end TurtleGrammar
