import TurtleGrammar.Drawing.Polyline
import TurtleGrammar.Proofs.Playback.Ticks

/-! A turtle later in its life. Moves that a turtle made before it started over show only in how its
visits are numbered: it does the same as a turtle without these moves, and the lines it draws have
the same points and go on in one another at the same places. -/

namespace TurtleGrammar

/-- A place as a turtle numbers it that made `k` more moves before. -/
def Place.later (k : Nat) (p : Place) : Place := { p with visit := p.visit.map (· + k) }

def Frame.later (k : Nat) (f : Frame) : Frame := { f with place := f.place.later k }

def Segment.later (k : Nat) (s : Segment) : Segment := ⟨s.start.later k, s.stop.later k⟩

/-- The turtle with `k` more moves made before. -/
def Turtle.later (k : Nat) (t : Turtle) : Turtle :=
  { step := t.step
    place := t.place.later k
    heading := t.heading
    base := t.base.later k
    branches := t.branches.map (Frame.later k)
    trail := t.trail.map fun (s, place) => (s, place.later k)
    travelled := t.travelled + k }

def Playback.later (k : Nat) (p : Playback) : Playback := { p with turtle := p.turtle.later k }

def Playback.Run.later (k : Nat) (r : Run) : Run :=
  { r with segments := r.segments.map (Segment.later k), final := r.final.later k }

def Polyline.later (k : Nat) (p : Polyline) : Polyline :=
  ⟨p.first.later k, p.second.later k, p.rest.map (Place.later k)⟩

variable {k n : Nat} {t : Turtle} {s : Symbol} {delta : Float} {p : Playback}

/-! ### No moves made before -/

@[simp] theorem Place.later_zero (a : Place) : a.later 0 = a := by
  cases a
  simp [later]

@[simp] theorem Frame.later_zero (f : Frame) : f.later 0 = f := by
  simp [later]

@[simp] theorem Segment.later_zero (s : Segment) : s.later 0 = s := by
  simp [later]

@[simp] theorem Turtle.later_zero (t : Turtle) : t.later 0 = t := by
  have hframes : Frame.later 0 = id := funext Frame.later_zero
  simp [later, hframes]

/-! ### Symbols -/

namespace Turtle

/-- To start over is to be a new turtle, but for the moves made before. -/
theorem restart_eq_later (t : Turtle) (origin : Point) (heading : Float) :
    t.restart origin heading = (start t.step origin heading).later t.travelled := by
  simp [restart, start, later, Place.later, Frame.later, Place.ofPoint]

theorem restart_later {origin : Point} {heading : Float} :
    (t.later k).restart origin heading = (t.restart origin heading).later k := rfl

theorem move_later : (t.later k).move = t.move.map (later k) := by
  have hheading : (t.later k).heading = t.heading := rfl
  have hahead : (t.later k).ahead = t.ahead := rfl
  by_cases h : t.heading.isInf = true
  · rw [move_of_infinite h, move_of_infinite (hheading ▸ h), Except.map]
  · rw [move_of_finite h, move_of_finite (hheading ▸ h), hahead, Except.map]
    simp [later, Place.later, Nat.add_right_comm]

theorem pop_later : (t.later k).pop = t.pop.map (later k) := by
  cases h : t.branches with
  | nil =>
    have hlater : (t.later k).branches = [] := by simp [later, h]
    rw [pop_of_nil h, pop_of_nil hlater, Except.map]
  | cons f rest =>
    have hlater : (t.later k).branches = f.later k :: rest.map (Frame.later k) := by
      simp [later, h]
    rw [pop_of_cons h, pop_of_cons hlater, Except.map]
    rfl

theorem act_later : (t.later k).act s delta = (t.act s delta).map (later k) := by
  cases s with
  | forward _ | skip => exact move_later
  | pop => exact pop_later
  | turnLeft | turnRight | push | reset | node _ => rfl

theorem update_later : (t.later k).update s delta = (t.update s delta).map (later k) := by
  cases h : t.act s delta with
  | error e =>
    have hlater : (t.later k).act s delta = .error e := by rw [act_later, h, Except.map]
    rw [update_of_act_error h, update_of_act_error hlater, Except.map]
  | ok u =>
    have hlater : (t.later k).act s delta = .ok (u.later k) := by rw [act_later, h, Except.map]
    by_cases hs : s = .reset
    · subst hs
      cases h
      rfl
    · rw [update_of_act hs h, update_of_act hs hlater, Except.map]
      rfl

theorem segmentsFrom_later {last : Place} {entries : List (Symbol × Place)} :
    segmentsFrom (last.later k) (entries.map fun (s, place) => (s, place.later k)) =
      (segmentsFrom last entries).map (Segment.later k) := by
  induction entries generalizing last with
  | nil => rfl
  | cons entry entries ih =>
    obtain ⟨s, place⟩ := entry
    rw [List.map_cons, segmentsFrom, segmentsFrom]
    split
    · rw [ih, List.map_cons, Segment.later]
    · exact ih

theorem segments_later : (t.later k).segments = t.segments.map (Segment.later k) := by
  rw [segments, segments, ← segmentsFrom_later, recorded, recorded, List.map_reverse]
  rfl

end Turtle

/-! ### Ticks -/

namespace Playback

theorem tick_later :
    (p.later k).tick = p.tick.map fun (d, q) => (d.map (Segment.later k), q.later k) := by
  have hupdate : (p.turtle.later k).update p.system.peek p.system.definition.delta =
      (p.turtle.update p.system.peek p.system.definition.delta).map (Turtle.later k) :=
    Turtle.update_later
  cases h : p.turtle.update p.system.peek p.system.definition.delta with
  | error e =>
    rw [h, Except.map] at hupdate
    rw [tick_of_error h, tick_of_error (p := p.later k) hupdate, Except.map]
  | ok u =>
    rw [h, Except.map] at hupdate
    simp only [tick, later, h, hupdate, bind, Except.bind, pure, Except.pure, Except.map]
    by_cases hdraws : p.system.peek.draws = true
    · simp [hdraws, Segment.later, Turtle.later]
    · simp [hdraws]

theorem run_later : (p.later k).run n = (p.run n).later k := by
  induction n generalizing p with
  | zero => simp [run, Run.extend, Run.start, Run.later]
  | succ n ih =>
    cases h : p.tick with
    | error e =>
      have hlater : (p.later k).tick = .error e := by rw [tick_later, h, Except.map]
      rw [run_succ_of_error h, run_succ_of_error hlater]
      simp [Run.start, Run.later]
    | ok r =>
      obtain ⟨d, q⟩ := r
      have hlater : (p.later k).tick = .ok (d.map (Segment.later k), q.later k) := by
        rw [tick_later, h, Except.map]
      have hevents : (p.later k).events = p.events := rfl
      rw [run_succ_of_ok h, run_succ_of_ok hlater, ih, hevents]
      cases d <;> simp [Run.later]

end Playback

/-! ### Lines -/

theorem Place.meets_later {a b : Place} : (a.later k).meets (b.later k) = a.meets b := by
  have hvisit : ((a.later k).visit == (b.later k).visit) = (a.visit == b.visit) := by
    cases ha : a.visit <;> cases hb : b.visit <;> simp [later, ha, hb]
  have hsome : (a.later k).visit.isSome = a.visit.isSome := Option.isSome_map
  rw [meets, meets, hvisit, hsome]
  rfl

theorem Segment.points_later (segments : List Segment) :
    (segments.map (Segment.later k)).map Segment.points = segments.map Segment.points := by
  rw [List.map_map]
  rfl

namespace Polyline

theorem prepend_later {s : Segment} {ps : List Polyline} :
    prepend (s.later k) (ps.map (later k)) = (prepend s ps).map (later k) := by
  cases ps with
  | nil => rfl
  | cons p ps =>
    have hmeets : (s.later k).stop.meets (p.later k).first = s.stop.meets p.first :=
      Place.meets_later
    rw [List.map_cons, prepend, prepend, hmeets]
    split <;> rfl

theorem chain_later (segments : List Segment) :
    chain (segments.map (Segment.later k)) = (chain segments).map (later k) := by
  induction segments with
  | nil => rfl
  | cons s segments ih =>
    have hchain (s : Segment) (rest : List Segment) :
        chain (s :: rest) = prepend s (chain rest) := rfl
    rw [List.map_cons, hchain, hchain, ih, prepend_later]

theorem points_chain_later (segments : List Segment) :
    (chain (segments.map (Segment.later k))).map points = (chain segments).map points := by
  rw [chain_later, List.map_map]
  refine List.map_congr_left fun p _ => ?_
  simp [points, places, later, Place.later]

end Polyline

end TurtleGrammar
