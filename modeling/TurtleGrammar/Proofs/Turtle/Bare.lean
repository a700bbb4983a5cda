import Mathlib.Logic.Function.Iterate
import TurtleGrammar.Proofs.Playback.Balance

/-! A turtle as it shows itself: places are told by their points alone, and the moves of its life
are not counted. What a turtle shows after a symbol, and what a tick gives, depends on nothing but
what it showed before. A turtle that starts over shows nothing of its past. -/

namespace TurtleGrammar

/-- The place of a point, whatever led there. -/
def Place.bare (p : Place) : Place := .ofPoint p.point

def Frame.bare (f : Frame) : Frame := { f with place := f.place.bare }

def Segment.bare (s : Segment) : Segment := ⟨s.start.bare, s.stop.bare⟩

/-- The turtle with all places told by their points, and with no moves made. -/
def Turtle.bare (t : Turtle) : Turtle :=
  { step := t.step
    place := t.place.bare
    heading := t.heading
    base := t.base.bare
    branches := t.branches.map Frame.bare
    trail := t.trail.map fun (s, place) => (s, place.bare)
    travelled := 0 }

def Playback.bare (p : Playback) : Playback := { p with turtle := p.turtle.bare }

/-- What a tick gives back. -/
def Playback.answer (p : Playback) : Except TurtleError (Option Segment) :=
  p.tick.map fun (drawn, _) => drawn.map Segment.bare

variable {t u : Turtle} {s : Symbol} {delta : Float} {p q : Playback}

/-- Two results that are mapped to the same fail alike or hold what is mapped to the same. -/
theorem map_eq_map_cases {ε α β : Type} {f : α → β} {x y : Except ε α} (h : x.map f = y.map f) :
    (∃ e, x = .error e ∧ y = .error e) ∨ ∃ a b, x = .ok a ∧ y = .ok b ∧ f a = f b := by
  cases x with
  | error e =>
    cases y with
    | error e' =>
      cases h
      exact .inl ⟨e, rfl, rfl⟩
    | ok b => cases h
  | ok a =>
    cases y with
    | error e => cases h
    | ok b => exact .inr ⟨a, b, rfl, rfl, Except.ok.inj h⟩

theorem Place.bare_bare (a : Place) : a.bare.bare = a.bare := rfl

theorem Frame.bare_bare (f : Frame) : f.bare.bare = f.bare := rfl

/-! ### Symbols -/

namespace Turtle

/-- A turtle that starts over shows no more than a new one does. -/
theorem bare_reset (t : Turtle) : t.reset.bare = start t.step t.position t.heading := rfl

theorem bare_restart (t : Turtle) (origin : Point) (heading : Float) :
    (t.restart origin heading).bare = start t.step origin heading := rfl

theorem bare_start (step : StepLength) (origin : Point) (heading : Float) :
    (start step origin heading).bare = start step origin heading := rfl

theorem move_bare (t : Turtle) : t.bare.move.map bare = t.move.map bare := by
  have hheading : t.bare.heading = t.heading := rfl
  have hahead : t.bare.ahead = t.ahead := rfl
  by_cases h : t.heading.isInf = true
  · rw [move_of_infinite h, move_of_infinite (hheading ▸ h)]
  · rw [move_of_finite h, move_of_finite (hheading ▸ h), hahead, Except.map, Except.map]
    simp [bare, Place.bare, Place.ofPoint, Frame.bare_bare]

theorem pop_bare (t : Turtle) : t.bare.pop.map bare = t.pop.map bare := by
  cases h : t.branches with
  | nil =>
    have hbare : t.bare.branches = [] := by simp [bare, h]
    rw [pop_of_nil h, pop_of_nil hbare]
  | cons f rest =>
    have hbare : t.bare.branches = f.bare :: rest.map Frame.bare := by simp [bare, h]
    rw [pop_of_cons h, pop_of_cons hbare, Except.map, Except.map]
    simp [bare, Frame.bare, Place.bare_bare]

theorem act_bare (t : Turtle) (s : Symbol) (delta : Float) :
    (t.bare.act s delta).map bare = (t.act s delta).map bare := by
  cases s with
  | forward _ | skip => exact t.move_bare
  | pop => exact t.pop_bare
  | turnLeft | turnRight | push | reset | node _ =>
    simp [act, Except.map, bare, turn, push, reset, frame, Frame.bare, Place.bare_bare]

theorem update_bare (t : Turtle) (s : Symbol) (delta : Float) :
    (t.bare.update s delta).map bare = (t.update s delta).map bare := by
  by_cases hs : s = .reset
  · subst hs
    exact t.act_bare .reset delta
  rcases map_eq_map_cases (t.act_bare s delta) with ⟨e, h, h'⟩ | ⟨u', u, h, h', hu⟩
  · rw [update_of_act_error h, update_of_act_error h']
  · rw [update_of_act hs h, update_of_act hs h', Except.map, Except.map]
    simp only [bare, Turtle.mk.injEq] at hu ⊢
    simp [hu]

/-- What a turtle shows after a symbol depends on nothing but what it showed before. -/
theorem update_congr (h : t.bare = u.bare) (s : Symbol) (delta : Float) :
    (t.update s delta).map bare = (u.update s delta).map bare := by
  rw [← t.update_bare, h, u.update_bare]

end Turtle

/-! ### Ticks -/

namespace Playback

theorem tick_of_update (h : p.turtle.update p.system.peek p.system.definition.delta = .ok u) :
    p.tick = .ok (if p.system.peek.draws then some ⟨p.turtle.place, u.place⟩ else none,
      ⟨u, p.system.advance⟩) := by
  simp only [tick, h, bind, Except.bind, pure, Except.pure]

/-- Two playbacks that show the same give the same at a tick, and then show the same again. -/
theorem tick_congr (h : p.bare = q.bare) :
    p.answer = q.answer ∧ p.attempt.bare = q.attempt.bare := by
  have hsystem : p.system = q.system := (congrArg system h : p.bare.system = q.bare.system)
  have hturtle : p.turtle.bare = q.turtle.bare := congrArg turtle h
  have hplace : p.turtle.place.bare = q.turtle.place.bare := congrArg Turtle.place hturtle
  rcases map_eq_map_cases
    (Turtle.update_congr hturtle p.system.peek p.system.definition.delta) with
    ⟨e, hp, hq⟩ | ⟨u, u', hp, hq, hu⟩
  · rw [hsystem] at hq
    rw [answer, answer, attempt, attempt, tick_of_error hp, tick_of_error hq]
    exact ⟨rfl, h⟩
  · rw [hsystem] at hq
    have hplace' : u.place.bare = u'.place.bare := congrArg Turtle.place hu
    rw [answer, answer, attempt, attempt, tick_of_update hp, tick_of_update hq, hsystem]
    refine ⟨?_, by rw [bare, bare, hu]⟩
    cases q.system.peek.draws with
    | false => rfl
    | true => simp [Except.map, Segment.bare, hplace, hplace']

theorem iterate_congr (h : p.bare = q.bare) (n : Nat) :
    (attempt^[n] p).bare = (attempt^[n] q).bare := by
  induction n generalizing p q with
  | zero => exact h
  | succ n ih => exact ih (tick_congr h).2

end Playback

end TurtleGrammar
