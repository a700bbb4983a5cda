import TurtleGrammar.Proofs.Playback.Ticks

/-! A turtle in single steps. Its place, its heading, its stack, its record and its anchor are
variables of their own, changed one at a time, and what has been changed stays changed when a later
step fails. Done so, whatever a turtle does comes to the same as at once: the anchor is always the
place of the lowest frame, and when a step fails nothing has been changed yet. -/

namespace TurtleGrammar

/-- The variables of a turtle. -/
structure Parts where
  step : StepLength
  place : Place
  heading : Float
  /-- The remembered frames, the latest last. -/
  stack : List Frame
  /-- The symbols applied with the place each left, the latest last. -/
  recorded : List (Symbol × Place)
  /-- Where the record starts. -/
  anchor : Place
  travelled : Nat

namespace Parts

/-- The place and heading as they are. -/
def frame (p : Parts) : Frame := ⟨p.place, p.heading⟩

/-- The point one step along the heading. -/
def ahead (p : Parts) : Point :=
  { x := p.place.point.x + p.step.value * p.heading.cos
    y := p.place.point.y + p.step.value * p.heading.sin }

end Parts

/-- A turtle by its variables. -/
def Turtle.parts (t : Turtle) : Parts where
  step := t.step
  place := t.place
  heading := t.heading
  stack := t.stack
  recorded := t.recorded
  anchor := t.anchor
  travelled := t.travelled

/-- A turtle by its variables, with the system it plays. -/
def Playback.parts (p : Playback) : Parts × LSystem := (p.turtle.parts, p.system)

/-- No two turtles have the same variables. -/
theorem Turtle.parts_injective : Function.Injective Turtle.parts := by
  rintro ⟨step, place, heading, base, branches, trail, travelled⟩
    ⟨step', place', heading', base', branches', trail', travelled'⟩ h
  simp only [parts, stack, recorded, anchor, Parts.mk.injEq, List.cons.injEq,
    List.reverse_inj] at h
  obtain ⟨rfl, rfl, rfl, ⟨rfl, rfl⟩, rfl, -, rfl⟩ := h
  rfl

/-- Steps that change the variables of a turtle and may fail. -/
abbrev Steps := EStateM TurtleError Parts

namespace Steps

/-- The place and the heading are set first. The new frame and the anchor are made of what they
are. -/
def restart (origin : Point) (heading : Float) : Steps Unit := do
  modify fun p => { p with place := .ofPoint origin }
  modify fun p => { p with heading }
  modify fun p => { p with stack := [p.frame] }
  modify fun p => { p with recorded := [] }
  modify fun p => { p with anchor := p.place }

/-- The frame that is pushed is given back. -/
def push : Steps Frame := do
  let frame := (← get).frame
  modify fun p => { p with stack := p.stack ++ [frame] }
  return frame

/-- The frame is taken off the stack before the turtle is where the frame says. -/
def pop : Steps Frame := do
  let stack := (← get).stack
  if h : stack.length ≤ 1 then throw .underflow
  else
    let frame := stack.getLast (List.ne_nil_of_length_pos (by omega))
    modify fun p => { p with stack := stack.dropLast }
    modify fun p => { p with place := frame.place }
    modify fun p => { p with heading := frame.heading }
    return frame

/-- The stack is emptied before the new frame is put on it. -/
def reset : Steps Unit := do
  modify fun p => { p with stack := [] }
  modify fun p => { p with stack := p.stack ++ [p.frame] }
  modify fun p => { p with recorded := [] }
  modify fun p => { p with anchor := p.place }

/-- The direction is asked for before the place is set. -/
def move : Steps Unit := do
  let p ← get
  if p.heading.isInf then throw .noDirection
  else set { p with place := ⟨p.ahead, some p.travelled⟩, travelled := p.travelled + 1 }

/-- Turns by an angle, against the clock. -/
def turn (angle : Float) : Steps Unit := modify fun p => { p with heading := p.heading + angle }

/-- What a symbol does to everything but the record. -/
def act (s : Symbol) (delta : Float) : Steps Unit :=
  match s with
  | .forward _ | .skip => move
  | .turnLeft => turn delta
  | .turnRight => turn (-delta)
  | .push => discard push
  | .pop => discard pop
  | .reset => reset
  | .node _ => pure ()

/-- The symbol does what it does, and only then is it recorded. The place is given back. -/
def update (s : Symbol) (delta : Float) : Steps Place := do
  act s delta
  if s ≠ .reset then modify fun p => { p with recorded := p.recorded ++ [(s, p.place)] }
  return (← get).place

/-- Steps of a turtle beside the system that it plays. -/
def beside {α : Type} (x : Steps α) : EStateM TurtleError (Parts × LSystem) α :=
  fun (p, system) =>
    match x p with
    | .ok a p => .ok a (p, system)
    | .error e p => .error e (p, system)

/-- The turtle applies the next symbol, and only then does the system go on. -/
def tick : EStateM TurtleError (Parts × LSystem) (Option Segment) := do
  let (p, system) ← get
  let s := system.peek
  let place ← beside (update s system.definition.delta)
  modify fun (p, system) => (p, system.advance)
  return if s.draws then some ⟨p.place, place⟩ else none

/-- All the steps were made that lead to a new turtle, or none. -/
def whole {α : Type} (t : Turtle) :
    Except TurtleError (α × Turtle) → EStateM.Result TurtleError Parts α
  | .ok (a, u) => .ok a u.parts
  | .error e => .error e t.parts

variable {t u : Turtle} {p : Parts} {s : Symbol} {delta : Float} {e : TurtleError}
  {σ α β : Type}

section Binds

variable {x : EStateM TurtleError σ α} {f : α → EStateM TurtleError σ β} {r r' : σ} {a : α}

theorem run_get_bind {f : σ → EStateM TurtleError σ β} : (get >>= f).run r = (f r).run r := rfl

theorem run_bind_of_ok (h : x.run r = .ok a r') : (x >>= f).run r = (f a).run r' := by
  simp only [EStateM.run, bind, EStateM.bind] at h ⊢
  rw [h]

theorem run_bind_of_error (h : x.run r = .error e r') : (x >>= f).run r = .error e r' := by
  simp only [EStateM.run, bind, EStateM.bind] at h ⊢
  rw [h]

end Binds

/-! ### A turtle -/

/-- Whatever the variables are, they are set to those of a turtle that starts over. -/
theorem run_restart (p : Parts) (origin : Point) (heading : Float) :
    (restart origin heading).run p =
      .ok () { (Turtle.start p.step origin heading).parts with travelled := p.travelled } := rfl

theorem run_push : push.run t.parts = .ok t.frame t.push.parts := by
  have hstack : t.stack ++ [t.frame] = t.push.stack := by
    rw [Turtle.stack, Turtle.stack, Turtle.push, List.reverse_cons, List.cons_append]
  show EStateM.Result.ok t.frame { t.parts with stack := t.stack ++ [t.frame] } = _
  rw [hstack]
  rfl

theorem run_pop_of_concat {front : List Frame} {f : Frame} (hstack : p.stack = front ++ [f])
    (hfront : front ≠ []) :
    pop.run p = .ok f { p with stack := front, place := f.place, heading := f.heading } := by
  obtain ⟨step, place, heading, stack, recorded, anchor, travelled⟩ := p
  subst hstack
  have hlength : ¬(front ++ [f]).length ≤ 1 := by
    have := List.length_pos_iff.mpr hfront
    rw [List.length_append, List.length_singleton]
    omega
  rw [pop, run_get_bind, dif_neg hlength]
  simp only [List.getLast_append_singleton, List.dropLast_concat]
  rfl

theorem run_pop : pop.run t.parts = whole t (t.pop.map fun u => (u.frame, u)) := by
  cases hb : t.branches with
  | nil =>
    have hlength : t.parts.stack.length ≤ 1 := by
      show (t.base :: t.branches.reverse).length ≤ 1
      rw [hb]
      exact Nat.le_refl 1
    rw [Turtle.pop_of_nil hb, pop, run_get_bind, dif_pos hlength]
    rfl
  | cons f rest =>
    have hstack : t.parts.stack = (t.base :: rest.reverse) ++ [f] := by
      show t.base :: t.branches.reverse = _
      rw [hb, List.reverse_cons, List.cons_append]
    rw [Turtle.pop_of_cons hb, run_pop_of_concat hstack (List.cons_ne_nil _ _)]
    rfl

theorem run_reset : reset.run t.parts = .ok () t.reset.parts := rfl

theorem run_move : move.run t.parts = whole t (t.move.map fun u => ((), u)) := by
  rw [move, run_get_bind]
  by_cases h : t.heading.isInf = true
  · rw [Turtle.move_of_infinite h]
    exact congrArg (EStateM.run · t.parts) (if_pos h)
  · rw [Turtle.move_of_finite h]
    exact congrArg (EStateM.run · t.parts) (if_neg h)

theorem run_discard {x : Steps α} {r : Except TurtleError (α × Turtle)}
    (h : x.run t.parts = whole t r) :
    (discard x : Steps Unit).run t.parts = whole t (r.map fun (_, u) => ((), u)) := by
  cases r with
  | error e => exact run_bind_of_error h
  | ok r => exact run_bind_of_ok h

theorem run_act : (act s delta).run t.parts = whole t ((t.act s delta).map fun u => ((), u)) := by
  cases s with
  | forward _ | skip => exact run_move
  | push => exact run_discard (r := .ok (t.frame, t.push)) run_push
  | pop =>
    rw [act, run_discard run_pop, Turtle.act]
    cases t.pop <;> rfl
  | reset => exact run_reset
  | turnLeft | turnRight | node _ => rfl

theorem run_update (t : Turtle) (s : Symbol) (delta : Float) :
    (update s delta).run t.parts =
      whole t ((t.update s delta).map fun u => (u.place, u)) := by
  cases ha : t.act s delta with
  | error e =>
    rw [Turtle.update_of_act_error ha]
    exact run_bind_of_error (run_act.trans (by rw [ha]; rfl))
  | ok u =>
    have hact : (act s delta).run t.parts = .ok () u.parts := run_act.trans (by rw [ha]; rfl)
    rw [update, run_bind_of_ok hact]
    by_cases hs : s = .reset
    · subst hs
      cases ha
      rfl
    · have hrecorded : u.recorded ++ [(s, u.place)] =
          ({ u with trail := (s, u.place) :: u.trail } : Turtle).recorded := by
        rw [Turtle.recorded, Turtle.recorded, List.reverse_cons]
      rw [Turtle.update_of_act hs ha, if_pos hs]
      show EStateM.Result.ok u.place { u.parts with recorded := u.recorded ++ [(s, u.place)] } = _
      rw [hrecorded]
      rfl

/-! ### A tick -/

theorem run_beside_of_ok {x : Steps α} {a : α} {p' : Parts} {system : LSystem}
    (h : x.run p = .ok a p') : (beside x).run (p, system) = .ok a (p', system) := by
  simp only [EStateM.run, beside] at h ⊢
  rw [h]

theorem run_beside_of_error {x : Steps α} {p' : Parts} {system : LSystem}
    (h : x.run p = .error e p') : (beside x).run (p, system) = .error e (p', system) := by
  simp only [EStateM.run, beside] at h ⊢
  rw [h]

/-- A tick in single steps does what a tick does, and when it fails no step has been made. -/
theorem run_tick (p : Playback) :
    tick.run p.parts =
      match p.tick with
      | .ok (d, q) => .ok d q.parts
      | .error e => .error e p.parts := by
  have hrun := run_update p.turtle p.system.peek p.system.definition.delta
  rw [tick, run_get_bind]
  cases hu : p.turtle.update p.system.peek p.system.definition.delta with
  | error e =>
    rw [hu] at hrun
    rw [Playback.tick_of_error hu]
    exact run_bind_of_error (run_beside_of_error hrun)
  | ok u =>
    rw [hu] at hrun
    rw [Playback.tick]
    simp only [hu]
    exact run_bind_of_ok (run_beside_of_ok hrun)

end Steps

end TurtleGrammar
