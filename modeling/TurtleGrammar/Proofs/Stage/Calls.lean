import Mathlib.Data.List.Basic
import TurtleGrammar.Failure
import TurtleGrammar.Proofs.Stage.Acts

/-! Calls of players, one after another, and the replies to them. No call changes the step of a
turtle, and where a player starts over is what it was given last, when it came on the stage or at a
switch. -/

namespace TurtleGrammar

namespace Player

/-- A call of a player. -/
inductive Call
  | tick
  | run (ticks : Int)
  | replay
  | segments
  | switch (system : Nat) (origin : Option Point) (heading : Option Float)

namespace Call

def target? : Call → Option Nat
  | .switch system .. => some system
  | .tick | .run _ | .replay | .segments => none

def origin? : Call → Option Point
  | .switch _ origin _ => origin
  | .tick | .run _ | .replay | .segments => none

def heading? : Call → Option Float
  | .switch _ _ heading => heading
  | .tick | .run _ | .replay | .segments => none

/-- What the last call that gives something gives, or what there was at first. -/
def latest {α : Type} (given : Call → Option α) (first : α) (calls : List Call) : α :=
  (calls.filterMap given).getLast?.getD first

end Call

/-- The player after a call. -/
def called (p : Player) (c : Call) : Player :=
  { p with
    system := c.target?.getD p.system
    origin := c.origin?.getD p.origin
    heading := c.heading?.getD p.heading }

end Player

/-- What the caller of a player is told. Lines come in a list, also the one of a tick. -/
abbrev Reply := Outcome Failure (List Segment)

/-- What the caller is told of a run. Of one that fails it gets no lines. -/
def Playback.Run.reply (r : Run) : Reply where
  events := r.events.toList
  result :=
    match r.failure with
    | none => .ok r.segments.toList
    | some e => .error (.turtle e)

namespace Stage

/-- Some ticks of a player. -/
def playBy (stage : Stage) (p : Player) (ticks : Playback → Nat) : Option (Reply × Stage) :=
  (stage.play p.turtle p.system ticks).map fun (r, after) => (r.reply, after)

/-- The stage after a call of a player and the reply to it, if everything that is named is there. -/
def call (stage : Stage) (player : Nat) (c : Player.Call) : Option (Reply × Stage) := do
  let p ← stage.players[player]?
  match c with
  | .tick => stage.playBy p fun _ => 1
  | .run n =>
    match Playback.ticks n with
    | .ok n => stage.playBy p fun _ => n
    | .error r => some (⟨[], .error (.refused r)⟩, stage)
  | .replay => stage.playBy p fun q => q.system.remaining
  | .segments => stage.turtles[p.turtle]?.map fun t => (⟨[], .ok t.segments⟩, stage)
  | .switch system origin heading =>
    (stage.switch player system origin heading).map fun (events, after) => (⟨events, .ok []⟩, after)

/-- The stage after some calls, each of the player of a number, and the replies to them. -/
def calls (stage : Stage) : List (Nat × Player.Call) → Option (List Reply × Stage)
  | [] => some ([], stage)
  | (player, c) :: rest => do
    let (reply, next) ← stage.call player c
    let (replies, last) ← next.calls rest
    pure (reply :: replies, last)

/-- The stage with a player put in its place and the player's turtle starting over. -/
def startOver (stage : Stage) (player : Nat) (p : Player) (t : Turtle) : Stage :=
  { stage with
    players := stage.players.set player p
    turtles := stage.turtles.set p.turtle (t.restart p.origin p.heading) }

/-- The calls of one player. -/
def callsOf (player : Nat) (history : List (Nat × Player.Call)) : List Player.Call :=
  history.filterMap fun (i, c) => if i = player then some c else none

end Stage

/-! ### What was given last -/

namespace Player

variable {α : Type} {given : Call → Option α} {first : α} {c : Call} {calls : List Call}

theorem Call.latest_cons :
    latest given first (c :: calls) = latest given ((given c).getD first) calls := by
  cases h : given c with
  | none => rw [latest, latest, List.filterMap_cons_none h, Option.getD_none]
  | some a =>
    rw [latest, latest, List.filterMap_cons_some h, List.getLast?_cons, Option.getD_some,
      Option.getD_some]

theorem turtle_called (p : Player) (calls : List Call) :
    (calls.foldl called p).turtle = p.turtle := by
  induction calls generalizing p with
  | nil => rfl
  | cons c calls ih => exact ih (p.called c)

theorem latest_called {f : Player → α} (hf : ∀ p c, f (p.called c) = (given c).getD (f p))
    (p : Player) (calls : List Call) :
    f (calls.foldl called p) = Call.latest given (f p) calls := by
  induction calls generalizing p with
  | nil => rfl
  | cons c calls ih => rw [List.foldl_cons, ih, Call.latest_cons, hf]

end Player

/-! ### One call -/

theorem Turtle.step_update {t u : Turtle} {s : Symbol} {delta : Float}
    (h : t.update s delta = .ok u) : u.step = t.step := by
  by_cases hs : s = .reset
  · subst hs
    cases h
    rfl
  · exact (update_keeps hs h).2.1

theorem Playback.step_run (p : Playback) (n : Nat) :
    (p.run n).final.turtle.step = p.turtle.step := by
  induction n generalizing p with
  | zero => rfl
  | succ n ih =>
    cases h : p.tick with
    | error e => rw [run_succ_of_error h, Run.start]
    | ok r =>
      obtain ⟨d, q⟩ := r
      rw [run_succ_of_ok h, ih, Turtle.step_update (tick_eq_ok h).1]

namespace Stage

variable {stage after reached : Stage} {i player system : Nat} {c : Player.Call} {o : Reply}
  {p : Player} {s : LSystem} {t : Turtle} {q : Playback} {ticks : Playback → Nat}
  {history : List (Nat × Player.Call)} {replies : List Reply}

theorem playBy_eq (h : stage.playback? p.turtle p.system = some q) :
    stage.playBy p ticks = some ((q.run (ticks q)).reply,
      stage.put p.turtle p.system (q.run (ticks q)).final) := by
  rw [playBy, play, h]
  rfl

theorem playBy_eq_some (h : stage.playBy p ticks = some (o, after)) :
    ∃ q, stage.playback? p.turtle p.system = some q ∧ o = (q.run (ticks q)).reply ∧
      after = stage.put p.turtle p.system (q.run (ticks q)).final := by
  cases hq : stage.playback? p.turtle p.system with
  | none => simp [playBy, play, hq] at h
  | some q =>
    rw [playBy_eq hq] at h
    cases h
    exact ⟨q, rfl, rfl, rfl⟩

theorem call_switch_eq (hp : stage.players[player]? = some p)
    (hs : stage.systems[system]? = some s) (ht : stage.turtles[p.turtle]? = some t)
    (origin : Option Point) (heading : Option Float) :
    stage.call player (.switch system origin heading) =
      some (⟨[.switched s.definition.name], .ok []⟩,
        stage.startOver player (p.called (.switch system origin heading)) t) := by
  simp only [call, switch, hp, hs, ht, Option.bind_eq_bind, Option.bind_some]
  rfl

/-- What a call does: some ticks of the player's turtle, nothing at all, or a switch. -/
theorem call_cases (h : stage.call player c = some (o, after)) :
    ∃ p, stage.players[player]? = some p ∧
      ((p.called c = p ∧ ∃ q n, stage.playback? p.turtle p.system = some q ∧
          after = stage.put p.turtle p.system (q.run n).final) ∨
        (p.called c = p ∧ after = stage) ∨
        ∃ t, stage.turtles[p.turtle]? = some t ∧
          after = stage.startOver player (p.called c) t) := by
  have hcall := h
  simp only [call, Option.bind_eq_bind, Option.bind_eq_some_iff] at h
  obtain ⟨p, hp, h⟩ := h
  refine ⟨p, hp, ?_⟩
  cases c with
  | tick | replay =>
    obtain ⟨q, hq, -, hafter⟩ := playBy_eq_some h
    exact .inl ⟨rfl, q, _, hq, hafter⟩
  | run n =>
    dsimp only at h
    cases hn : Playback.ticks n with
    | ok m =>
      rw [hn] at h
      obtain ⟨q, hq, -, hafter⟩ := playBy_eq_some h
      exact .inl ⟨rfl, q, m, hq, hafter⟩
    | error r =>
      rw [hn] at h
      cases h
      exact .inr (.inl ⟨rfl, rfl⟩)
  | segments =>
    obtain ⟨t, -, h⟩ := Option.map_eq_some_iff.mp h
    cases h
    exact .inr (.inl ⟨rfl, rfl⟩)
  | switch system origin heading =>
    obtain ⟨r, hr, -⟩ := Option.map_eq_some_iff.mp h
    cases hs : stage.systems[system]? with
    | none => simp [switch, hp, hs] at hr
    | some s =>
      cases ht : stage.turtles[p.turtle]? with
      | none => simp [switch, hp, hs, ht] at hr
      | some t =>
        cases (call_switch_eq hp hs ht origin heading).symm.trans hcall
        exact .inr (.inr ⟨t, rfl, rfl⟩)

theorem players_call (h : stage.call player c = some (o, after)) :
    after.players[i]? =
      stage.players[i]?.map fun p => (callsOf i [(player, c)]).foldl Player.called p := by
  obtain ⟨p, hp, hcases⟩ := call_cases h
  have hset : after.players = stage.players.set player (p.called c) := by
    rcases hcases with ⟨hc, q, n, -, rfl⟩ | ⟨hc, rfl⟩ | ⟨t, -, rfl⟩
    · rw [hc, set_of_some hp]
      rfl
    · rw [hc, set_of_some hp]
    · rfl
  by_cases hi : player = i
  · subst hi
    rw [hset, hp, getElem_set_of_some hp]
    simp [callsOf]
  · simp [hset, callsOf, hi]

/-- No call changes the step of a turtle. -/
theorem steps_call (h : stage.call player c = some (o, after)) :
    after.turtles.map Turtle.step = stage.turtles.map Turtle.step := by
  have hset {j : Nat} {t u : Turtle} (ht : stage.turtles[j]? = some t) (hu : u.step = t.step) :
      (stage.turtles.set j u).map Turtle.step = stage.turtles.map Turtle.step := by
    rw [List.map_set, hu, ← List.map_set, set_of_some ht]
  obtain ⟨p, -, hcases⟩ := call_cases h
  rcases hcases with ⟨-, q, n, hq, rfl⟩ | ⟨-, rfl⟩ | ⟨t, ht, rfl⟩
  · exact hset (playback_eq_some_iff.mp hq).1 (q.step_run n)
  · rfl
  · exact hset ht rfl

/-! ### Many calls -/

theorem calls_cons_eq_some_iff :
    stage.calls ((player, c) :: history) = some (replies, reached) ↔
      ∃ o next os, stage.call player c = some (o, next) ∧ next.calls history = some (os, reached) ∧
        replies = o :: os := by
  simp only [calls, Option.bind_eq_bind, Option.bind_eq_some_iff]
  constructor
  · rintro ⟨⟨o, next⟩, hcall, ⟨os, last⟩, hrest, h⟩
    cases h
    exact ⟨o, next, os, hcall, hrest, rfl⟩
  · rintro ⟨o, next, os, hcall, hrest, rfl⟩
    exact ⟨(o, next), hcall, (os, reached), hrest, rfl⟩

theorem players_calls (h : stage.calls history = some (replies, reached)) :
    reached.players[i]? =
      stage.players[i]?.map fun p => (callsOf i history).foldl Player.called p := by
  induction history generalizing stage replies with
  | nil =>
    cases h
    simp [callsOf]
  | cons entry history ih =>
    obtain ⟨player, c⟩ := entry
    obtain ⟨o, next, os, hcall, hrest, -⟩ := calls_cons_eq_some_iff.mp h
    -- the player is called as by the first call alone and then as by the others
    have hsplit : callsOf i ((player, c) :: history) =
        callsOf i [(player, c)] ++ callsOf i history := by
      rw [callsOf, callsOf, callsOf, ← List.filterMap_append, List.singleton_append]
    rw [ih hrest, players_call hcall, Option.map_map, hsplit]
    simp only [List.foldl_append]
    rfl

theorem steps_calls (h : stage.calls history = some (replies, reached)) :
    reached.turtles.map Turtle.step = stage.turtles.map Turtle.step := by
  induction history generalizing stage replies with
  | nil =>
    cases h
    rfl
  | cons entry history ih =>
    obtain ⟨o, next, os, hcall, hrest, -⟩ := calls_cons_eq_some_iff.mp h
    rw [ih hrest, steps_call hcall]

/-- Whatever was called, a player has its turtle, of the same step, and starts over where it was
told to last. -/
theorem player_after_calls {step : StepLength} {origin : Point} {heading : Float}
    (h : (stage.addPlayer system step origin heading).calls history = some (replies, reached)) :
    ∃ p t, reached.players[stage.players.length]? = some p ∧
      reached.turtles[p.turtle]? = some t ∧ t.step = step ∧
      p.origin = Player.Call.latest Player.Call.origin? origin
        (callsOf stage.players.length history) ∧
      p.heading = Player.Call.latest Player.Call.heading? heading
        (callsOf stage.players.length history) := by
  have hplayer := players_calls (i := stage.players.length) h
  -- the turtle that came with the player is the last of those whose steps are kept
  have hsteps := congrArg (·[stage.turtles.length]?) (steps_calls h)
  simp only [addPlayer, addTurtle, List.getElem?_concat_length, Option.map_some, List.map_append,
    List.map_singleton, List.getElem?_map] at hplayer hsteps
  rw [List.getElem?_append_right (by simp), List.length_map, Nat.sub_self] at hsteps
  obtain ⟨t, ht, hstep⟩ := Option.map_eq_some_iff.mp hsteps
  refine ⟨_, t, hplayer, ?_, hstep, ?_, ?_⟩
  · rw [Player.turtle_called]
    exact ht
  · exact Player.latest_called (fun _ _ => rfl) _ _
  · exact Player.latest_called (fun _ _ => rfl) _ _

end Stage

end TurtleGrammar
