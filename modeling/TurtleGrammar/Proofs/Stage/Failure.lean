import TurtleGrammar.Proofs.Playback.Stepwise
import TurtleGrammar.Proofs.Stage.Acts

/-! Ticks that fail. A tick that fails changes nothing, so a run that fails stops where the ticks
before it left the stage, and the player is stuck there: each further tick fails in the same way,
until something else changes its turtle, its system, or which system it plays. -/

namespace TurtleGrammar

/-- The line that an act draws. -/
def Scene.drawn? (x : Scene) : Option Segment :=
  match x.answer? with
  | some (.ticked d) => d
  | _ => none

namespace Stage

/-- What a player plays: its turtle, and the system it is set to. -/
def playing? (stage : Stage) (player : Nat) : Option Playback := do
  let p ← stage.players[player]?
  stage.playback? p.turtle p.system

/-- Some ticks of a player in one run. -/
def playFor (stage : Stage) (player n : Nat) : Option (Playback.Run × Stage) := do
  let p ← stage.players[player]?
  stage.play p.turtle p.system fun _ => n

/-- A run without a failure does what as many ticks do, each of which succeeds. -/
structure Plays (stage : Stage) (player n : Nat) (r : Playback.Run) (after : Stage) : Prop where
  eq : stage.playFor player n = some (r, after)
  failure_eq : r.failure = none
  ticked : ∀ x ∈ stage.scenes (List.replicate n (.play player)), ∃ d, x.answer? = some (.ticked d)
  after_eq : after = stage.afterActs (List.replicate n (.play player))
  segments_eq : r.segments.toList =
    (stage.scenes (List.replicate n (.play player))).filterMap Scene.drawn?

variable {stage after : Stage} {player n t k : Nat} {a : Player} {p q : Playback}
  {d : Option Segment} {e : TurtleError} {acts : List Act}

theorem playing_eq_some_iff :
    stage.playing? player = some p ↔
      ∃ a, stage.players[player]? = some a ∧ stage.playback? a.turtle a.system = some p := by
  simp [playing?, Option.bind_eq_some_iff]

theorem playing_put (ha : stage.players[player]? = some a)
    (hp : stage.playback? a.turtle a.system = some p) :
    (stage.put a.turtle a.system q).playing? player = some q :=
  playing_eq_some_iff.mpr ⟨a, ha, playback_put hp⟩

theorem playFor_eq (ha : stage.players[player]? = some a)
    (hp : stage.playback? a.turtle a.system = some p) :
    stage.playFor player n = some (p.run n, stage.put a.turtle a.system (p.run n).final) := by
  rw [playFor, ha]
  exact play_eq hp

theorem perform_play (ha : stage.players[player]? = some a) :
    (Act.play player).perform stage = stage.tick a.turtle a.system := by
  rw [Act.perform, ha]
  rfl

/-- The ticks of a run that has no failure, one after another. -/
theorem ticks_of_run (ha : stage.players[player]? = some a)
    (hp : stage.playback? a.turtle a.system = some p) (hn : (p.run n).failure = none) :
    (∀ x ∈ stage.scenes (List.replicate n (.play player)), ∃ d, x.answer? = some (.ticked d)) ∧
      stage.put a.turtle a.system (p.run n).final =
        stage.afterActs (List.replicate n (.play player)) ∧
      (p.run n).segments.toList =
        (stage.scenes (List.replicate n (.play player))).filterMap Scene.drawn? := by
  induction n generalizing stage p with
  | zero => exact ⟨nofun, put_self hp, rfl⟩
  | succ n ih =>
    cases ht : p.tick with
    | error e => simp [Playback.run_succ_of_error ht] at hn
    | ok r =>
      obtain ⟨d, q⟩ := r
      have hrun := Playback.run_succ_of_ok (n := n) ht
      rw [hrun] at hn
      have hperform := (perform_play ha).trans (tick_of_ok hp ht)
      have hanswer := Scene.answer_of_some (x := ⟨stage, .play player⟩) hperform
      have hafter := Scene.after_of_some (x := ⟨stage, .play player⟩) hperform
      obtain ⟨hticked, hfinal, hsegments⟩ :=
        ih (show (stage.put a.turtle a.system q).players[player]? = some a from ha)
          (playback_put hp) hn
      simp only [List.replicate_succ, scenes, afterActs, Moment.history_cons, Moment.final_cons, hafter,
        hrun]
      refine ⟨?_, ?_, ?_⟩
      · rw [List.forall_mem_cons]
        exact ⟨⟨d, hanswer⟩, hticked⟩
      · rw [← afterActs, ← hfinal, put_put]
      · have hdrawn : Scene.drawn? ⟨stage, .play player⟩ = d := by rw [Scene.drawn?, hanswer]
        rw [List.filterMap_cons, hdrawn, ← hsegments]
        cases d <;> simp

theorem plays_of_run (ha : stage.players[player]? = some a)
    (hp : stage.playback? a.turtle a.system = some p) (hn : (p.run n).failure = none) :
    stage.Plays player n (p.run n) (stage.put a.turtle a.system (p.run n).final) := by
  obtain ⟨hticked, hafter, hsegments⟩ := ticks_of_run ha hp hn
  exact ⟨playFor_eq ha hp, hn, hticked, hafter, hsegments⟩

/-- A player that cannot tick stays so and leaves the stage alone, as long as nothing else changes
what it plays. -/
theorem stuck (hp : stage.playing? player = some p) (he : p.tick = .error e)
    (hspared : ∀ x ∈ stage.scenes acts, x.act ≠ .play player →
      x.after.playing? player = x.before.playing? player) :
    ∀ x ∈ stage.scenes acts, x.act = .play player →
      x.answer? = some (.failed e) ∧ x.after = x.before := by
  induction acts generalizing stage with
  | nil => exact nofun
  | cons act acts ih =>
    rw [scenes, Moment.history_cons, List.forall_mem_cons] at hspared ⊢
    have hplay : act = .play player →
        Scene.answer? ⟨stage, act⟩ = some (.failed e) ∧ Scene.after ⟨stage, act⟩ = stage := by
      rintro rfl
      obtain ⟨a, ha, hp⟩ := playing_eq_some_iff.mp hp
      have hperform := (perform_play ha).trans (tick_of_error hp he)
      exact ⟨Scene.answer_of_some (x := ⟨stage, .play player⟩) hperform,
        Scene.after_of_some (x := ⟨stage, .play player⟩) hperform⟩
    refine ⟨hplay, ih ?_ hspared.2⟩
    by_cases hact : act = .play player
    · rw [(hplay hact).2, hp]
    · rw [hspared.1 hact, hp]

/-- A tick fails for one of two reasons, a pop with nothing pushed and a move along an infinite
heading, and then no step of it has been made and everything on the stage is as it was. So some
ticks of a player are made to the last, or some of them are made and the next one fails, and the run
ends with the stage as those ticks leave it. From then on each tick of the player fails in the same
way and changes nothing, whatever else is done, until what the player plays is changed by something
else. -/
theorem failed_run_leaves_player_stuck :
    (∀ (p : Playback) (e : TurtleError), p.tick = .error e ↔
      e = .underflow ∧ p.system.peek = .pop ∧ p.turtle.depth = 1 ∨
      e = .noDirection ∧ p.system.peek.moves = true ∧ p.turtle.heading.isInf = true) ∧
    (∀ p : Playback, Steps.tick.run p.parts =
      match p.tick with
      | .ok (d, q) => .ok d q.parts
      | .error e => .error e p.parts) ∧
    (∀ (x : Scene) (e : TurtleError), x.answer? = some (.failed e) → x.after = x.before) ∧
    ∀ (stage : Stage) (player : Nat) (p : Playback), stage.playing? player = some p → ∀ n : Nat,
      (∃ r after, stage.Plays player n r after) ∨
      ∃ k < n, ∃ r after e, stage.Plays player k r after ∧
        stage.playFor player n = some ({ r with failure := some e }, after) ∧
        ∀ acts : List Act,
          (∀ x ∈ after.scenes acts, x.act ≠ .play player →
            x.after.playing? player = x.before.playing? player) →
          ∀ x ∈ after.scenes acts, x.act = .play player →
            x.answer? = some (.failed e) ∧ x.after = x.before := by
  refine ⟨fun p e => ?_, Steps.run_tick, fun x e => Scene.after_of_failed, ?_⟩
  · rw [Playback.tick_eq_error_iff, Turtle.update_eq_error_iff, Turtle.depth, Nat.add_eq_right,
      List.length_eq_zero_iff]
  intro stage player p hplaying n
  obtain ⟨a, ha, hp⟩ := playing_eq_some_iff.mp hplaying
  rcases p.run_cases n with hnone | ⟨k, hk, e, hnone, hfail, hrun⟩
  · exact .inl ⟨_, _, plays_of_run ha hp hnone⟩
  · refine .inr ⟨k, hk, _, _, e, plays_of_run ha hp hnone, ?_, fun acts => ?_⟩
    · rw [playFor_eq ha hp, hrun]
    · exact stuck (playing_put ha hp) hfail

/-- The system of `f]`, and beside it the same system once more. -/
def overdrawn : Stage :=
  let s : LSystem :=
    { definition :=
        { name := [], initial := [.skip, .pop], rules := Rules.empty, generations := 0,
          delta := 0.5 }
      word := #[.skip, .pop]
      cursor := 0
      cursor_le := by decide }
  { systems := [s, s]
    turtles := [Turtle.atOrigin, Turtle.atOrigin]
    players := [⟨0, 0, ⟨0.0, 0.0⟩, 0.0⟩] }

/-- The player fails at its second tick, and goes on failing whatever others do on the stage. -/
theorem player_stuck_at_surplus_pop :
    (∃ p, overdrawn.playing? 0 = some p) ∧
    ∃ k < 3, ∃ r after, overdrawn.Plays 0 k r after ∧
      overdrawn.playFor 0 3 = some ({ r with failure := some .underflow }, after) ∧
      ∀ x ∈ after.scenes [.play 0, .tick 1 1, .handle 1 Turtle.push, .play 0],
        x.act = .play 0 → x.answer? = some (.failed .underflow) ∧ x.after = x.before := by
  have hfailure : (overdrawn.playFor 0 3).map (fun r => r.1.failure) = some (some .underflow) := by
    decide
  refine ⟨⟨_, rfl⟩, ?_⟩
  rcases failed_run_leaves_player_stuck.2.2.2 overdrawn 0 _ rfl 3 with
    ⟨r, after, hplays⟩ | ⟨k, hk, r, after, e, hplays, hrun, hstuck⟩
  · rw [hplays.eq, Option.map_some, hplays.failure_eq] at hfailure
    cases hfailure
  · rw [hrun] at hfailure
    cases hfailure
    refine ⟨k, hk, r, after, hplays, hrun, hstuck _ fun x hx hact => ?_⟩
    rw [hplays.after_eq] at hx
    simp only [scenes, Moment.history, List.mem_cons, List.not_mem_nil, or_false] at hx
    have hk' : k = 0 ∨ k = 1 ∨ k = 2 := by omega
    rcases hx with rfl | rfl | rfl | rfl
    · exact absurd rfl hact
    · rcases hk' with rfl | rfl | rfl <;> rfl
    · rcases hk' with rfl | rfl | rfl <;> rfl
    · exact absurd rfl hact

end Stage

end TurtleGrammar
