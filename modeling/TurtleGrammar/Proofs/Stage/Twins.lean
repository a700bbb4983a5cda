import Mathlib.Data.Set.Basic
import TurtleGrammar.Proofs.Stage.Calls
import TurtleGrammar.Proofs.Turtle.Later

/-! Players that no call tells apart. A player that goes over to another system becomes such a twin
of a new player of that system, whatever was done with it before. -/

namespace TurtleGrammar

/-- A reply as a player gives it whose turtle made `k` more moves before. -/
def Reply.later (k : Nat) (o : Reply) : Reply :=
  { o with result := o.result.map (List.map (Segment.later k)) }

theorem Reply.later_zero (o : Reply) : o.later 0 = o := by
  have hid : Segment.later 0 = id := funext Segment.later_zero
  obtain ⟨events, result⟩ := o
  cases result <;> simp [later, hid, Except.map]

theorem Playback.Run.reply_later {k : Nat} (r : Run) : (r.later k).reply = r.reply.later k := by
  cases h : r.failure <;> simp [reply, later, Reply.later, h, Except.map]

namespace Stage

/-- A player on one stage and a player on another that are alike, with regard to some systems that
both stages have alike: they play the same of these, will start over at the same origin with the
same heading, and have the same turtle, but for `k` more moves that the first one made before. -/
structure Twins (k : Nat) (ours : Set Nat) (a : Stage) (i : Nat) (b : Stage) (j : Nat) : Prop where
  systems : ∀ n ∈ ours, ∃ s, a.systems[n]? = some s ∧ b.systems[n]? = some s
  players : ∃ p q t, a.players[i]? = some p ∧ b.players[j]? = some q ∧
    p.system ∈ ours ∧ p.system = q.system ∧ p.origin = q.origin ∧ p.heading = q.heading ∧
    a.turtles[p.turtle]? = some (t.later k) ∧ b.turtles[q.turtle]? = some t

namespace Twins

variable {k i j system : Nat} {ours : Set Nat} {a b : Stage} {p q : Player}
  {ticks : Playback → Nat} {c : Player.Call}

theorem playBy (h : Twins k ours a i b j) (hp : a.players[i]? = some p)
    (hq : b.players[j]? = some q) (hticks : ∀ x, ticks (Playback.later k x) = ticks x) :
    ∃ o a' b', a.playBy p ticks = some (Reply.later k o, a') ∧ b.playBy q ticks = some (o, b') ∧
      Twins k ours a' i b' j := by
  obtain ⟨p', q', t, hp', hq', hours, hsystem, horigin, hheading, hat, hbt⟩ := h.players
  cases hp.symm.trans hp'
  cases hq.symm.trans hq'
  obtain ⟨s, has, hbs⟩ := h.systems _ hours
  let x : Playback := ⟨t, s⟩
  have hax : a.playback? p.turtle p.system = some (x.later k) := playback_eq_some_iff.mpr ⟨hat, has⟩
  have hbx : b.playback? q.turtle q.system = some x :=
    playback_eq_some_iff.mpr ⟨hbt, hsystem ▸ hbs⟩
  -- the run of `b` is the one from which that of `a` differs by the earlier moves
  let r := x.run (ticks x)
  have ha : a.playBy p ticks =
      some (Reply.later k r.reply, a.put p.turtle p.system (r.final.later k)) := by
    rw [playBy_eq hax, hticks, Playback.run_later, Playback.Run.reply_later]
    rfl
  obtain ⟨hat', has'⟩ := playback_eq_some_iff.mp (playback_put (q := r.final.later k) hax)
  obtain ⟨hbt', hbs'⟩ := playback_eq_some_iff.mp (playback_put (q := r.final) hbx)
  refine ⟨_, _, _, ha, playBy_eq hbx, fun n hn => ?_, p, q, _, hp, hq, hours, hsystem, horigin,
    hheading, hat', hbt'⟩
  by_cases hns : p.system = n
  · subst hns
    exact ⟨_, has', hsystem ▸ hbs'⟩
  · obtain ⟨s', hs'⟩ := h.systems n hn
    exact ⟨s', (List.getElem?_set_ne hns).trans hs'.1,
      (List.getElem?_set_ne (hsystem ▸ hns)).trans hs'.2⟩

theorem switch (h : Twins k ours a i b j) (hours : system ∈ ours) (origin : Option Point)
    (heading : Option Float) :
    ∃ o a' b', a.call i (.switch system origin heading) = some (Reply.later k o, a') ∧
      b.call j (.switch system origin heading) = some (o, b') ∧ Twins k ours a' i b' j := by
  obtain ⟨p, q, t, hp, hq, -, -, horigin, hheading, hat, hbt⟩ := h.players
  obtain ⟨s, has, hbs⟩ := h.systems system hours
  have horigin' : (p.called (.switch system origin heading)).origin =
      (q.called (.switch system origin heading)).origin := by
    rw [Player.called, Player.called, horigin]
  have hheading' : (p.called (.switch system origin heading)).heading =
      (q.called (.switch system origin heading)).heading := by
    rw [Player.called, Player.called, hheading]
  refine ⟨⟨[.switched s.definition.name], .ok []⟩, _, _, call_switch_eq hp has hat origin heading,
    call_switch_eq hq hbs hbt origin heading, h.systems, _, _, _, getElem_set_of_some hp,
    getElem_set_of_some hq, hours, rfl, horigin', hheading', ?_, getElem_set_of_some hbt⟩
  rw [← Turtle.restart_later, ← horigin', ← hheading']
  exact getElem_set_of_some hat

theorem call (h : Twins k ours a i b j) (c : Player.Call) (hours : ∀ n ∈ c.target?, n ∈ ours) :
    ∃ o a' b', a.call i c = some (Reply.later k o, a') ∧ b.call j c = some (o, b') ∧
      Twins k ours a' i b' j := by
  obtain ⟨p, q, t, hp, hq, -, -, -, -, hat, hbt⟩ := h.players
  cases c with
  | switch system origin heading => exact h.switch (hours system rfl) origin heading
  | tick | replay =>
    simp only [Stage.call, hp, hq, Option.bind_eq_bind, Option.bind_some]
    exact h.playBy hp hq fun _ => rfl
  | run n =>
    simp only [Stage.call, hp, hq, Option.bind_eq_bind, Option.bind_some]
    cases Playback.ticks n with
    | ok n => exact h.playBy hp hq fun _ => rfl
    | error r => exact ⟨⟨[], .error (.refused r)⟩, a, b, rfl, rfl, h⟩
  | segments =>
    refine ⟨⟨[], .ok t.segments⟩, a, b, ?_, ?_, h⟩
    · simp [Stage.call, hp, hat, Turtle.segments_later, Reply.later, Except.map]
    · simp [Stage.call, hq, hbt]

theorem calls (h : Twins k ours a i b j) (cs : List Player.Call)
    (hours : ∀ c ∈ cs, ∀ n ∈ c.target?, n ∈ ours) :
    ∃ os a' b', a.calls (cs.map (i, ·)) = some (os.map (Reply.later k), a') ∧
      b.calls (cs.map (j, ·)) = some (os, b') ∧ Twins k ours a' i b' j := by
  induction cs generalizing a b with
  | nil => exact ⟨[], a, b, rfl, rfl, h⟩
  | cons c cs ih =>
    rw [List.forall_mem_cons] at hours
    obtain ⟨o, a1, b1, ha1, hb1, h1⟩ := h.call c hours.1
    obtain ⟨os, a', b', ha', hb', h'⟩ := ih h1 hours.2
    exact ⟨o :: os, a', b', calls_cons_eq_some_iff.mpr ⟨_, a1, _, ha1, ha', rfl⟩,
      calls_cons_eq_some_iff.mpr ⟨o, b1, os, hb1, hb', rfl⟩, h'⟩

/-- After a switch a player is the twin of a new player. -/
theorem of_startOver {stage : Stage} {t : Turtle} (hp : stage.players[i]? = some p)
    (ht : stage.turtles[p.turtle]? = some t)
    (hours : (p.called c).system < stage.systems.length) :
    Twins t.travelled {n | n < stage.systems.length} (stage.startOver i (p.called c) t) i
      (stage.addPlayer (p.called c).system t.step (p.called c).origin (p.called c).heading)
      stage.players.length where
  systems _ hn := ⟨_, List.getElem?_eq_getElem hn, List.getElem?_eq_getElem hn⟩
  players := by
    refine ⟨_, _, _, getElem_set_of_some hp, List.getElem?_concat_length, hours, rfl, rfl, rfl, ?_,
      List.getElem?_concat_length⟩
    rw [← Turtle.restart_eq_later]
    exact getElem_set_of_some ht

end Twins

variable {stage reached : Stage} {system target : Nat} {step : StepLength} {origin : Point}
  {heading : Float} {history : List (Nat × Player.Call)} {replies : List Reply} {s : LSystem}

/-- A switch forgets everything. Whatever was done with a player and with others on the stage, a
switch succeeds and leaves all systems as they are, and the player becomes the twin of a new player
of the same system, of the same step, that starts at the origin given now or else given last, with
the heading given now or else given last: all later calls give the same on both. Their turtles
number their visits differently, which shows neither in the points of lines nor in the polylines
that lines make. -/
theorem switched_player_is_as_new
    (hreached : (stage.addPlayer system step origin heading).calls history =
      some (replies, reached))
    (htarget : reached.systems[target]? = some s) (origin' : Option Point)
    (heading' : Option Float) :
    let old := stage.players.length
    let new := reached.players.length
    let own := callsOf old history
    let fresh := reached.addPlayer target step
      (origin'.getD (Player.Call.latest Player.Call.origin? origin own))
      (heading'.getD (Player.Call.latest Player.Call.heading? heading own))
    ∃ switched k,
      reached.call old (.switch target origin' heading') =
        some (⟨[.switched s.definition.name], .ok []⟩, switched) ∧
      switched.systems = reached.systems ∧
      (∀ calls : List Player.Call,
        (∀ c ∈ calls, ∀ n ∈ c.target?, n < reached.systems.length) →
        ∃ replies' a b,
          switched.calls (calls.map (old, ·)) = some (replies'.map (Reply.later k), a) ∧
          fresh.calls (calls.map (new, ·)) = some (replies', b) ∧
          Twins k {n | n < reached.systems.length} a old b new) ∧
      ∀ lines : List Segment,
        (lines.map (Segment.later k)).map Segment.points = lines.map Segment.points ∧
        (Polyline.chain (lines.map (Segment.later k))).map Polyline.points =
          (Polyline.chain lines).map Polyline.points := by
  intro old new own fresh
  obtain ⟨p, t, hp, ht, hstep, horigin, hheading⟩ := player_after_calls hreached
  have hsystem := (List.getElem?_eq_some_iff.mp htarget).1
  have htwins := Twins.of_startOver (c := .switch target origin' heading') hp ht hsystem
  -- the player record holds what was given last, so it starts over where the new player starts
  have hfresh : reached.addPlayer (p.called (.switch target origin' heading')).system t.step
      (p.called (.switch target origin' heading')).origin
      (p.called (.switch target origin' heading')).heading = fresh := by
    rw [Player.called, horigin, hheading, hstep]
    rfl
  rw [hfresh] at htwins
  exact ⟨_, t.travelled, call_switch_eq hp htarget ht origin' heading', rfl,
    fun calls hcalls => htwins.calls calls hcalls,
    fun lines => ⟨Segment.points_later lines, Polyline.points_chain_later lines⟩⟩

/-- The systems of `F]` and of `F`. -/
def repertoire : Stage :=
  let line : Symbol := .forward (.ofAlpha 'F' (by decide))
  let d : Definition :=
    { name := [], initial := [line], rules := Rules.empty, generations := 0, delta := 0.5 }
  { systems :=
      [{ definition := { d with initial := [line, .pop] }
         word := #[line, .pop]
         cursor := 0
         cursor_le := by decide },
        { definition := d, word := #[line], cursor := 0, cursor_le := by decide }]
    turtles := []
    players := [] }

/-- A tick that fails, and then another system from another origin. -/
def tour : List (Nat × Player.Call) :=
  [(0, .tick), (0, .tick), (0, .switch 1 (some ⟨3.0, 4.0⟩) none), (0, .tick)]

/-- The player goes once more over to the system it plays, with a new heading, and is then like a
new player at its last origin. -/
theorem player_on_tour_is_as_new :
    let start := repertoire.addPlayer 0 ⟨1.0, by decide⟩ ⟨0.0, 0.0⟩ 0.0
    ∃ replies reached s, start.calls tour = some (replies, reached) ∧
      reached.systems[1]? = some s ∧ s.cursor = 1 ∧
      let new := reached.players.length
      ∃ switched k,
        reached.call 0 (.switch 1 none (some 1.5)) =
          some (⟨[.switched s.definition.name], .ok []⟩, switched) ∧
        ∃ replies' a b,
          switched.calls [(0, .run 2), (0, .segments)] = some (replies'.map (Reply.later k), a) ∧
          (reached.addPlayer 1 ⟨1.0, by decide⟩ ⟨3.0, 4.0⟩ 1.5).calls
            [(new, .run 2), (new, .segments)] = some (replies', b) := by
  intro start
  have hcursor :
      ((start.calls tour).bind fun r => r.2.systems[1]?.map LSystem.cursor) = some 1 := by
    decide
  obtain ⟨⟨replies, reached⟩, hreached, hcursor⟩ := Option.bind_eq_some_iff.mp hcursor
  obtain ⟨s, hs, hcursor⟩ := Option.map_eq_some_iff.mp hcursor
  obtain ⟨switched, k, hswitch, -, hlater, -⟩ :=
    switched_player_is_as_new hreached hs none (some 1.5)
  obtain ⟨replies', a, b, ha, hb, -⟩ := hlater [.run 2, .segments] (by simp [Player.Call.target?])
  exact ⟨replies, reached, s, hreached, hs, hcursor, switched, k, hswitch, replies', a, b, ha, hb⟩

end Stage

end TurtleGrammar
