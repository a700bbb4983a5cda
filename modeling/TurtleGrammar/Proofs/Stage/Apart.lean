import Mathlib.Data.Set.Insert
import TurtleGrammar.Proofs.Stage.Solo

/-! Players that have nothing to do with one another. As long as no system is played by two of
them, not even by one after the other, their calls can be made in any order, and some can fail:
each player answers, and is in the end, as if only its own calls were made. -/

namespace TurtleGrammar

namespace Stage

/-- Each player has a turtle of its own, and the turtle and the player's system are on the stage. -/
structure Sound (stage : Stage) : Prop where
  own_turtles : (stage.players.map Player.turtle).Nodup
  turtle_lt : ∀ p ∈ stage.players, p.turtle < stage.turtles.length
  system_lt : ∀ p ∈ stage.players, p.system < stage.systems.length

/-- The systems that a player plays in the course of some calls. -/
def played (stage : Stage) (history : List (Nat × Player.Call)) (player : Nat) : Set Nat :=
  {k | (∃ p, stage.players[player]? = some p ∧ p.system = k) ∨
    ∃ c ∈ callsOf player history, c.target? = some k}

/-- The replies to the calls of one player. -/
def repliesTo (player : Nat) (history : List (Nat × Player.Call)) (replies : List Reply) :
    List Reply :=
  (history.zip replies).filterMap fun ((i, _), o) => if i = player then some o else none

/-- Some players that play only systems of their own: each those of a set, which no two share. -/
structure Apart (stage : Stage) (players : Set Nat) (own : Nat → Set Nat) : Prop where
  sound : stage.Sound
  disjoint : ∀ i ∈ players, ∀ j ∈ players, ∀ k ∈ own i, k ∈ own j → i = j
  onStage : ∀ i ∈ players, ∀ k ∈ own i, k < stage.systems.length
  plays : ∀ i ∈ players, ∃ p, stage.players[i]? = some p ∧ p.system ∈ own i

variable {stage after a b : Stage} {i j k : Nat} {p q : Player} {c : Player.Call} {o : Reply}
  {ours players : Set Nat} {own : Nat → Set Nat} {history : List (Nat × Player.Call)}
  {replies : List Reply}

/-! ### Calls and replies of one player -/

theorem callsOf_cons_self : callsOf i ((i, c) :: history) = c :: callsOf i history := by
  simp [callsOf]

theorem callsOf_cons_of_ne (h : j ≠ i) : callsOf i ((j, c) :: history) = callsOf i history := by
  simp [callsOf, h]

theorem callsOf_map_self (calls : List Player.Call) : callsOf i (calls.map (i, ·)) = calls := by
  simp [callsOf, List.filterMap_map]

theorem repliesTo_cons_self :
    repliesTo i ((i, c) :: history) (o :: replies) = o :: repliesTo i history replies := by
  simp [repliesTo]

theorem repliesTo_cons_of_ne (h : j ≠ i) :
    repliesTo i ((j, c) :: history) (o :: replies) = repliesTo i history replies := by
  simp [repliesTo, h]

/-! ### Sound stages -/

theorem sound_empty : empty.Sound := ⟨List.nodup_nil, nofun, nofun⟩

namespace Sound

theorem addSystem (h : stage.Sound) (s : LSystem) : (stage.addSystem s).Sound where
  own_turtles := h.own_turtles
  turtle_lt := h.turtle_lt
  system_lt p hp := by
    have := h.system_lt p hp
    simp only [Stage.addSystem, List.length_append, List.length_singleton]
    omega

theorem addPlayer (h : stage.Sound) (hk : k < stage.systems.length) (step : StepLength)
    (origin : Point) (heading : Float) : (stage.addPlayer k step origin heading).Sound := by
  have hnew : ∀ n ∈ stage.players.map Player.turtle, n < stage.turtles.length := by
    simpa using h.turtle_lt
  refine ⟨?_, ?_, ?_⟩
  · simp only [Stage.addPlayer, List.map_append, List.map_singleton]
    rw [List.nodup_append]
    refine ⟨h.own_turtles, by simp, fun n hn m hm => ?_⟩
    have hlt := hnew n hn
    rw [List.mem_singleton.mp hm]
    omega
  · simp only [Stage.addPlayer, addTurtle, List.forall_mem_append, List.forall_mem_singleton,
      List.length_append, List.length_singleton]
    exact ⟨fun p hp => Nat.lt_succ_of_lt (h.turtle_lt p hp), Nat.lt_succ_self _⟩
  · simp only [Stage.addPlayer, addTurtle, List.forall_mem_append, List.forall_mem_singleton]
    exact ⟨h.system_lt, hk⟩

theorem setSystem (h : stage.Sound) (k : Nat) (s : LSystem) : (stage.setSystem k s).Sound where
  own_turtles := h.own_turtles
  turtle_lt := h.turtle_lt
  system_lt := by simpa [Stage.setSystem] using h.system_lt

theorem setTurtle (h : stage.Sound) (k : Nat) (t : Turtle) : (stage.setTurtle k t).Sound where
  own_turtles := h.own_turtles
  turtle_lt := by simpa [Stage.setTurtle] using h.turtle_lt
  system_lt := h.system_lt

theorem turtle_ne (h : stage.Sound) (hp : stage.players[i]? = some p)
    (hq : stage.players[j]? = some q) (hij : i ≠ j) : p.turtle ≠ q.turtle := by
  intro heq
  have hturtles : (stage.players.map Player.turtle)[i]? =
      (stage.players.map Player.turtle)[j]? := by
    simp [hp, hq, heq]
  have hi : i < (stage.players.map Player.turtle).length := by
    rw [List.length_map]
    exact (List.getElem?_eq_some_iff.mp hp).1
  exact hij ((List.getElem?_inj hi h.own_turtles).mp hturtles)

theorem call (h : stage.Sound) (hcall : stage.call i c = some (o, after))
    (htarget : ∀ k ∈ c.target?, k < stage.systems.length) :
    after.Sound ∧ after.systems.length = stage.systems.length := by
  obtain ⟨p, hp, hcases⟩ := call_cases hcall
  rcases hcases with ⟨-, q, n, -, rfl⟩ | ⟨-, rfl⟩ | ⟨t, -, rfl⟩
  · exact ⟨(h.setTurtle _ _).setSystem _ _, List.length_set⟩
  · exact ⟨h, rfl⟩
  · -- a switch puts another system into the player and starts the turtle over that it has
    have hmem := List.mem_of_getElem? hp
    refine ⟨⟨?_, fun q hq => ?_, fun q hq => ?_⟩, rfl⟩
    · have hturtle : (stage.players.map Player.turtle)[i]? = some p.turtle := by simp [hp]
      simp only [startOver, List.map_set]
      rw [Player.called, set_of_some hturtle]
      exact h.own_turtles
    · simp only [startOver, List.length_set]
      rcases List.mem_or_eq_of_mem_set hq with hq | rfl
      · exact h.turtle_lt q hq
      · exact h.turtle_lt p hmem
    · rcases List.mem_or_eq_of_mem_set hq with hq | rfl
      · exact h.system_lt q hq
      · cases hc : c.target? with
        | none =>
          rw [Player.called, hc]
          exact h.system_lt p hmem
        | some k =>
          rw [Player.called, hc]
          exact htarget k hc

end Sound

/-! ### Players apart -/

namespace Twins

/-- A call of another player, with another turtle and another system, leaves a player alone. -/
theorem of_other {n : Nat} (h : Twins n ours a i b i) (hp : a.players[i]? = some p)
    (hq : a.players[j]? = some q) (hij : j ≠ i) (hturtle : q.turtle ≠ p.turtle)
    (hsystem : q.system ∉ ours) (hcall : a.call j c = some (o, after)) :
    Twins n ours after i b i := by
  obtain ⟨p', r, t, hp', hr, hours, heq, horigin, hheading, hat, hbt⟩ := h.players
  cases hp.symm.trans hp'
  obtain ⟨q', hq', hcases⟩ := call_cases hcall
  cases hq.symm.trans hq'
  rcases hcases with ⟨-, x, m, -, rfl⟩ | ⟨-, rfl⟩ | ⟨u, -, rfl⟩
  · refine ⟨fun k hk => ?_, p, r, t, hp, hr, hours, heq, horigin, hheading, ?_, hbt⟩
    · have hne : q.system ≠ k := fun hqk => hsystem (hqk ▸ hk)
      obtain ⟨s, ha, hb⟩ := h.systems k hk
      exact ⟨s, (List.getElem?_set_ne hne).trans ha, hb⟩
    · exact (List.getElem?_set_ne hturtle).trans hat
  · exact h
  · exact ⟨h.systems, p, r, t, (List.getElem?_set_ne hij).trans hp, hr, hours, heq, horigin,
      hheading, (List.getElem?_set_ne hturtle).trans hat, hbt⟩

end Twins

namespace Apart

theorem twins (h : stage.Apart players own) (hi : i ∈ players) :
    Twins 0 (own i) stage i stage i := by
  obtain ⟨p, hp, hown⟩ := h.plays i hi
  have ht := List.getElem?_eq_getElem (h.sound.turtle_lt p (List.mem_of_getElem? hp))
  refine ⟨fun k hk => ?_, p, p, _, hp, hp, hown, rfl, rfl, rfl, ?_, ht⟩
  · exact ⟨_, List.getElem?_eq_getElem (h.onStage i hi k hk),
      List.getElem?_eq_getElem (h.onStage i hi k hk)⟩
  · rw [Turtle.later_zero]
    exact ht

/-- A call of a player answers as it would on any stage where that player is the same, and the
others are left alone. -/
theorem call (h : stage.Apart players own) (hj : j ∈ players) (hown : ∀ k ∈ c.target?, k ∈ own j) :
    ∃ o after, stage.call j c = some (o, after) ∧ after.Apart players own ∧
      (∀ b, Twins 0 (own j) stage j b j →
        ∃ b', b.call j c = some (o, b') ∧ Twins 0 (own j) after j b' j) ∧
      ∀ i ∈ players, i ≠ j → ∀ b, Twins 0 (own i) stage i b i → Twins 0 (own i) after i b i := by
  obtain ⟨o, after, after', hcall, -, hself⟩ := (h.twins hj).call c hown
  rw [Reply.later_zero] at hcall
  obtain ⟨q, hq, hsystem⟩ := h.plays j hj
  have htarget : ∀ k ∈ c.target?, k < stage.systems.length :=
    fun k hk => h.onStage j hj k (hown k hk)
  obtain ⟨hsound, hlength⟩ := h.sound.call hcall htarget
  have hothers : ∀ i ∈ players, i ≠ j → ∀ b, Twins 0 (own i) stage i b i →
      Twins 0 (own i) after i b i := by
    intro i hi hij b htwins
    obtain ⟨p, hp, -⟩ := h.plays i hi
    have hnot : q.system ∉ own i := fun hmem => hij (h.disjoint i hi j hj _ hmem hsystem)
    exact htwins.of_other hp hq hij.symm (h.sound.turtle_ne hq hp hij.symm) hnot hcall
  refine ⟨o, after, hcall, ⟨hsound, h.disjoint, ?_, fun i hi => ?_⟩, fun b htwins => ?_, hothers⟩
  · rw [hlength]
    exact h.onStage
  · -- each player is its own twin before the call, and so it is after it
    have htwins : ∃ b, Twins 0 (own i) after i b i := by
      by_cases hij : i = j
      · subst hij
        exact ⟨_, hself⟩
      · exact ⟨_, hothers i hi hij stage (h.twins hi)⟩
    obtain ⟨b, -, p, -, -, hp, -, hmem, -⟩ := htwins
    exact ⟨p, hp, hmem⟩
  · obtain ⟨o', a', b', ha', hb', htwins'⟩ := htwins.call c hown
    rw [Reply.later_zero] at ha'
    cases hcall.symm.trans ha'
    exact ⟨b', hb', htwins'⟩

theorem calls (h : stage.Apart players own) (hplayers : ∀ entry ∈ history, entry.1 ∈ players)
    (hown : ∀ entry ∈ history, ∀ k ∈ entry.2.target?, k ∈ own entry.1) :
    ∃ replies reached, stage.calls history = some (replies, reached) ∧
      ∀ i ∈ players, ∀ b, Twins 0 (own i) stage i b i →
        ∃ b', b.calls ((callsOf i history).map (i, ·)) = some (repliesTo i history replies, b') ∧
          Twins 0 (own i) reached i b' i := by
  -- the stage on which a player is alone takes part only in the calls of that player
  induction history generalizing stage with
  | nil => exact ⟨[], stage, rfl, fun i _ b htwins => ⟨b, rfl, htwins⟩⟩
  | cons entry history ih =>
    obtain ⟨j, c⟩ := entry
    rw [List.forall_mem_cons] at hplayers hown
    obtain ⟨o, after, hcall, hafter, hcaller, hothers⟩ := h.call hplayers.1 hown.1
    obtain ⟨replies, reached, hrest, hreached⟩ := ih hafter hplayers.2 hown.2
    refine ⟨o :: replies, reached,
      calls_cons_eq_some_iff.mpr ⟨o, after, replies, hcall, hrest, rfl⟩, fun i hi b htwins => ?_⟩
    by_cases hij : i = j
    · subst hij
      obtain ⟨b1, hb1, htwins1⟩ := hcaller b htwins
      obtain ⟨b', hb', htwins'⟩ := hreached i hi b1 htwins1
      rw [callsOf_cons_self, repliesTo_cons_self]
      exact ⟨b', calls_cons_eq_some_iff.mpr ⟨o, b1, _, hb1, hb', rfl⟩, htwins'⟩
    · rw [callsOf_cons_of_ne (Ne.symm hij), repliesTo_cons_of_ne (Ne.symm hij)]
      exact hreached i hi b (hothers i hi hij b htwins)

end Apart

/-- Some players on a sound stage, no system of which two of them play, not even one after the
other. Whatever is called of them, in whatever order, and whichever calls fail: each player gives
the replies, and comes to the state, of its own calls made alone. -/
theorem players_apart_do_not_interfere (hsound : stage.Sound)
    (hplayers : ∀ i ∈ players, i < stage.players.length)
    (hcallers : ∀ entry ∈ history, entry.1 ∈ players)
    (htargets : ∀ entry ∈ history, ∀ k ∈ entry.2.target?, k < stage.systems.length)
    (hapart : ∀ i ∈ players, ∀ j ∈ players, ∀ k ∈ stage.played history i,
      k ∈ stage.played history j → i = j) :
    ∃ replies reached, stage.calls history = some (replies, reached) ∧
      ∀ i ∈ players, ∃ alone p x,
        stage.calls ((callsOf i history).map (i, ·)) =
          some (repliesTo i history replies, alone) ∧
        reached.players[i]? = some p ∧ alone.players[i]? = some p ∧
        reached.playing? i = some x ∧ alone.playing? i = some x ∧
        ∀ k ∈ stage.played history i, reached.systems[k]? = alone.systems[k]? := by
  have hown : ∀ entry ∈ history, ∀ k ∈ entry.2.target?, k ∈ stage.played history entry.1 := by
    rintro ⟨i, c⟩ hentry k hk
    refine .inr ⟨c, List.mem_filterMap.mpr ⟨(i, c), hentry, ?_⟩, hk⟩
    simp
  have hstart : stage.Apart players (stage.played history) := by
    refine ⟨hsound, hapart, fun i _ k hk => ?_, fun i hi => ?_⟩
    · rcases hk with ⟨p, hp, rfl⟩ | ⟨c, hc, hk⟩
      · exact hsound.system_lt p (List.mem_of_getElem? hp)
      · obtain ⟨entry, hentry, hc⟩ := List.mem_filterMap.mp hc
        obtain ⟨-, hc⟩ := Option.ite_none_right_eq_some.mp hc
        cases hc
        exact htargets entry hentry k hk
    · have hp := List.getElem?_eq_getElem (hplayers i hi)
      exact ⟨_, hp, .inl ⟨_, hp, rfl⟩⟩
  obtain ⟨replies, reached, hreached, htwins⟩ := hstart.calls hcallers hown
  refine ⟨replies, reached, hreached, fun i hi => ?_⟩
  obtain ⟨alone, halone, h⟩ := htwins i hi stage (hstart.twins hi)
  have hrecord : reached.players[i]? = alone.players[i]? := by
    rw [players_calls hreached, players_calls halone, callsOf_map_self]
  obtain ⟨p, q, t, hp, hq, hours, -, -, -, hrt, hat⟩ := h.players
  cases hp.symm.trans (hrecord.trans hq)
  rw [Turtle.later_zero] at hrt
  obtain ⟨s, hrs, has⟩ := h.systems _ hours
  refine ⟨alone, p, ⟨t, s⟩, halone, hp, hq, ?_, ?_, fun k hk => ?_⟩
  · exact playing_eq_some_iff.mpr ⟨p, hp, playback_eq_some_iff.mpr ⟨hrt, hrs⟩⟩
  · exact playing_eq_some_iff.mpr ⟨p, hq, playback_eq_some_iff.mpr ⟨hat, has⟩⟩
  · obtain ⟨s', hrs', has'⟩ := h.systems k hk
    rw [hrs', has']

/-- A player of `F]` and a player of `F`, and `G[+G]`, which nobody plays yet. -/
def duet : Stage :=
  let step := Turtle.atOrigin.step
  ((repertoire.addSystem sprig).addPlayer 0 step ⟨0.0, 0.0⟩ 0.0).addPlayer 1 step ⟨5.0, 0.0⟩ 0.0

/-- Both players in turn. A tick of the first and a run of the second fail. -/
def concert : List (Nat × Player.Call) :=
  [(0, .tick), (1, .run (-1)), (0, .tick), (1, .tick), (0, .replay), (1, .switch 2 none none),
    (1, .run 3), (0, .segments)]

theorem sound_duet : duet.Sound := by
  have hsound : repertoire.Sound := ⟨List.nodup_nil, nofun, nofun⟩
  exact ((hsound.addSystem sprig).addPlayer (by decide) _ _ _).addPlayer (by decide) _ _ _

/-- The second player is as if it had been alone on the stage. -/
theorem duet_players_do_not_interfere :
    let players : Set Nat := {0, 1}
    (∀ i ∈ players, i < duet.players.length) ∧ (∀ entry ∈ concert, entry.1 ∈ players) ∧
    (∀ entry ∈ concert, ∀ k ∈ entry.2.target?, k < duet.systems.length) ∧
    (∀ i ∈ players, ∀ j ∈ players, ∀ k ∈ duet.played concert i,
      k ∈ duet.played concert j → i = j) ∧
    ∃ replies reached alone x, duet.calls concert = some (replies, reached) ∧
      duet.calls [(1, .run (-1)), (1, .tick), (1, .switch 2 none none), (1, .run 3)] =
        some (repliesTo 1 concert replies, alone) ∧
      reached.playing? 1 = some x ∧ alone.playing? 1 = some x := by
  intro players
  have hplayers : ∀ i ∈ players, i < duet.players.length := by
    rintro i (rfl | rfl) <;> decide
  have hcallers : ∀ entry ∈ concert, entry.1 ∈ players := by
    simp [concert, players]
  have htargets : ∀ entry ∈ concert, ∀ k ∈ entry.2.target?, k < duet.systems.length := by
    simp [concert, Player.Call.target?, duet, addPlayer, addTurtle, addSystem, repertoire]
  have hfirst : duet.played concert 0 ⊆ {0} := by
    rintro k (⟨p, hp, rfl⟩ | ⟨c, hc, hk⟩)
    · cases hp
      rfl
    · have hstays : ∀ c ∈ callsOf 0 concert, c.target? = none := by
        simp [callsOf, concert, Player.Call.target?]
      cases (hstays c hc).symm.trans hk
  have hsecond : duet.played concert 1 ⊆ {1, 2} := by
    rintro k (⟨p, hp, rfl⟩ | ⟨c, hc, hk⟩)
    · cases hp
      exact .inl rfl
    · have htarget : ∀ c ∈ callsOf 1 concert, ∀ k ∈ c.target?, k = 2 := by
        simp [callsOf, concert, Player.Call.target?]
      exact .inr (htarget c hc k hk)
  have hapart : ∀ i ∈ players, ∀ j ∈ players, ∀ k ∈ duet.played concert i,
      k ∈ duet.played concert j → i = j := by
    have hdisjoint : ∀ k ∈ duet.played concert 0, k ∉ duet.played concert 1 := by
      intro k hk hk'
      cases hfirst hk
      simpa using hsecond hk'
    rintro i (rfl | rfl) j (rfl | rfl) k hi hj
    · rfl
    · exact absurd hj (hdisjoint k hi)
    · exact absurd hi (hdisjoint k hj)
    · rfl
  obtain ⟨replies, reached, hreached, hall⟩ :=
    players_apart_do_not_interfere sound_duet hplayers hcallers htargets hapart
  obtain ⟨alone, p, x, halone, -, -, hx, hx', -⟩ := hall 1 (by simp [players])
  exact ⟨hplayers, hcallers, htargets, hapart, replies, reached, alone, x, hreached, halone, hx, hx'⟩

/-- A system that one player hands over to another keeps its cursor, so these two interfere. -/
example :
    let cursorOf (history : List (Nat × Player.Call)) :=
      (duet.calls history).bind fun r => (r.2.playing? 1).map fun x => x.system.cursor
    cursorOf [(0, .tick), (0, .switch 2 none none), (1, .switch 0 none none)] = some 1 ∧
      cursorOf [(1, .switch 0 none none)] = some 0 := by
  decide

end Stage

end TurtleGrammar
