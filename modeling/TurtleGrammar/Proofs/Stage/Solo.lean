import TurtleGrammar.Proofs.Grammar.Rewriting
import TurtleGrammar.Proofs.Playback.Pace
import TurtleGrammar.Proofs.Stage.Failure
import TurtleGrammar.Proofs.Stage.Twins

/-! A player that alone plays a system constructed from texts. Whatever ticks, runs and replays are
called, and whichever of them fail, its record keeps pace with the cursor of the system. Two runs
one after the other come to one run. -/

namespace TurtleGrammar

/-- How many ticks a call asks for. -/
def Player.Call.ticks (p : Playback) : Call → Nat
  | .tick => 1
  | .run n => n.toNat
  | .replay => p.system.remaining
  | .segments | .switch .. => 0

namespace Playback

/-- The playback after a call that is no switch. -/
def called (p : Playback) (c : Player.Call) : Playback := (p.run (c.ticks p)).final

/-- The ticks that some calls make, in order. -/
def log : Playback → List Player.Call → List Deed
  | _, [] => []
  | p, c :: calls => p.deeds (c.ticks p) ++ (p.called c).log calls

variable {p : Playback} {done : List Deed}

theorem InPace.calls (h : p.InPace done) (calls : List Player.Call) :
    (calls.foldl called p).InPace (done ++ p.log calls) := by
  induction calls generalizing p done with
  | nil =>
    rw [log, List.append_nil]
    exact h
  | cons c calls ih =>
    rw [List.foldl_cons, log, ← List.append_assoc]
    exact ih (h.run _)

theorem word_run (p : Playback) (n : Nat) : (p.run n).final.system.word = p.system.word := by
  induction n generalizing p with
  | zero => rfl
  | succ n ih =>
    cases ht : p.tick with
    | error e => rw [run_succ_of_error ht, Run.start]
    | ok r =>
      obtain ⟨d, q⟩ := r
      rw [run_succ_of_ok ht, ih, (tick_eq_ok ht).2.1, LSystem.advance_word]

theorem word_calls (p : Playback) (calls : List Player.Call) :
    (calls.foldl called p).system.word = p.system.word := by
  induction calls generalizing p with
  | nil => rfl
  | cons c calls ih => rw [List.foldl_cons, ih, called, word_run]

theorem length_rest (s : LSystem) : s.rest.length = s.remaining := by
  rw [LSystem.rest, List.length_drop, Array.length_toList, LSystem.remaining]

theorem advance_of_deeds {n : Nat} : ∀ d ∈ p.deeds n, ∃ system, d.act = .advance system := by
  induction n generalizing p with
  | zero => simp [deeds]
  | succ n ih =>
    cases ht : p.tick with
    | error e =>
      simp [deeds_succ_of_error ht]
    | ok r =>
      rw [deeds_succ_of_ok ht, List.forall_mem_cons]
      exact ⟨⟨p.system, rfl⟩, ih⟩

theorem advance_of_log {calls : List Player.Call} :
    ∀ d ∈ p.log calls, ∃ system, d.act = .advance system := by
  induction calls generalizing p with
  | nil => simp [log]
  | cons c calls ih =>
    rw [log, List.forall_mem_append]
    exact ⟨advance_of_deeds, ih⟩

/-- The lines in the record are those that the ticks since the last reset gave back. -/
theorem InPace.segments_eq (h : p.InPace done)
    (hadvance : ∀ d ∈ done, ∃ system, d.act = .advance system) :
    p.turtle.segments = (sinceReset done).filterMap Deed.returned? := by
  rw [h.recounts.segments_eq]
  refine List.filterMap_congr fun d hd => ?_
  have hmem : d ∈ done := (List.rtakeWhile_suffix _ _).subset hd
  obtain ⟨system, hsystem⟩ := hadvance d hmem
  exact (Deed.returned_of_advance hsystem).symm

/-- A replay takes the rest of the word and no reset, and if it starts at the start of the word, it
draws a line for each forward symbol. -/
theorem replay_to_end (hplain : .reset ∉ p.system.word.toList) :
    (∀ d ∈ p.deeds p.system.remaining, d.applied? ≠ some .reset) ∧
    (p.replay.failure = none → p.replay.final.system.cursor = p.system.word.size ∧
      (p.system.cursor = 0 →
        p.replay.segments.size = Word.count p.system.word.toList .forward)) := by
  have hrest : .reset ∉ p.system.rest := fun h => hplain (List.mem_of_mem_drop h)
  have hremaining := Nat.le_of_eq (length_rest p.system).symm
  refine ⟨fun d hd happlied => ?_, fun hnone => ⟨?_, fun hcursor => ?_⟩⟩
  · exact Deed.startsOver_of_applied happlied (startsOver_of_deeds hrest hremaining d hd)
  · rw [replay, cursor_run hremaining hnone, LSystem.remaining]
    have := p.system.cursor_le
    omega
  · obtain ⟨hturtle, hsegments⟩ := replay_eq_follow hcursor
    have hok : p.replay.turtle = .ok p.replay.final.turtle := by
      rw [Run.turtle, hnone]
    rw [← Turtle.length_drawn (hturtle.symm.trans hok), ← hsegments, Array.length_toList]

theorem Run.result_reply_eq_ok {r : Run} {lines : List Segment} :
    r.reply.result = .ok lines ↔ r.failure = none ∧ lines = r.segments.toList := by
  cases h : r.failure <;> simp [reply, h, eq_comm]

end Playback

namespace Stage

variable {stage : Stage} {i : Nat} {a : Player} {p : Playback} {c : Player.Call} {m n : Int}

/-! ### Calls of a player that stays with its system -/

theorem ticks_of_nonneg (h : 0 ≤ n) : Playback.ticks n = .ok n.toNat := by
  rw [Playback.ticks, if_neg (Int.not_lt.mpr h)]

theorem ticks_of_neg (h : n < 0) : Playback.ticks n = .error .negativeTicks := by
  rw [Playback.ticks, if_pos h]

theorem call_run_of_nonneg (ha : stage.players[i]? = some a)
    (hp : stage.playback? a.turtle a.system = some p) (h : 0 ≤ n) :
    stage.call i (.run n) =
      some ((p.run n.toNat).reply, stage.put a.turtle a.system (p.run n.toNat).final) := by
  simp only [call, ha, Option.bind_eq_bind, Option.bind_some, ticks_of_nonneg h]
  exact playBy_eq hp

theorem call_run_of_neg (ha : stage.players[i]? = some a) (h : n < 0) :
    stage.call i (.run n) = some (⟨[], .error (.refused .negativeTicks)⟩, stage) := by
  simp only [call, ha, Option.bind_eq_bind, Option.bind_some, ticks_of_neg h]

theorem call_replay (ha : stage.players[i]? = some a)
    (hp : stage.playback? a.turtle a.system = some p) :
    stage.call i .replay = some (p.replay.reply, stage.put a.turtle a.system p.replay.final) := by
  simp only [call, ha, Option.bind_eq_bind, Option.bind_some]
  exact playBy_eq hp

theorem call_segments (ha : stage.players[i]? = some a)
    (hp : stage.playback? a.turtle a.system = some p) :
    stage.call i .segments = some (⟨[], .ok p.turtle.segments⟩, stage) := by
  simp [call, ha, (playback_eq_some_iff.mp hp).1]

theorem call_of_stays (ha : stage.players[i]? = some a)
    (hp : stage.playback? a.turtle a.system = some p) (hc : c.target? = none) :
    ∃ o, stage.call i c = some (o, stage.put a.turtle a.system (p.called c)) := by
  cases c with
  | tick =>
    refine ⟨(p.run 1).reply, ?_⟩
    simp only [call, ha, Option.bind_eq_bind, Option.bind_some]
    exact playBy_eq hp
  | run n =>
    by_cases hn : 0 ≤ n
    · exact ⟨_, call_run_of_nonneg ha hp hn⟩
    · have hzero : p.called (.run n) = p := by
        rw [Playback.called, Player.Call.ticks, Int.toNat_of_nonpos (by omega)]
        rfl
      rw [hzero, put_self hp]
      exact ⟨_, call_run_of_neg ha (Int.not_le.mp hn)⟩
  | replay => exact ⟨_, call_replay ha hp⟩
  | segments =>
    have hzero : p.called .segments = p := rfl
    rw [hzero, put_self hp]
    exact ⟨_, call_segments ha hp⟩
  | switch _ _ _ => cases hc

theorem calls_of_stays (ha : stage.players[i]? = some a)
    (hp : stage.playback? a.turtle a.system = some p) {calls : List Player.Call}
    (hcalls : ∀ c ∈ calls, c.target? = none) :
    ∃ replies, stage.calls (calls.map (i, ·)) =
      some (replies, stage.put a.turtle a.system (calls.foldl Playback.called p)) := by
  induction calls generalizing stage p with
  | nil => exact ⟨[], by rw [List.foldl_nil, put_self hp]; rfl⟩
  | cons c calls ih =>
    rw [List.forall_mem_cons] at hcalls
    obtain ⟨o, hc⟩ := call_of_stays ha hp hcalls.1
    obtain ⟨replies, hrest⟩ := ih
      (show (stage.put a.turtle a.system (p.called c)).players[i]? = some a from ha)
      (playback_put hp) hcalls.2
    rw [put_put] at hrest
    exact ⟨o :: replies, calls_cons_eq_some_iff.mpr ⟨o, _, replies, hc, hrest, rfl⟩⟩

/-! ### Two runs -/

theorem calls_pair_eq {c c' : Player.Call} {o o' : Reply} {next after : Stage}
    (h : stage.call i c = some (o, next)) (h' : next.call i c' = some (o', after)) :
    stage.calls [(i, c), (i, c')] = some ([o, o'], after) :=
  calls_cons_eq_some_iff.mpr ⟨o, next, [o'], h,
    calls_cons_eq_some_iff.mpr ⟨o', after, [], h', rfl, rfl⟩, rfl⟩

/-- Two runs one after the other leave the stage as one run of both together does, succeed if that
one does, and then give its lines. So do two runs of negative numbers, which are all refused. -/
theorem run_then_run (ha : stage.players[i]? = some a)
    (hp : stage.playback? a.turtle a.system = some p) (hmn : 0 ≤ m ↔ 0 ≤ n) :
    ∃ o o' both after, stage.calls [(i, .run m), (i, .run n)] = some ([o, o'], after) ∧
      stage.call i (.run (m + n)) = some (both, after) ∧
      ((∃ lines, both.result = .ok lines) ↔
        (∃ lines, o.result = .ok lines) ∧ ∃ lines, o'.result = .ok lines) ∧
      ∀ lines lines', o.result = .ok lines → o'.result = .ok lines' →
        both.result = .ok (lines ++ lines') := by
  by_cases hm : 0 ≤ m
  · have hn := hmn.mp hm
    have hsum : (m + n).toNat = m.toNat + n.toNat := Int.toNat_add hm hn
    have hfirst := call_run_of_nonneg ha hp hm
    have hsecond := call_run_of_nonneg
      (show (stage.put a.turtle a.system (p.run m.toNat).final).players[i]? = some a from ha)
      (playback_put hp) hn
    have hboth := call_run_of_nonneg ha hp (show 0 ≤ m + n by omega)
    rw [put_put, Playback.final_run_run] at hsecond
    rw [hsum] at hboth
    refine ⟨_, _, _, _, calls_pair_eq hfirst hsecond, hboth, ?_⟩
    simp only [Playback.Run.result_reply_eq_ok]
    cases hfail : (p.run m.toNat).failure with
    | some e => simp [Playback.run_add_of_error hfail, hfail]
    | none =>
      rw [Playback.run_add_of_ok hfail]
      refine ⟨by simp, ?_⟩
      rintro lines lines' ⟨-, rfl⟩ ⟨hnone, rfl⟩
      exact ⟨hnone, by simp⟩
  · have hn : ¬0 ≤ n := fun hn => hm (hmn.mpr hn)
    have hfirst := call_run_of_neg ha (Int.not_le.mp hm)
    have hsecond := call_run_of_neg ha (Int.not_le.mp hn)
    have hboth := call_run_of_neg ha (show m + n < 0 by omega)
    exact ⟨_, _, _, _, calls_pair_eq hfirst hsecond, hboth, by simp, nofun⟩

/-! ### All calls -/

theorem playing_addPlayer {k : Nat} {s : LSystem} (hk : stage.systems[k]? = some s)
    (step : StepLength) (origin : Point) (heading : Float) :
    ∃ a, (stage.addPlayer k step origin heading).players[stage.players.length]? = some a ∧
      (stage.addPlayer k step origin heading).playback? a.turtle a.system =
        some ⟨Turtle.start step origin heading, s⟩ :=
  ⟨_, List.getElem?_concat_length, playback_eq_some_iff.mpr ⟨List.getElem?_concat_length, hk⟩⟩

/-- A new player that alone plays a system constructed from texts, whatever ticks, runs and replays
of it are called and whichever of them fail: its record holds the symbols up to the cursor, and its
lines are those that the ticks since the last reset gave. Two runs one after the other come to one,
where neither number of ticks is negative or both are. A replay that succeeds takes no reset, ends
at the end of the word, and draws from its start one line for each forward symbol. -/
theorem solo_player_keeps_pace {name initial rules : Text} {generations : Int} {delta : Float}
    {s : LSystem} {k : Nat}
    (hs : (LSystem.construct name initial rules generations delta).result = .ok s)
    (hk : stage.systems[k]? = some s) (step : StepLength) (origin : Point) (heading : Float)
    {calls : List Player.Call} (hcalls : ∀ c ∈ calls, c.target? = none) :
    let i := stage.players.length
    let since := Playback.sinceReset (Playback.log ⟨Turtle.start step origin heading, s⟩ calls)
    ∃ replies reached p,
      (stage.addPlayer k step origin heading).calls (calls.map (i, ·)) = some (replies, reached) ∧
      reached.playing? i = some p ∧ p.system.word = s.word ∧
      p.turtle.recorded.map Prod.fst = s.word.toList.take p.system.cursor ∧
      p.turtle.recorded.length = p.system.cursor ∧
      reached.call i .segments = some (⟨[], .ok (since.filterMap Deed.returned?)⟩, reached) ∧
      (∀ m n : Int, (0 ≤ m ↔ 0 ≤ n) → ∃ o o' both after,
        reached.calls [(i, .run m), (i, .run n)] = some ([o, o'], after) ∧
        reached.call i (.run (m + n)) = some (both, after) ∧
        ((∃ lines, both.result = .ok lines) ↔
          (∃ lines, o.result = .ok lines) ∧ ∃ lines, o'.result = .ok lines) ∧
        ∀ lines lines', o.result = .ok lines → o'.result = .ok lines' →
          both.result = .ok (lines ++ lines')) ∧
      ∃ o after q, reached.call i .replay = some (o, after) ∧ after.playing? i = some q ∧
        ∀ lines, o.result = .ok lines →
          lines = (p.deeds p.system.remaining).filterMap Deed.returned? ∧
          (∀ d ∈ p.deeds p.system.remaining, d.applied? ≠ some .reset) ∧
          q.system.cursor = s.word.size ∧
          (p.system.cursor = 0 → lines.length = Word.count s.word.toList .forward) := by
  intro i since
  obtain ⟨a, ha, hp⟩ := playing_addPlayer hk step origin heading
  obtain ⟨replies, hreached⟩ := calls_of_stays ha hp hcalls
  have hpace := (Playback.inPace_start (LSystem.cursor_of_construct hs)
    (LSystem.reset_not_mem_construct hs) step origin heading).calls calls
  have hword := Playback.word_calls ⟨Turtle.start step origin heading, s⟩ calls
  -- the playback after all calls, and where it stands on the stage
  generalize hfinal : calls.foldl Playback.called ⟨Turtle.start step origin heading, s⟩ = p at *
  have ha' : ((stage.addPlayer k step origin heading).put a.turtle a.system p).players[i]? =
      some a := ha
  have hp' := playback_put (q := p) hp
  have hsymbols := hpace.symbols_eq
  rw [hword] at hsymbols
  refine ⟨replies, _, p, hreached, playing_eq_some_iff.mpr ⟨a, ha', hp'⟩, hword, hsymbols, ?_, ?_,
    fun m n => run_then_run ha' hp', p.replay.reply, _, p.replay.final, call_replay ha' hp',
    playing_put ha' hp', fun lines hlines => ?_⟩
  · rw [← List.length_map (f := Prod.fst), hsymbols, List.length_take, Array.length_toList, ← hword]
    exact Nat.min_eq_left p.system.cursor_le
  · rw [call_segments ha' hp', hpace.segments_eq Playback.advance_of_log]
    rfl
  · obtain ⟨happlied, hend⟩ := Playback.replay_to_end hpace.plain
    obtain ⟨hnone, rfl⟩ := Playback.Run.result_reply_eq_ok.mp hlines
    obtain ⟨hcursor, hcount⟩ := hend hnone
    rw [hword] at hcursor hcount
    exact ⟨Playback.segments_run, happlied, hcursor,
      fun hstart => (Array.length_toList).trans (hcount hstart)⟩

/-- The system of `G[+G]`, which has no rules. -/
def sprig : LSystem :=
  let line : Symbol := .forward (.ofAlpha 'G' (by decide))
  let w : Word := [line, .push, .turnLeft, line, .pop]
  { definition := { name := [], initial := w, rules := Rules.empty, generations := 0, delta := 0.5 }
    word := w.toArray
    cursor := 0
    cursor_le := by decide }

/-- A new player of the system, beside systems that nobody plays. -/
def gardener : Stage :=
  (repertoire.addSystem sprig).addPlayer 2 Turtle.atOrigin.step ⟨0.0, 0.0⟩ 0.0

theorem construct_sprig :
    (LSystem.construct [] (Text.ofString "G[+G]") [] 0 0.5).result = .ok sprig := rfl

/-- After a refused run and eleven ticks, one of which was a reset, the record holds the word. -/
theorem sprig_player_keeps_pace :
    let calls : List Player.Call := [.run 3, .run (-1), .run 8]
    sprig.cursor = 0 ∧ (∀ c ∈ calls, c.target? = none) ∧
    ∃ replies reached p, gardener.calls (calls.map (0, ·)) = some (replies, reached) ∧
      reached.playing? 0 = some p ∧ p.system.cursor = 5 ∧
      p.turtle.recorded.map Prod.fst = sprig.word.toList ∧
      ∃ o o' both after, reached.calls [(0, .run 4), (0, .run 3)] = some ([o, o'], after) ∧
        reached.call 0 (.run 7) = some (both, after) := by
  intro calls
  have hstay : ∀ c ∈ calls, c.target? = none := by simp [calls, Player.Call.target?]
  have hfive : ((gardener.calls (calls.map (0, ·))).bind fun r =>
      (r.2.playing? 0).map fun p => p.system.cursor) = some 5 := by decide
  obtain ⟨replies, reached, p, hreached, hplaying, -, hsymbols, -, -, hruns, -⟩ :=
    solo_player_keeps_pace construct_sprig
      (show (repertoire.addSystem sprig).systems[2]? = some sprig from rfl)
      Turtle.atOrigin.step ⟨0.0, 0.0⟩ 0.0 hstay
  have hcalls : gardener.calls (calls.map (0, ·)) = some (replies, reached) := hreached
  have hplay : reached.playing? 0 = some p := hplaying
  have hcursor : p.system.cursor = 5 := by
    rw [hcalls, Option.bind_some, hplay] at hfive
    simpa using hfive
  obtain ⟨o, o', both, after, hpair, hboth, -⟩ := hruns 4 3 (by decide)
  refine ⟨rfl, hstay, replies, reached, p, hcalls, hplay, hcursor, ?_, o, o', both, after, hpair,
    hboth⟩
  rw [hsymbols, hcursor]
  rfl

/-- A run of a negative number is refused and makes no tick, so of two runs the one that is not
refused does more than the run of their sum. -/
theorem refused_run_is_no_summand :
    (LSystem.construct [] (Text.ofString "G[+G]") [] 0 0.5).result = .ok sprig ∧
    ∃ o o' both after after',
      gardener.calls [(0, .run (-1)), (0, .run 1)] = some ([o, o'], after) ∧
      gardener.call 0 (.run (-1 + 1)) = some (both, after') ∧
      o.result = .error (.refused .negativeTicks) ∧ both.result = .ok [] ∧
      after.systems.map LSystem.cursor = [0, 0, 1] ∧
      after'.systems.map LSystem.cursor = [0, 0, 0] :=
  ⟨construct_sprig, _, _, _, _, _, rfl, rfl, rfl, rfl, rfl, rfl⟩

end Stage

end TurtleGrammar
