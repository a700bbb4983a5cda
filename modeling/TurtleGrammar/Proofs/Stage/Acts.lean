import TurtleGrammar.Stage
import TurtleGrammar.Proofs.Playback.History
import TurtleGrammar.Proofs.Playback.Ticks

/-! What is done on a stage, one act after another, by whoever is on it. An act changes a system
only when it takes a symbol from it. The symbol then goes to one consumer: it is given back, or the
turtle that ticked applies it. An act that fails leaves the whole stage as it was. -/

namespace TurtleGrammar

/-- Something done on a stage: a tick of a turtle or of a player, a symbol taken from a system
without a turtle, a look at its next symbol, a player that goes over to another system, or whatever
else is done to a turtle. -/
inductive Act
  | tick (turtle system : Nat)
  | play (player : Nat)
  | take (system : Nat)
  | look (system : Nat)
  | switch (player system : Nat) (origin : Option Point) (heading : Option Float)
  | handle (turtle : Nat) (change : Turtle → Turtle)

/-- What comes of an act. -/
inductive Answer
  | ticked (drawn : Option Segment)
  | failed (e : TurtleError)
  | taken (s : Symbol)
  | shown (s : Symbol)
  | done

/-- One tick of a turtle on a system. -/
def Stage.tick (stage : Stage) (turtle system : Nat) : Option (Answer × Stage) := do
  let (r, after) ← stage.play turtle system fun _ => 1
  pure (r.failure.elim (.ticked r.segments[0]?) .failed, after)

namespace Act

/-- The stage after an act and what came of it, if everything that the act names is there. -/
def perform (stage : Stage) : Act → Option (Answer × Stage)
  | .tick t k => stage.tick t k
  | .play i => do
    let p ← stage.players[i]?
    stage.tick p.turtle p.system
  | .take k => (stage.take k).map fun (s, after) => (.taken s, after)
  | .look k => stage.systems[k]?.map fun s => (.shown s.peek, stage)
  | .switch i k origin heading =>
    (stage.switch i k origin heading).map fun (_, after) => (.done, after)
  | .handle t change => stage.turtles[t]?.map fun u => (.done, stage.setTurtle t (change u))

/-- The turtle of a tick. -/
def turtle? (stage : Stage) : Act → Option Nat
  | .tick t _ => some t
  | .play i => stage.players[i]?.map Player.turtle
  | .take _ | .look _ | .switch .. | .handle .. => none

/-- The system from which an act takes a symbol or at which it looks. -/
def system? (stage : Stage) : Act → Option Nat
  | .tick _ k | .take k | .look k => some k
  | .play i => stage.players[i]?.map Player.system
  | .switch .. | .handle .. => none

end Act

/-- An act together with the stage on which it is done. -/
abbrev Scene := Moment Stage Act

namespace Scene

/-- What comes of the act. -/
def answer? (x : Scene) : Option Answer := (x.act.perform x.before).map Prod.fst

/-- The stage after the act. -/
def after (x : Scene) : Stage := ((x.act.perform x.before).map Prod.snd).getD x.before

/-- Whether the act takes a symbol from a system. -/
def takes (x : Scene) (k : Nat) : Bool :=
  x.act.system? x.before = some k &&
    match x.answer? with
    | some (.ticked _) | some (.taken _) => true
    | _ => false

/-- The act gets a symbol: it gives the symbol back, or its turtle applies the symbol, turning by
`delta`, and draws the line that it draws. -/
def Receives (x : Scene) (s : Symbol) (delta : Float) : Prop :=
  match x.answer? with
  | some (.taken s') => s' = s
  | some (.ticked d) =>
    ∃ t u v, x.act.turtle? x.before = some t ∧ x.before.turtles[t]? = some u ∧
      x.after.turtles[t]? = some v ∧ u.update s delta = .ok v ∧
      d.toList = Turtle.line s u.place v.place
  | _ => False

end Scene

namespace Stage

/-- The stage after some acts. -/
abbrev afterActs (stage : Stage) (acts : List Act) : Stage := Moment.final Scene.after stage acts

/-- Some acts, each with the stage on which it is done. -/
abbrev scenes (stage : Stage) (acts : List Act) : List Scene :=
  Moment.history Scene.after stage acts

/-- The acts that take a symbol from a system, in order. -/
def takings (stage : Stage) (k : Nat) (acts : List Act) : List Scene :=
  (stage.scenes acts).filter (·.takes k)

end Stage

/-! ### A tick -/

namespace Stage

variable {stage : Stage} {t k n : Nat} {p q : Playback} {d : Option Segment} {e : TurtleError}
  {u : Turtle} {s : LSystem}

theorem playback_eq_some_iff :
    stage.playback? t k = some p ↔
      stage.turtles[t]? = some p.turtle ∧ stage.systems[k]? = some p.system := by
  obtain ⟨u, s⟩ := p
  cases ht : stage.turtles[t]? <;> cases hs : stage.systems[k]? <;>
    simp [playback?, ht, hs]

theorem set_of_some {α : Type} {l : List α} {i : Nat} {a : α} (h : l[i]? = some a) :
    l.set i a = l := by
  obtain ⟨hi, rfl⟩ := List.getElem?_eq_some_iff.mp h
  exact List.set_getElem_self hi

theorem getElem_set_of_some {α : Type} {l : List α} {i : Nat} {a b : α} (h : l[i]? = some a) :
    (l.set i b)[i]? = some b :=
  List.getElem?_set_self (List.getElem?_eq_some_iff.mp h).1

theorem setTurtle_self (h : stage.turtles[t]? = some u) : stage.setTurtle t u = stage := by
  rw [setTurtle, set_of_some h]

theorem setSystem_self (h : stage.systems[k]? = some s) : stage.setSystem k s = stage := by
  rw [setSystem, set_of_some h]

/-- The stage with a turtle and a system as they are in a playback. -/
def put (stage : Stage) (t k : Nat) (p : Playback) : Stage :=
  (stage.setTurtle t p.turtle).setSystem k p.system

theorem put_self (h : stage.playback? t k = some p) : stage.put t k p = stage := by
  obtain ⟨ht, hk⟩ := playback_eq_some_iff.mp h
  rw [put, setTurtle_self ht, setSystem_self hk]

theorem put_put : (stage.put t k p).put t k q = stage.put t k q := by
  simp only [put, setTurtle, setSystem, List.set_set]

theorem playback_put (h : stage.playback? t k = some p) :
    (stage.put t k q).playback? t k = some q := by
  obtain ⟨ht, hk⟩ := playback_eq_some_iff.mp h
  exact playback_eq_some_iff.mpr ⟨getElem_set_of_some ht, getElem_set_of_some hk⟩

theorem play_eq (h : stage.playback? t k = some p) :
    stage.play t k (fun _ => n) = some (p.run n, stage.put t k (p.run n).final) := by
  rw [play, h]
  rfl

theorem tick_of_none (h : stage.playback? t k = none) : stage.tick t k = none := by
  rw [tick, play, h]
  rfl

theorem tick_of_error (h : stage.playback? t k = some p) (ht : p.tick = .error e) :
    stage.tick t k = some (.failed e, stage) := by
  have hrun := Playback.run_succ_of_error (n := 0) ht
  rw [tick, play_eq h, hrun]
  simp [Playback.Run.start, put_self h]

theorem tick_of_ok (h : stage.playback? t k = some p) (ht : p.tick = .ok (d, q)) :
    stage.tick t k = some (.ticked d, stage.put t k q) := by
  have hrun := Playback.run_succ_of_ok (n := 0) ht
  rw [tick, play_eq h, hrun]
  cases d <;> simp [Playback.run, Playback.Run.extend, Playback.Run.start]

theorem systems_switch {i : Nat} {origin : Option Point} {heading : Option Float}
    {r : List Event × Stage} (h : stage.switch i k origin heading = some r) :
    r.2.systems = stage.systems := by
  simp only [switch, Option.bind_eq_bind, Option.bind_eq_some_iff] at h
  obtain ⟨p, -, s, -, u, -, h⟩ := h
  cases h
  rfl

end Stage

/-! ### One act -/

namespace Scene

variable {x : Scene} {stage : Stage} {t j k : Nat} {s : LSystem} {p : Playback} {a b : Symbol}
  {delta : Float} {e : TurtleError}

theorem after_of_some {answer : Answer} (h : x.act.perform x.before = some (answer, stage)) :
    x.after = stage := by
  rw [after, h]
  rfl

theorem answer_of_some {answer : Answer} (h : x.act.perform x.before = some (answer, stage)) :
    x.answer? = some answer := by
  rw [answer?, h]
  rfl

theorem after_of_none (h : x.act.perform x.before = none) : x.after = x.before := by
  rw [after, h]
  rfl

theorem answer_of_none (h : x.act.perform x.before = none) : x.answer? = none := by
  rw [answer?, h]
  rfl

theorem takes_of_none (h : x.act.perform x.before = none) : x.takes k = false := by
  rw [takes, answer_of_none h, Bool.and_false]

theorem takes_of_system (h : x.act.system? x.before ≠ some k) : x.takes k = false := by
  rw [takes, decide_eq_false h, Bool.false_and]

theorem perform_of_tick (ht : x.act.turtle? x.before = some t)
    (hk : x.act.system? x.before = some k) :
    x.act.perform x.before = x.before.tick t k := by
  obtain ⟨stage, act⟩ := x
  cases act with
  | tick t' k' =>
    cases ht
    cases hk
    rfl
  | play i =>
    cases hi : stage.players[i]? with
    | none => simp [Act.turtle?, hi] at ht
    | some p =>
      simp only [Act.turtle?, Act.system?, hi, Option.map_some, Option.some.injEq] at ht hk
      subst ht hk
      simp [Act.perform, hi]
  | take _ | look _ | switch _ _ _ _ | handle _ _ => cases ht

/-- A tick fails and leaves the stage as it is, or gives the next symbol to its turtle and then
takes it. -/
theorem tick_cases (ht : x.act.turtle? x.before = some t) (hk : x.act.system? x.before = some k)
    (hp : x.before.playback? t k = some p) :
    (∃ e, p.tick = .error e ∧ x.answer? = some (.failed e) ∧ x.after = x.before) ∨
    ∃ d q, p.tick = .ok (d, q) ∧ x.answer? = some (.ticked d) ∧ x.after = x.before.put t k q := by
  have hperform := perform_of_tick ht hk
  cases htick : p.tick with
  | error e =>
    rw [Stage.tick_of_error hp htick] at hperform
    exact .inl ⟨e, rfl, answer_of_some hperform, after_of_some hperform⟩
  | ok r =>
    rw [Stage.tick_of_ok hp htick] at hperform
    exact .inr ⟨r.1, r.2, rfl, answer_of_some hperform, after_of_some hperform⟩

/-- What an act can do to a system that is on the stage: it takes the next symbol and gives it to
one consumer, or it leaves the system as it is. -/
inductive Serves (x : Scene) (k : Nat) (s : LSystem) : Prop
  | takes (h : x.takes k = true) (hafter : x.after.systems[k]? = some s.advance)
      (hreceives : x.Receives s.peek s.definition.delta)
  | spares (h : x.takes k = false) (hafter : x.after.systems[k]? = some s)

theorem serves_of_none (hs : x.before.systems[k]? = some s)
    (h : x.act.perform x.before = none) : x.Serves k s :=
  .spares (takes_of_none h) (by rw [after_of_none h, hs])

theorem serves_of_tick (ht : x.act.turtle? x.before = some t)
    (hj : x.act.system? x.before = some j) (hs : x.before.systems[k]? = some s) :
    x.Serves k s := by
  cases hp : x.before.playback? t j with
  | none => exact serves_of_none hs ((perform_of_tick ht hj).trans (Stage.tick_of_none hp))
  | some p =>
    obtain ⟨hturtle, hsystem⟩ := Stage.playback_eq_some_iff.mp hp
    rcases tick_cases ht hj hp with ⟨e, -, hanswer, hafter⟩ | ⟨d, q, htick, hanswer, hafter⟩
    · exact .spares (by rw [takes, hanswer, Bool.and_false]) (by rw [hafter, hs])
    obtain ⟨hupdate, hq, hd⟩ := Playback.tick_eq_ok htick
    by_cases hjk : j = k
    · subst hjk
      cases hs.symm.trans hsystem
      obtain ⟨ht', hj'⟩ := Stage.playback_eq_some_iff.mp (Stage.playback_put (q := q) hp)
      refine .takes (by rw [takes, hanswer, hj, decide_eq_true rfl, Bool.true_and]) ?_ ?_
      · rw [hafter, hj', hq]
      · rw [Receives, hanswer]
        exact ⟨t, p.turtle, q.turtle, ht, hturtle, by rw [hafter, ht'], hupdate, hd⟩
    · refine .spares (takes_of_system fun h => hjk (Option.some.inj (hj.symm.trans h))) ?_
      rw [hafter]
      exact (List.getElem?_set_ne hjk).trans hs

theorem serves_of_take (hact : x.act = .take j) (hs : x.before.systems[k]? = some s) :
    x.Serves k s := by
  have hj : x.act.system? x.before = some j := by rw [hact, Act.system?]
  cases hs' : x.before.systems[j]? with
  | none => exact serves_of_none hs (by simp [hact, Act.perform, Stage.take, hs'])
  | some s' =>
    have hperform : x.act.perform x.before =
        some (.taken s'.peek, x.before.setSystem j s'.advance) := by
      simp [hact, Act.perform, Stage.take, hs']
    have hanswer := answer_of_some hperform
    by_cases hjk : j = k
    · subst hjk
      cases hs.symm.trans hs'
      refine .takes (by rw [takes, hanswer, hj, decide_eq_true rfl, Bool.true_and]) ?_ ?_
      · rw [after_of_some hperform]
        exact Stage.getElem_set_of_some hs
      · rw [Receives, hanswer]
    · refine .spares (takes_of_system fun h => hjk (Option.some.inj (hj.symm.trans h))) ?_
      rw [after_of_some hperform]
      exact (List.getElem?_set_ne hjk).trans hs

theorem serves_of_look (hact : x.act = .look j) (hs : x.before.systems[k]? = some s) :
    x.Serves k s := by
  cases hs' : x.before.systems[j]? with
  | none => exact serves_of_none hs (by simp [hact, Act.perform, hs'])
  | some s' =>
    have hperform : x.act.perform x.before = some (.shown s'.peek, x.before) := by
      simp [hact, Act.perform, hs']
    exact .spares (by rw [takes, answer_of_some hperform, Bool.and_false])
      (by rw [after_of_some hperform, hs])

theorem serves_of_systems (hact : x.act.system? x.before = none)
    (hafter : x.after.systems = x.before.systems) (hs : x.before.systems[k]? = some s) :
    x.Serves k s :=
  .spares (takes_of_system (by simp [hact])) (by rw [hafter, hs])

theorem serves (hs : x.before.systems[k]? = some s) : x.Serves k s := by
  cases hact : x.act with
  | tick t j => exact serves_of_tick (by rw [hact, Act.turtle?]) (by rw [hact, Act.system?]) hs
  | play i =>
    cases hi : x.before.players[i]? with
    | none => exact serves_of_none hs (by simp [hact, Act.perform, hi])
    | some p =>
      exact serves_of_tick (t := p.turtle) (j := p.system) (by simp [hact, Act.turtle?, hi])
        (by simp [hact, Act.system?, hi]) hs
  | take j => exact serves_of_take hact hs
  | look j => exact serves_of_look hact hs
  | switch i j origin heading =>
    refine serves_of_systems (by rw [hact, Act.system?]) ?_ hs
    cases hswitch : x.before.switch i j origin heading with
    | none => rw [after_of_none (by simp [hact, Act.perform, hswitch])]
    | some r =>
      rw [after, hact, Act.perform, hswitch]
      exact Stage.systems_switch hswitch
  | handle t change =>
    refine serves_of_systems (by rw [hact, Act.system?]) ?_ hs
    rw [after, hact, Act.perform]
    cases x.before.turtles[t]? <;> rfl

theorem answer_of_look (hact : x.act = .look k) (hs : x.before.systems[k]? = some s) :
    x.answer? = some (.shown s.peek) := by
  simp [answer?, hact, Act.perform, hs]

theorem after_of_look (hact : x.act = .look k) : x.after = x.before := by
  rw [after, hact, Act.perform]
  cases x.before.systems[k]? <;> rfl

theorem after_of_tick_failed (ht : x.act.turtle? x.before = some t)
    (hk : x.act.system? x.before = some k) (h : x.answer? = some (.failed e)) :
    x.after = x.before := by
  cases hp : x.before.playback? t k with
  | none => exact after_of_none ((perform_of_tick ht hk).trans (Stage.tick_of_none hp))
  | some p =>
    rcases tick_cases ht hk hp with ⟨e, -, -, hafter⟩ | ⟨d, q, -, hanswer, -⟩
    · exact hafter
    · cases hanswer.symm.trans h

/-- An act that fails leaves everything on the stage as it was. -/
theorem after_of_failed (h : x.answer? = some (.failed e)) : x.after = x.before := by
  cases hact : x.act with
  | tick t k =>
    exact after_of_tick_failed (by rw [hact, Act.turtle?]) (by rw [hact, Act.system?]) h
  | play i =>
    cases hi : x.before.players[i]? with
    | none => exact after_of_none (by simp [hact, Act.perform, hi])
    | some p =>
      exact after_of_tick_failed (t := p.turtle) (k := p.system) (by simp [hact, Act.turtle?, hi])
        (by simp [hact, Act.system?, hi]) h
  | take _ | look _ | switch _ _ _ _ | handle _ _ =>
    rw [answer?, hact, Act.perform, Option.map_map, Option.map_eq_some_iff] at h
    obtain ⟨_, -, hanswer⟩ := h
    cases hanswer

/-- An act gets one symbol at most. -/
theorem eq_of_receives (ha : x.Receives a delta) (hb : x.Receives b delta) : a = b := by
  rw [Receives] at ha hb
  match hanswer : x.answer? with
  | some (.taken s') =>
    rw [hanswer] at ha hb
    exact ha.symm.trans hb
  | some (.ticked d) =>
    rw [hanswer] at ha hb
    obtain ⟨t, u, v, ht, hu, hv, hupdate, -⟩ := ha
    obtain ⟨t', u', v', ht', hu', hv', hupdate', -⟩ := hb
    cases ht.symm.trans ht'
    cases hu.symm.trans hu'
    cases hv.symm.trans hv'
    exact Turtle.eq_of_update hupdate hupdate'
  | none | some (.failed _) | some (.shown _) | some .done => simp [hanswer] at ha

end Scene

/-! ### Many acts -/

namespace Stage

variable {stage : Stage} {acts : List Act} {act : Act} {k : Nat}

theorem takings_concat :
    stage.takings k (acts ++ [act]) =
      stage.takings k acts ++ [⟨stage.afterActs acts, act⟩].filter (Scene.takes · k) := by
  rw [takings, scenes, Moment.history_concat, List.filter_append, takings]

end Stage

end TurtleGrammar
