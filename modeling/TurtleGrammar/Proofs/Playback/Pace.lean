import TurtleGrammar.Proofs.Playback.Record

/-! The cursor of a system and the record of the one turtle that plays it. They are kept by two
objects, and each tick moves both on or neither: as long as no one else is there, the record holds
the symbols up to the cursor, and the lines that were drawn since the last reset. A run can be cut
in two anywhere. -/

namespace TurtleGrammar.Playback

/-- The ticks that a run makes, each with the turtle as it was before. -/
def deeds : Nat → Playback → List Deed
  | 0, _ => []
  | n + 1, p =>
    match p.tick with
    | .error _ => []
    | .ok (_, q) => ⟨p.turtle, .advance p.system⟩ :: deeds n q

/-- The ticks made since the last one that was a reset. -/
def sinceReset (log : List Deed) : List Deed := log.rtakeWhile fun d => !d.act.startsOver

variable {p q : Playback} {d : Option Segment} {e : TurtleError} {m n : Nat} {log : List Deed}

theorem deeds_succ_of_error (h : p.tick = .error e) : p.deeds (n + 1) = [] := by
  rw [deeds, h]

theorem deeds_succ_of_ok (h : p.tick = .ok (d, q)) :
    p.deeds (n + 1) = ⟨p.turtle, .advance p.system⟩ :: q.deeds n := by
  rw [deeds, h]

theorem perform_of_tick (h : p.tick = .ok (d, q)) :
    (Call.advance p.system).perform p.turtle = .ok (d, q.turtle) := by
  rw [Call.perform, h, Except.map]

/-- A run gives the lines that its ticks give. -/
theorem segments_run : (p.run n).segments.toList = (p.deeds n).filterMap Deed.returned? := by
  induction n generalizing p with
  | zero => rfl
  | succ n ih =>
    cases ht : p.tick with
    | error e =>
      rw [run_succ_of_error ht, deeds_succ_of_error ht]
      rfl
    | ok r =>
      obtain ⟨d, q⟩ := r
      have hreturned : Deed.returned? ⟨p.turtle, .advance p.system⟩ = d := by
        rw [Deed.returned?, perform_of_tick ht]
      rw [run_succ_of_ok ht, deeds_succ_of_ok ht, List.filterMap_cons, hreturned, ← ih]
      cases d <;> simp

/-- Up to the end of the word no tick is a reset. -/
theorem startsOver_of_deeds (hplain : .reset ∉ p.system.rest) (hn : n ≤ p.system.rest.length) :
    ∀ d ∈ p.deeds n, d.act.startsOver = false := by
  induction n generalizing p with
  | zero => simp [deeds]
  | succ n ih =>
    cases hr : p.system.rest with
    | nil => simp [hr] at hn
    | cons s w =>
      rw [hr, List.mem_cons, not_or] at hplain
      cases ht : p.tick with
      | error e =>
        rw [deeds_succ_of_error ht]
        simp
      | ok r =>
        obtain ⟨d, q⟩ := r
        have hq : q.system.rest = w := by
          rw [(tick_eq_ok ht).2.1, LSystem.rest_advance_of_cons hr]
        rw [deeds_succ_of_ok ht, List.forall_mem_cons]
        constructor
        · rw [Call.startsOver, LSystem.peek_of_cons hr]
          exact decide_eq_false (Ne.symm hplain.1)
        · refine ih (hq ▸ hplain.2) ?_
          simp only [hq, hr, List.length_cons] at hn ⊢
          omega

theorem cursor_run (hn : n ≤ p.system.rest.length) (h : (p.run n).failure = none) :
    (p.run n).final.system.cursor = p.system.cursor + n := by
  induction n generalizing p with
  | zero => rfl
  | succ n ih =>
    cases hr : p.system.rest with
    | nil => simp [hr] at hn
    | cons s w =>
      cases ht : p.tick with
      | error e => simp [run_succ_of_error ht] at h
      | ok r =>
        obtain ⟨d, q⟩ := r
        obtain ⟨-, hq, -⟩ := tick_eq_ok ht
        have hrest : q.system.rest = w := by rw [hq, LSystem.rest_advance_of_cons hr]
        have hcursor : q.system.cursor = p.system.cursor + 1 := by
          rw [hq, LSystem.cursor_advance_of_cons hr]
        rw [run_succ_of_ok ht] at h ⊢
        have hlater := ih (by simp only [hrest, hr, List.length_cons] at hn ⊢; omega) h
        simp only [hlater, hcursor]
        omega

/-! ### The record -/

/-- The record of the turtle holds the symbols that the system gave out in this round, and tells
what was done since the last reset of some ticks. -/
structure InPace (p : Playback) (log : List Deed) : Prop where
  plain : .reset ∉ p.system.word.toList
  recounts : p.turtle.Recounts (sinceReset log)
  symbols_eq : p.turtle.recorded.map Prod.fst = p.system.word.toList.take p.system.cursor

theorem inPace_start {s : LSystem} (hcursor : s.cursor = 0) (hplain : .reset ∉ s.word.toList)
    (step : StepLength) (origin : Point) (heading : Float) :
    InPace ⟨Turtle.start step origin heading, s⟩ [] where
  plain := hplain
  recounts := Turtle.recounts_nil rfl rfl
  symbols_eq := by
    rw [hcursor]
    rfl

theorem InPace.tick (h : p.InPace log) (ht : p.tick = .ok (d, q)) :
    q.InPace (log ++ [⟨p.turtle, .advance p.system⟩]) := by
  obtain ⟨-, hsystem, -⟩ := tick_eq_ok ht
  have hafter : Deed.after ⟨p.turtle, .advance p.system⟩ = q.turtle :=
    Deed.after_of_ok (perform_of_tick ht)
  have happlied : Deed.applied? ⟨p.turtle, .advance p.system⟩ = some p.system.peek :=
    Deed.applied_of_ok (perform_of_tick ht)
  have hword : q.system.word = p.system.word := by rw [hsystem, LSystem.advance_word]
  have hplain : .reset ∉ q.system.word.toList := hword ▸ h.plain
  have hrecord := Deed.record_cases ⟨p.turtle, .advance p.system⟩
  rw [hafter, happlied] at hrecord
  cases hr : p.system.rest with
  | nil =>
    -- the word is at its end, where the turtle starts over and the system does
    have hover : Call.startsOver (.advance p.system) = true := by
      simp [Call.startsOver, LSystem.peek_of_nil hr]
    rcases hrecord with ⟨-, htrail, hplace⟩ | ⟨hgoes, -⟩
    · have hsince : sinceReset (log ++ [⟨p.turtle, .advance p.system⟩]) = [] := by
        simp [sinceReset, hover]
      refine ⟨hplain, ?_, ?_⟩
      · rw [hsince]
        exact Turtle.recounts_nil htrail hplace
      · rw [hsystem, LSystem.cursor_advance_of_nil hr, Turtle.recorded, htrail]
        rfl
    · cases hover.symm.trans hgoes
  | cons s w =>
    have hpeek := LSystem.peek_of_cons hr
    have hmem : s ∈ p.system.word.toList :=
      List.mem_of_mem_drop (show s ∈ p.system.rest by simp [hr])
    have hs : s ≠ .reset := fun he => h.plain (he ▸ hmem)
    have hgoes : Call.startsOver (.advance p.system) = false := by
      simp [Call.startsOver, hpeek, hs]
    have hsince : sinceReset (log ++ [⟨p.turtle, .advance p.system⟩]) =
        sinceReset log ++ [⟨p.turtle, .advance p.system⟩] := by
      simp [sinceReset, hgoes]
    have hrecounts := Turtle.Recounts.step (d := ⟨p.turtle, .advance p.system⟩) h.recounts hgoes
    rw [hafter] at hrecounts
    rcases hrecord with ⟨hover, -⟩ | ⟨-, -, ⟨s', -, hsome, htrail⟩ | ⟨hnone, -⟩⟩
    · cases hgoes.symm.trans hover
    · cases (hpeek ▸ hsome : some s = some s')
      have hnext : p.system.word.toList[p.system.cursor]? = some s := by
        rw [← List.head?_drop, ← LSystem.rest, hr, List.head?_cons]
      refine ⟨hplain, ?_, ?_⟩
      · rw [hsince]
        exact hrecounts
      · rw [hsystem, LSystem.cursor_advance_of_cons hr, LSystem.advance_word, List.take_add_one,
          ← h.symbols_eq, hnext, Turtle.recorded, htrail]
        simp [Turtle.recorded]
    · cases hnone

theorem InPace.run (h : p.InPace log) (n : Nat) : (p.run n).final.InPace (log ++ p.deeds n) := by
  induction n generalizing p log with
  | zero =>
    rw [deeds, List.append_nil]
    exact h
  | succ n ih =>
    cases ht : p.tick with
    | error e =>
      rw [run_succ_of_error ht, deeds_succ_of_error ht, List.append_nil]
      exact h
    | ok r =>
      obtain ⟨d, q⟩ := r
      have hlater := ih (h.tick ht)
      rw [run_succ_of_ok ht, deeds_succ_of_ok ht]
      simpa using hlater

/-! ### Two runs in one -/

theorem run_add_of_ok (h : (p.run m).failure = none) :
    p.run (m + n) =
      { (p.run m).final.run n with
        segments := (p.run m).segments ++ ((p.run m).final.run n).segments
        events := (p.run m).events ++ ((p.run m).final.run n).events } := by
  induction m generalizing p with
  | zero => simp [run, Run.extend, Run.start]
  | succ m ih =>
    cases ht : p.tick with
    | error e => simp [run_succ_of_error ht] at h
    | ok r =>
      obtain ⟨d, q⟩ := r
      rw [run_succ_of_ok ht] at h
      rw [Nat.succ_add, run_succ_of_ok ht, run_succ_of_ok ht, ih h]
      simp

theorem run_add_of_error (h : (p.run m).failure = some e) : p.run (m + n) = p.run m := by
  induction m generalizing p with
  | zero => cases h
  | succ m ih =>
    rw [Nat.succ_add]
    cases ht : p.tick with
    | error e' => rw [run_succ_of_error ht, run_succ_of_error ht]
    | ok r =>
      obtain ⟨d, q⟩ := r
      rw [run_succ_of_ok ht] at h
      rw [run_succ_of_ok ht, run_succ_of_ok ht, ih h]

/-- After a run that failed, no further one gets anywhere. -/
theorem final_run_of_error (h : (p.run m).failure = some e) :
    ((p.run m).final.run n).final = (p.run m).final := by
  rcases p.run_cases m with hnone | ⟨k, -, e', -, hfail, hrun⟩
  · cases hnone.symm.trans h
  · rw [hrun]
    cases n with
    | zero => rfl
    | succ n =>
      rw [run_succ_of_error hfail]
      rfl

theorem final_run_run : ((p.run m).final.run n).final = (p.run (m + n)).final := by
  cases h : (p.run m).failure with
  | none => rw [run_add_of_ok h]
  | some e => rw [final_run_of_error h, run_add_of_error h]

end TurtleGrammar.Playback
