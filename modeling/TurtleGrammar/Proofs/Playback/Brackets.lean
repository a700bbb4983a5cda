import TurtleGrammar.Proofs.Playback.Ticks
import TurtleGrammar.Proofs.Turtle.Alike

/-! The brackets of a word and the frames of a turtle. From a turtle with its base frame only, a
word fails where its pops first outnumber its pushes, whether it is followed or played from a
system, and it is balanced when it succeeds and leaves the base frame only. -/

namespace TurtleGrammar

/-- The turtles after the first symbols of a word, by the number of these symbols, keep step with
the brackets of the word. -/
structure Word.Mirrors (w : Word) (after : Nat → Except TurtleError Turtle) : Prop where
  /-- A symbol is the first that fails, for want of a frame, exactly when it ends the shortest start
  of the word with more pops than pushes. -/
  underflow_iff : ∀ i < w.length,
    (∃ u, after i = .ok u) ∧ after (i + 1) = .error .underflow ↔ w.FirstOverdraft i
  /-- Without such a start all symbols succeed, and the depth counts the open brackets. -/
  depth_eq : (∀ i, ¬Word.Overdrawn (w.take i)) → ∀ i ≤ w.length, ∃ u, after i = .ok u ∧
    (u.depth : Int) = 1 + (List.count .push (w.take i) - List.count .pop (w.take i))
  /-- The word is balanced exactly when it succeeds and leaves the base frame only. -/
  balanced_iff : w.isBalanced = true ↔ ∃ u, after w.length = .ok u ∧ u.depth = 1

/-- Only the turtles up to the end of the word count. -/
theorem Word.Mirrors.congr {w : Word} {after after' : Nat → Except TurtleError Turtle}
    (h : w.Mirrors after) (heq : ∀ i ≤ w.length, after' i = after i) : w.Mirrors after' where
  underflow_iff i hi := by
    rw [heq i (Nat.le_of_lt hi), heq (i + 1) hi]
    exact h.underflow_iff i hi
  depth_eq hno i hi := by
    rw [heq i hi]
    exact h.depth_eq hno i hi
  balanced_iff := by
    rw [heq _ (Nat.le_refl _)]
    exact h.balanced_iff

namespace Turtle

variable {t u : Turtle} {w : Word} {delta : Float}

theorem branches_of_depth (h : t.depth = 1) : t.branches = [] :=
  List.eq_nil_of_length_eq_zero (Nat.succ.inj h)

/-- What a turtle with its base frame only can follow is covered by no frames. -/
theorem covered_zero_of_follow (ht : t.depth = 1) (hr : .reset ∉ w)
    (h : t.follow w delta = .ok u) :
    w.Covered 0 ∧ u.branches.length + List.count .pop w = List.count .push w := by
  have := covered_of_follow hr h
  rwa [branches_of_depth ht, List.length_nil, Nat.zero_add] at this

theorem mirrors_follow (hr : .reset ∉ w) (ht : t.depth = 1)
    (hd : t.follow w delta ≠ .error .noDirection) :
    w.Mirrors fun i => t.follow (w.take i) delta := by
  have hr' : ∀ i, .reset ∉ w.take i := fun i h => hr (List.mem_of_mem_take h)
  have hd' : ∀ i, t.follow (w.take i) delta ≠ .error .noDirection := fun i h =>
    hd (follow_of_take h)
  have hok : ∀ i, Word.Covered 0 (w.take i) → ∃ u, t.follow (w.take i) delta = .ok u := fun i hc =>
    follow_of_covered (hr' i) hc (Nat.zero_le _) (hd' i)
  refine ⟨fun i hi => ⟨?_, ?_⟩, fun hno i hi => ?_, ?_, ?_⟩
  · rintro ⟨⟨u, hu⟩, he⟩
    have hc := (covered_zero_of_follow ht (hr' i) hu).1
    refine ⟨hi, ?_, Word.covered_take_iff.mp hc⟩
    by_contra hover
    obtain ⟨u', hu'⟩ := hok (i + 1) (hc.take_succ (by rw [Word.Overdrawn] at hover; omega))
    cases hu'.symm.trans he
  · rintro ⟨-, hover, hno⟩
    refine ⟨hok i (Word.covered_take_iff.mpr hno), ?_⟩
    show t.follow (w.take (i + 1)) delta = _
    cases he : t.follow (w.take (i + 1)) delta with
    | ok u =>
      have hc := (covered_zero_of_follow ht (hr' _) he).1
      exact absurd hover (Word.covered_take_iff.mp hc (i + 1) (Nat.le_refl _))
    | error e =>
      cases e with
      | underflow => rfl
      | noDirection => exact absurd he (hd' _)
  · obtain ⟨u, hu⟩ := hok i (Word.covered_take_iff.mpr fun j _ => hno j)
    have hcount := (covered_zero_of_follow ht (hr' i) hu).2
    refine ⟨u, hu, ?_⟩
    rw [depth]
    omega
  · intro hw
    obtain ⟨hc, hcount⟩ := Word.isBalanced_iff.mp hw
    obtain ⟨u, hu⟩ := follow_of_covered hr hc (Nat.zero_le _) hd
    have hlength := (covered_zero_of_follow ht hr hu).2
    refine ⟨u, by rwa [List.take_length], ?_⟩
    rw [depth]
    omega
  · rintro ⟨u, hu, hdepth⟩
    rw [List.take_length] at hu
    obtain ⟨hc, hcount⟩ := covered_zero_of_follow ht hr hu
    rw [branches_of_depth hdepth, List.length_nil, Nat.zero_add] at hcount
    exact Word.isBalanced_iff.mpr ⟨hc, hcount⟩

end Turtle

namespace Playback

/-- A word without resets that has no infinite heading on its way, from a turtle with its base frame
only, whether it is followed or played: it underflows at the end of the shortest start in which the
pops outnumber the pushes and nowhere else, its depth counts the open brackets, and it is balanced
exactly when it succeeds and ends with the base frame only. -/
theorem replay_mirrors_brackets {t : Turtle} {w : Word} {delta : Float} (hr : .reset ∉ w)
    (ht : t.depth = 1) (hd : t.follow w delta ≠ .error .noDirection) :
    w.Mirrors (fun i => t.follow (w.take i) delta) ∧
    ∀ s : LSystem, s.word.toList = w → s.cursor = 0 → s.definition.delta = delta →
      w.Mirrors fun i => (Playback.run i ⟨t, s⟩).turtle := by
  have hfollow := Turtle.mirrors_follow hr ht hd
  refine ⟨hfollow, ?_⟩
  rintro s rfl hcursor rfl
  have hrest : s.rest = s.word.toList := LSystem.rest_of_start hcursor
  refine hfollow.congr fun i hi => ?_
  rw [← hrest]
  exact (run_eq_follow (p := ⟨t, s⟩) (hrest ▸ hi)).1

/-- In `[f]]f` the second pop is the first symbol that fails. -/
theorem surplus_pop_underflows :
    let w : Word := [.push, .skip, .pop, .pop, .skip]
    (.reset ∉ w ∧ Turtle.atOrigin.depth = 1 ∧
      Turtle.atOrigin.follow w 0.5 ≠ .error .noDirection) ∧
    (∃ u, Turtle.atOrigin.follow (w.take 3) 0.5 = .ok u) ∧
    Turtle.atOrigin.follow (w.take 4) 0.5 = .error .underflow ∧
    ∀ s : LSystem, s.word.toList = w → s.cursor = 0 → s.definition.delta = 0.5 →
      (Playback.run 4 ⟨Turtle.atOrigin, s⟩).turtle = .error .underflow := by
  intro w
  have hr : .reset ∉ w := by decide
  have hd : Turtle.atOrigin.follow w 0.5 ≠ .error .noDirection := by
    rw [show Turtle.atOrigin.follow w 0.5 = .error .underflow from rfl]
    simp
  have hfirst : w.FirstOverdraft 3 := by decide
  obtain ⟨hfollow, hplay⟩ := replay_mirrors_brackets hr rfl hd
  obtain ⟨hok, herror⟩ := (hfollow.underflow_iff 3 (by decide)).mpr hfirst
  refine ⟨⟨hr, rfl, hd⟩, hok, herror, fun s hs hcursor hdelta => ?_⟩
  exact (((hplay s hs hcursor hdelta).underflow_iff 3 (by decide)).mpr hfirst).2

end Playback

end TurtleGrammar
