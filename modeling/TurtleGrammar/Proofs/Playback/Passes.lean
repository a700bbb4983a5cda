import TurtleGrammar.Proofs.Grammar.Rewriting
import TurtleGrammar.Proofs.Stage.Calls
import TurtleGrammar.Proofs.Stage.Sharing
import TurtleGrammar.Proofs.Turtle.Bare

/-! Passes. Each pass over a word ends in a reset, from which the playback goes on as a new one that
starts where the turtle then is, whatever the passes before left behind. -/

namespace TurtleGrammar

open LSystem (advance)

namespace LSystem

variable {s : LSystem} {n : Nat}

/-- After its round a system is what it was when it was built. -/
theorem advance_iterate_of_end (hstart : s.cursor = 0)
    (hend : (advance^[n] s).cursor = s.word.size) : (advance^[n] s).advance = s := by
  have hword := word_iterate (s := s) (n := n)
  have hdefinition := definition_iterate (s := s) (n := n)
  generalize advance^[n] s = s' at *
  obtain ⟨definition, word, cursor, hcursor⟩ := s
  cases hword
  cases hdefinition
  cases hstart
  rw [advance, dif_neg (Nat.not_lt.mpr (Nat.le_of_eq hend.symm))]

end LSystem

namespace Playback

variable {p : Playback} {s : LSystem} {e : TurtleError} {i m n : Nat}

theorem attempt_of_error (h : p.tick = .error e) : p.attempt = p := by
  rw [attempt, h]

/-- A tick that fails leaves the playback as it is for ever. -/
theorem iterate_of_error (h : (attempt^[m] p).tick = .error e) (hm : m ≤ i) :
    attempt^[i] p = attempt^[m] p := by
  rw [← Nat.sub_add_cancel hm, Function.iterate_add_apply]
  exact Function.iterate_fixed (attempt_of_error h) _

theorem step_attempt (p : Playback) : p.attempt.turtle.step = p.turtle.step := by
  cases h : p.tick with
  | error e => rw [attempt_of_error h]
  | ok r =>
    rw [attempt, h]
    exact Turtle.step_update (tick_eq_ok h).1

theorem step_iterate (p : Playback) (n : Nat) : (attempt^[n] p).turtle.step = p.turtle.step := by
  induction n with
  | zero => rfl
  | succ n ih => rw [Function.iterate_succ_apply', step_attempt, ih]

/-- As long as no tick fails, each takes a symbol. -/
theorem system_iterate (h : ∀ m < n, ∃ r, (attempt^[m] p).tick = .ok r) :
    (attempt^[n] p).system = advance^[n] p.system := by
  induction n with
  | zero => rfl
  | succ n ih =>
    obtain ⟨r, hr⟩ := h n (Nat.lt_succ_self n)
    rw [Function.iterate_succ_apply', Function.iterate_succ_apply', attempt, hr,
      ← ih fun m hm => h m (Nat.lt_succ_of_lt hm)]
    exact (tick_eq_ok hr).2.1

/-- A reset does not fail. -/
theorem tick_of_reset (h : p.system.peek = .reset) :
    p.tick = .ok (none, ⟨p.turtle.reset, p.system.advance⟩) := by
  rw [tick_of_update (u := p.turtle.reset) (by rw [h]; rfl), h]
  rfl

/-- The reset is next at the end of each pass, and nowhere else, as long as no tick fails. -/
theorem reset_next_iff (hplain : .reset ∉ p.system.word.toList) (hstart : p.system.cursor = 0)
    (i : Nat) :
    (attempt^[i] p).system.peek = .reset ↔
      (∀ m < i, ∃ r, (attempt^[m] p).tick = .ok r) ∧
        i % (p.system.word.size + 1) = p.system.word.size := by
  by_cases hall : ∀ m < i, ∃ r, (attempt^[m] p).tick = .ok r
  · have hword : (advance^[i] p.system).word = p.system.word := LSystem.word_iterate
    rw [system_iterate hall, LSystem.peek_eq_reset_iff (hword ▸ hplain), LSystem.cursor_iterate,
      LSystem.length_round, hstart, Nat.zero_add, hword]
    exact (and_iff_right hall).symm
  · refine iff_of_false (fun hpeek => hall fun m hm => ?_) fun h => hall h.1
    cases hr : (attempt^[m] p).tick with
    | ok r => exact ⟨r, rfl⟩
    | error e =>
      -- the tick that fails is still next, and it would be the reset
      rw [iterate_of_error hr (Nat.le_of_lt hm)] at hpeek
      cases (tick_of_reset hpeek).symm.trans hr

/-- After a reset a playback shows itself as a new one where the turtle then is. -/
theorem bare_after_reset (hplain : .reset ∉ p.system.word.toList) (hstart : p.system.cursor = 0)
    (hreset : (attempt^[i] p).system.peek = .reset) :
    (attempt^[i] p).attempt.bare =
      bare ⟨Turtle.start p.turtle.step (attempt^[i] p).turtle.position
        (attempt^[i] p).turtle.heading, p.system⟩ := by
  obtain ⟨hall, hi⟩ := (reset_next_iff hplain hstart i).mp hreset
  have hend : (advance^[i] p.system).cursor = p.system.word.size := by
    rw [LSystem.cursor_iterate, LSystem.length_round, hstart, Nat.zero_add, hi]
  rw [attempt, tick_of_reset hreset, bare, bare, Turtle.bare_reset, Turtle.bare_start, step_iterate,
    system_iterate hall, LSystem.advance_iterate_of_end hstart hend]

/-- A reset leaves a turtle as it would be if it were taken to where it is. So if a new turtle alone
plays a system constructed from texts, in however many ticks, then the reset is next exactly at the
end of a pass that no tick has failed to reach, and after it each further tick gives what it gives
to a new turtle of the same step there, on a new copy of the system, and leaves the same place,
heading, frames and record. -/
theorem passes_start_afresh :
    (∀ (t : Turtle) (delta : Float), t.update .reset delta = .ok t.reset ∧
      t.reset.bare = (t.restart t.position t.heading).bare) ∧
    ∀ (name initial rules : Text) (n : Int) (delta : Float) (s : LSystem),
      (LSystem.construct name initial rules n delta).result = .ok s →
      ∀ (step : StepLength) (origin : Point) (heading : Float) (i : Nat),
        let first : Playback := ⟨Turtle.start step origin heading, s⟩
        let p := attempt^[i] first
        let fresh : Playback := ⟨Turtle.start step p.turtle.position p.turtle.heading, s⟩
        (p.system.peek = .reset ↔
          (∀ m < i, ∃ r, (attempt^[m] first).tick = .ok r) ∧
            i % (s.word.size + 1) = s.word.size) ∧
        (p.system.peek = .reset → ∀ k,
          (attempt^[k] p.attempt).answer = (attempt^[k] fresh).answer ∧
          (attempt^[k] p.attempt).bare = (attempt^[k] fresh).bare) := by
  refine ⟨fun t delta => ⟨rfl, by rw [Turtle.bare_reset, Turtle.bare_restart]⟩, ?_⟩
  intro name initial rules n delta s hs step origin heading i first p fresh
  have hplain := LSystem.reset_not_mem_construct hs
  have hstart := LSystem.cursor_of_construct hs
  refine ⟨reset_next_iff (p := first) hplain hstart i, fun hreset k => ?_⟩
  have hbare := iterate_congr (bare_after_reset (p := first) hplain hstart hreset) k
  exact ⟨(tick_congr hbare).1, hbare⟩

/-- The system of `H[+H`, which has no rules and leaves a bracket open. -/
def hook : LSystem :=
  let line : Symbol := .forward (.ofAlpha 'H' (by decide))
  let w : Word := [line, .push, .turnLeft, line]
  { definition := { name := [], initial := w, rules := Rules.empty, generations := 0, delta := 0.5 }
    word := w.toArray
    cursor := 0
    cursor_le := by decide }

/-- At the end of its second pass the turtle has a frame that no pop took away, and after the reset
it goes on as a new one does. -/
theorem hook_starts_afresh :
    (LSystem.construct [] (Text.ofString "H[+H") [] 0 0.5).result = .ok hook ∧
    ∃ p, p = attempt^[9] ⟨Turtle.start Turtle.atOrigin.step ⟨0.0, 0.0⟩ 0.0, hook⟩ ∧
      p.system.peek = .reset ∧ p.turtle.depth = 2 ∧ p.attempt.turtle.depth = 1 ∧
      ∀ k, (attempt^[k] p.attempt).bare = (attempt^[k]
        ⟨Turtle.start Turtle.atOrigin.step p.turtle.position p.turtle.heading, hook⟩).bare := by
  have hs : (LSystem.construct [] (Text.ofString "H[+H") [] 0 0.5).result = .ok hook := rfl
  have hafter := passes_start_afresh.2 _ _ _ _ _ hook hs Turtle.atOrigin.step ⟨0.0, 0.0⟩ 0.0 9
  dsimp only at hafter
  generalize hp : attempt^[9] ⟨Turtle.start Turtle.atOrigin.step ⟨0.0, 0.0⟩ 0.0, hook⟩ = p
    at hafter ⊢
  have hpeek : p.system.peek = .reset := by
    subst hp
    decide +kernel
  refine ⟨hs, p, rfl, hpeek, ?_, ?_, fun k => (hafter.2 hpeek k).2⟩
  · subst hp
    decide +kernel
  · subst hp
    decide +kernel

end Playback

end TurtleGrammar
