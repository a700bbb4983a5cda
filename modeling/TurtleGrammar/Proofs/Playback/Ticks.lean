import TurtleGrammar.Playback
import TurtleGrammar.Proofs.Turtle.Follow

/-! The ticks of a playback. Up to the end of the word they do what following the rest of the word
does: the same turtle, the same lines, and the same error at the same symbol. -/

namespace TurtleGrammar

namespace LSystem

/-- The symbols left before the reset. -/
def rest (s : LSystem) : Word := s.word.toList.drop s.cursor

variable {s : LSystem} {a : Symbol} {w : Word}

theorem rest_of_start (h : s.cursor = 0) : s.rest = s.word.toList := by
  rw [rest, h, List.drop_zero]

theorem rest_eq_nil_iff : s.rest = [] ↔ s.cursor = s.word.size := by
  rw [rest, List.drop_eq_nil_iff, Array.length_toList]
  exact ⟨fun h => Nat.le_antisymm s.cursor_le h, fun h => Nat.le_of_eq h.symm⟩

theorem peek_eq : s.peek = s.rest.head?.getD .reset := by
  rw [peek, rest, List.head?_drop, Array.getElem?_toList]

theorem peek_of_nil (h : s.rest = []) : s.peek = .reset := by
  rw [peek_eq, h, List.head?_nil, Option.getD_none]

theorem peek_of_cons (h : s.rest = a :: w) : s.peek = a := by
  rw [peek_eq, h, List.head?_cons, Option.getD_some]

/-- If the word has no reset of its own, the reset is next at its end only. -/
theorem peek_eq_reset_iff (hplain : .reset ∉ s.word.toList) :
    s.peek = .reset ↔ s.cursor = s.word.size := by
  rw [← rest_eq_nil_iff]
  refine ⟨fun h => ?_, peek_of_nil⟩
  cases hr : s.rest with
  | nil => rfl
  | cons a w =>
    rw [peek_of_cons hr] at h
    have hmem : a ∈ s.word.toList := List.mem_of_mem_drop (show a ∈ s.rest by simp [hr])
    exact absurd (h ▸ hmem) hplain

theorem advance_word : s.advance.word = s.word := by
  rw [advance]
  split <;> rfl

theorem advance_definition : s.advance.definition = s.definition := by
  rw [advance]
  split <;> rfl

theorem cursor_advance_of_nil (h : s.rest = []) : s.advance.cursor = 0 := by
  rw [rest_eq_nil_iff] at h
  rw [advance, dif_neg (by omega)]

theorem cursor_advance_of_cons (h : s.rest = a :: w) : s.advance.cursor = s.cursor + 1 := by
  have hne : s.cursor ≠ s.word.size := fun he => by simp [rest_eq_nil_iff.mpr he] at h
  rw [advance, dif_pos (Nat.lt_of_le_of_ne s.cursor_le hne)]

theorem rest_advance_of_nil (h : s.rest = []) : s.advance.rest = s.word.toList := by
  rw [rest_of_start (cursor_advance_of_nil h), advance_word]

theorem rest_advance_of_cons (h : s.rest = a :: w) : s.advance.rest = w := by
  rw [rest, cursor_advance_of_cons h, advance_word, ← List.tail_drop, ← rest, h, List.tail_cons]

end LSystem

namespace Playback

/-- The turtle at the end of a run, or the error that ended it. -/
def Run.turtle (r : Run) : Except TurtleError Turtle :=
  match r.failure with
  | none => .ok r.final.turtle
  | some e => .error e

variable {p q : Playback} {u : Turtle} {e : TurtleError} {d : Option Segment} {n : Nat}

theorem tick_of_error (h : p.turtle.update p.system.peek p.system.definition.delta = .error e) :
    p.tick = .error e := by
  simp only [tick, h, bind, Except.bind]

theorem tick_of_ok (h : p.turtle.update p.system.peek p.system.definition.delta = .ok u) :
    ∃ d, p.tick = .ok (d, ⟨u, p.system.advance⟩) ∧
      d.toList = Turtle.line p.system.peek p.turtle.place u.place := by
  refine ⟨_, by simp only [tick, h, bind, Except.bind]; rfl, ?_⟩
  rw [Turtle.line]
  split <;> rfl

theorem tick_eq_error_iff :
    p.tick = .error e ↔
      p.turtle.update p.system.peek p.system.definition.delta = .error e := by
  refine ⟨fun h => ?_, tick_of_error⟩
  cases hu : p.turtle.update p.system.peek p.system.definition.delta with
  | error e' =>
    cases (tick_of_error hu).symm.trans h
    rfl
  | ok u =>
    obtain ⟨d, ht, -⟩ := tick_of_ok hu
    cases ht.symm.trans h

theorem tick_eq_ok (h : p.tick = .ok (d, q)) :
    p.turtle.update p.system.peek p.system.definition.delta = .ok q.turtle ∧
      q.system = p.system.advance ∧
      d.toList = Turtle.line p.system.peek p.turtle.place q.turtle.place := by
  cases hu : p.turtle.update p.system.peek p.system.definition.delta with
  | error e => cases (tick_of_error hu).symm.trans h
  | ok u =>
    obtain ⟨d', ht, hd⟩ := tick_of_ok hu
    cases ht.symm.trans h
    exact ⟨rfl, rfl, hd⟩

theorem extend_eq {r : Run} (h : r.failure = none) :
    r.extend n =
      { segments := r.segments ++ (r.final.run n).segments
        events := r.events ++ (r.final.run n).events
        failure := (r.final.run n).failure
        final := (r.final.run n).final } := by
  induction n generalizing r with
  | zero => simp [Run.extend, run, Run.start, ← h]
  | succ n ih =>
    rw [run, Run.extend, Run.extend]
    cases ht : r.final.tick with
    | error e => simp [Run.start, ht]
    | ok dq =>
      obtain ⟨d, q⟩ := dq
      simp only [Run.start, ht]
      rw [ih (r := ⟨_, _, r.failure, q⟩) h, ih (r := ⟨_, _, none, q⟩) rfl]
      simp

theorem run_succ_of_error (h : p.tick = .error e) :
    p.run (n + 1) = { Run.start p with failure := some e } := by
  rw [run, Run.extend]
  simp only [Run.start, h]

theorem run_succ_of_ok (h : p.tick = .ok (d, q)) :
    p.run (n + 1) =
      { q.run n with
        segments := d.toArray ++ (q.run n).segments
        events := p.events.toArray ++ (q.run n).events } := by
  rw [run, Run.extend]
  simp only [Run.start, h]
  rw [extend_eq rfl]
  simp

/-- Some ticks all succeed, or some of them do and the next one fails. -/
theorem run_cases (p : Playback) (n : Nat) :
    (p.run n).failure = none ∨
    ∃ k < n, ∃ e, (p.run k).failure = none ∧ (p.run k).final.tick = .error e ∧
      p.run n = { p.run k with failure := some e } := by
  induction n generalizing p with
  | zero => exact .inl rfl
  | succ n ih =>
    cases ht : p.tick with
    | error e => exact .inr ⟨0, n.succ_pos, e, rfl, ht, run_succ_of_error ht⟩
    | ok r =>
      obtain ⟨d, q⟩ := r
      rcases ih q with hnone | ⟨k, hk, e, hnone, hfail, hrun⟩
      · exact .inl (by rw [run_succ_of_ok ht, hnone])
      · refine .inr ⟨k + 1, Nat.succ_lt_succ hk, e, ?_, ?_, ?_⟩
        · rw [run_succ_of_ok ht, hnone]
        · rw [run_succ_of_ok ht, hfail]
        · rw [run_succ_of_ok ht, run_succ_of_ok ht, hrun]

/-- Ticks up to the end of the word follow the word. -/
theorem run_eq_follow (hn : n ≤ p.system.rest.length) :
    (p.run n).turtle = p.turtle.follow (p.system.rest.take n) p.system.definition.delta ∧
    (p.run n).segments.toList =
      p.turtle.drawn (p.system.rest.take n) p.system.definition.delta := by
  induction n generalizing p with
  | zero => exact ⟨rfl, rfl⟩
  | succ n ih =>
    cases hr : p.system.rest with
    | nil => simp [hr] at hn
    | cons s w =>
      have hpeek := LSystem.peek_of_cons hr
      rw [List.take_succ_cons]
      cases hu : p.turtle.update s p.system.definition.delta with
      | error e =>
        rw [run_succ_of_error (tick_of_error (hpeek ▸ hu)), Turtle.follow_cons_of_error hu,
          Turtle.drawn, hu]
        exact ⟨rfl, rfl⟩
      | ok u =>
        obtain ⟨d, ht, hd⟩ := tick_of_ok (hpeek ▸ hu)
        obtain ⟨hturtle, hsegments⟩ := ih (p := ⟨u, p.system.advance⟩)
          (by simp only [LSystem.rest_advance_of_cons hr, hr, List.length_cons] at hn ⊢; omega)
        simp only [LSystem.rest_advance_of_cons hr, LSystem.advance_definition] at hturtle hsegments
        rw [run_succ_of_ok ht, Turtle.follow_cons_of_ok hu, Turtle.drawn_cons_of_ok hu, ← hpeek,
          ← hd, ← hturtle, ← hsegments]
        exact ⟨rfl, by simp⟩

/-- A replay from the start of the word follows the word. -/
theorem replay_eq_follow (h : p.system.cursor = 0) :
    p.replay.turtle = p.turtle.follow p.system.word.toList p.system.definition.delta ∧
    p.replay.segments.toList =
      p.turtle.drawn p.system.word.toList p.system.definition.delta := by
  have hrest := LSystem.rest_of_start h
  have hlength : p.system.rest.length = p.system.remaining := by
    rw [hrest, Array.length_toList, LSystem.remaining, h, Nat.sub_zero]
  have hfollow := run_eq_follow (Nat.le_of_eq hlength.symm)
  rwa [← hlength, List.take_length, hlength, hrest] at hfollow

end Playback

end TurtleGrammar
