import Mathlib.Data.List.Forall2
import TurtleGrammar.Proofs.Turtle.Follow

/-! Turtles that look alike from outside: at the same point, with the same heading and step, and
with the same frames on top. As long as the pops of a word are covered by these frames, the frames
under them are neither read nor changed, so such turtles do the same. -/

namespace TurtleGrammar

/-- Two frames at the same point with the same heading. -/
structure Frame.Alike (f g : Frame) : Prop where
  point : f.place.point = g.place.point
  heading : f.heading = g.heading

theorem Frame.Alike.refl (f : Frame) : f.Alike f := ⟨rfl, rfl⟩

namespace Turtle

/-- Two turtles of the same step that stand at the same point with the same heading, and the latest
`n` frames of which are alike. Under these the one has the frames `under` and the other the frames
`under'`. -/
structure Alike (n : Nat) (under under' : List Frame) (a b : Turtle) : Prop where
  step : a.step = b.step
  frame : a.frame.Alike b.frame
  branches : ∃ x y, a.branches = x ++ under ∧ b.branches = y ++ under' ∧
    List.Forall₂ Frame.Alike x y ∧ x.length = n

namespace Alike

variable {n : Nat} {under under' : List Frame} {t a b : Turtle} {s : Symbol} {w : Word}

theorem refl (hn : n ≤ t.branches.length) :
    Alike n (t.branches.drop n) (t.branches.drop n) t t where
  step := rfl
  frame := .refl _
  branches :=
    ⟨t.branches.take n, t.branches.take n, (List.take_append_drop ..).symm,
      (List.take_append_drop ..).symm, List.forall₂_same.mpr fun f _ => .refl f,
      List.length_take_of_le hn⟩

theorem push (h : Alike n under under' a b) : Alike (n + 1) under under' a.push b.push := by
  obtain ⟨x, y, hx, hy, hxy, hn⟩ := h.branches
  refine ⟨h.step, h.frame, a.frame :: x, b.frame :: y, ?_, ?_, .cons h.frame hxy, ?_⟩
  · rw [Turtle.push, hx, List.cons_append]
  · rw [Turtle.push, hy, List.cons_append]
  · rw [List.length_cons, hn]

theorem pop (h : Alike (n + 1) under under' a b) :
    ∃ a' b', a.pop = .ok a' ∧ b.pop = .ok b' ∧ Alike n under under' a' b' := by
  obtain ⟨x, y, hx, hy, hxy, hn⟩ := h.branches
  cases hxy with
  | nil => cases hn
  | @cons f g x y hfg hxy =>
    exact ⟨_, _, pop_of_cons hx, pop_of_cons hy, h.step, hfg, x, y, rfl, rfl, hxy,
      Nat.succ.inj hn⟩

theorem turn (h : Alike n under under' a b) (angle : Float) :
    Alike n under under' (a.turn angle) (b.turn angle) where
  step := h.step
  frame := ⟨h.frame.point, congrArg (· + angle) h.frame.heading⟩
  branches := h.branches

theorem move (h : Alike n under under' a b) :
    a.move = .error .noDirection ∧ b.move = .error .noDirection ∨
    ∃ a' b', a.move = .ok a' ∧ b.move = .ok b' ∧ Alike n under under' a' b' := by
  have hheading : a.heading = b.heading := h.frame.heading
  have hposition : a.position = b.position := h.frame.point
  by_cases hinf : a.heading.isInf = true
  · exact .inl ⟨move_of_infinite hinf, move_of_infinite (hheading ▸ hinf)⟩
  · have hahead : a.ahead = b.ahead := by simp only [ahead, hheading, hposition, h.step]
    exact .inr ⟨_, _, move_of_finite hinf, move_of_finite (hheading ▸ hinf), h.step,
      ⟨hahead, hheading⟩, h.branches⟩

theorem act (h : Alike n under under' a b) (hs : s ≠ .reset) (hc : Word.Covered n [s])
    (delta : Float) :
    a.act s delta = .error .noDirection ∧ b.act s delta = .error .noDirection ∨
    ∃ a' b' m, a.act s delta = .ok a' ∧ b.act s delta = .ok b' ∧
      m + List.count .pop [s] = n + List.count .push [s] ∧ Alike m under under' a' b' := by
  cases s with
  | reset => contradiction
  | forward _ | skip =>
    rcases h.move with hab | ⟨a', b', ha, hb, h'⟩
    · exact .inl hab
    · exact .inr ⟨a', b', n, ha, hb, by simp, h'⟩
  | turnLeft => exact .inr ⟨_, _, n, rfl, rfl, by simp, h.turn _⟩
  | turnRight => exact .inr ⟨_, _, n, rfl, rfl, by simp, h.turn _⟩
  | push => exact .inr ⟨_, _, n + 1, rfl, rfl, by simp, h.push⟩
  | pop =>
    cases n with
    | zero => exact absurd hc Word.not_covered_pop
    | succ n =>
      obtain ⟨a', b', ha, hb, h'⟩ := h.pop
      exact .inr ⟨a', b', n, ha, hb, by simp, h'⟩
  | node _ => exact .inr ⟨_, _, n, rfl, rfl, by simp, h⟩

theorem update (h : Alike n under under' a b) (hs : s ≠ .reset) (hc : Word.Covered n [s])
    (delta : Float) :
    a.update s delta = .error .noDirection ∧ b.update s delta = .error .noDirection ∨
    ∃ a' b' m, a.update s delta = .ok a' ∧ b.update s delta = .ok b' ∧
      m + List.count .pop [s] = n + List.count .push [s] ∧ Alike m under under' a' b' := by
  rcases h.act hs hc delta with ⟨ha, hb⟩ | ⟨a', b', m, ha, hb, hm, h'⟩
  · exact .inl ⟨update_of_act_error ha, update_of_act_error hb⟩
  · exact .inr ⟨_, _, m, update_of_act hs ha, update_of_act hs hb, hm,
      h'.step, h'.frame, h'.branches⟩

theorem line (h : Alike n under under' a b) {m : Nat} {a' b' : Turtle}
    (h' : Alike m under under' a' b') (s : Symbol) :
    (line s a.place a'.place).map Segment.points =
      (Turtle.line s b.place b'.place).map Segment.points := by
  have hstart : a.place.point = b.place.point := h.frame.point
  have hstop : a'.place.point = b'.place.point := h'.frame.point
  rw [Turtle.line, Turtle.line]
  split
  · simp [Segment.points, hstart, hstop]
  · rfl

theorem follow (h : Alike n under under' a b) (hr : .reset ∉ w) (hc : w.Covered n)
    (delta : Float) :
    a.follow w delta = .error .noDirection ∧ b.follow w delta = .error .noDirection ∨
    ∃ a' b' m, a.follow w delta = .ok a' ∧ b.follow w delta = .ok b' ∧
      m + List.count .pop w = n + List.count .push w ∧ Alike m under under' a' b' ∧
      (a.drawn w delta).map Segment.points = (b.drawn w delta).map Segment.points := by
  induction w generalizing a b n with
  | nil => exact .inr ⟨a, b, n, rfl, rfl, rfl, h, rfl⟩
  | cons s w ih =>
    rw [List.mem_cons, not_or] at hr
    rcases h.update (Ne.symm hr.1) hc.singleton delta with ⟨ha, hb⟩ | ⟨a1, b1, m1, ha, hb, hm1, h1⟩
    · exact .inl ⟨follow_cons_of_error ha, follow_cons_of_error hb⟩
    rw [follow_cons_of_ok ha, follow_cons_of_ok hb, drawn_cons_of_ok ha, drawn_cons_of_ok hb]
    rcases ih h1 hr.2 ((Word.covered_cons hm1).mp hc) with hab | ⟨a', b', m, ha', hb', hm, h', hd⟩
    · exact .inl hab
    · refine .inr ⟨a', b', m, ha', hb', ?_, h', ?_⟩
      · rw [← List.singleton_append, List.count_append, List.count_append]
        omega
      · rw [List.map_append, List.map_append, h.line h1, hd]

end Alike

variable {n : Nat} {t u : Turtle} {w : Word} {delta : Float}

/-- A word covered by the frames of a turtle fails for want of a direction only. -/
theorem follow_of_covered (hr : .reset ∉ w) (hc : w.Covered n) (hn : n ≤ t.branches.length)
    (hd : t.follow w delta ≠ .error .noDirection) : ∃ u, t.follow w delta = .ok u := by
  rcases (Alike.refl hn).follow hr hc delta with ⟨h, -⟩ | ⟨u, -, -, h, -⟩
  · exact absurd h hd
  · exact ⟨u, h⟩

/-- A balanced word leaves all frames as they are. -/
theorem branches_of_balanced (hr : .reset ∉ w) (hw : w.isBalanced = true)
    (h : t.follow w delta = .ok u) : u.branches = t.branches := by
  obtain ⟨hc, hcount⟩ := Word.isBalanced_iff.mp hw
  have hself : Alike 0 t.branches t.branches t t := Alike.refl (Nat.zero_le _)
  rcases hself.follow hr hc delta with ⟨he, -⟩ | ⟨u', _, m, hu, -, hm, hu', -⟩
  · cases he.symm.trans h
  · cases hu.symm.trans h
    obtain ⟨x, -, hx, -, -, hlength⟩ := hu'.branches
    have hnil : x = [] := List.eq_nil_of_length_eq_zero (by omega)
    rw [hx, hnil, List.nil_append]

end Turtle

end TurtleGrammar
