import TurtleGrammar.Proofs.Word.Brackets
import TurtleGrammar.Proofs.Word.Kinds
import TurtleGrammar.Turtle

/-! A turtle that follows a word, one symbol after another, and the lines it draws on the way. A
symbol other than the reset changes the number of frames by itself alone, so the pops of a word that
a turtle has followed to its end were covered by the frames it had. -/

namespace TurtleGrammar

/-- Where a segment starts and where it ends. -/
def Segment.points (s : Segment) : Point × Point := (s.start.point, s.stop.point)

namespace Turtle

/-- The turtle after all symbols of a word, unless one of them cannot be applied. -/
def follow (t : Turtle) : Word → Float → Except TurtleError Turtle
  | [], _ => .ok t
  | s :: w, delta =>
    match t.update s delta with
    | .error e => .error e
    | .ok u => u.follow w delta

/-- The line from one place to another, if the symbol that led from the one to the other draws. -/
def line (s : Symbol) (before after : Place) : List Segment :=
  if s.draws then [⟨before, after⟩] else []

/-- The lines that the symbols of a word draw, up to the first that cannot be applied. -/
def drawn (t : Turtle) : Word → Float → List Segment
  | [], _ => []
  | s :: w, delta =>
    match t.update s delta with
    | .error _ => []
    | .ok u => line s t.place u.place ++ u.drawn w delta

/-- A new turtle at the origin, which looks along the first axis and takes steps of one. -/
def atOrigin : Turtle := Turtle.start ⟨1.0, by decide⟩ ⟨0.0, 0.0⟩ 0.0

variable {t u : Turtle} {s : Symbol} {v w : Word} {delta : Float} {e : TurtleError}

/-! ### One symbol -/

/-- The point one step along the heading. -/
def ahead (t : Turtle) : Point :=
  { x := t.position.x + t.step.value * t.heading.cos
    y := t.position.y + t.step.value * t.heading.sin }

theorem move_of_infinite (h : t.heading.isInf = true) : t.move = .error .noDirection := by
  rw [move, if_pos h]

theorem move_of_finite (h : ¬t.heading.isInf = true) :
    t.move =
      .ok { t with place := ⟨t.ahead, some t.travelled⟩, travelled := t.travelled + 1 } := by
  rw [move, if_neg h]
  rfl

theorem pop_of_nil (h : t.branches = []) : t.pop = .error .underflow := by
  rw [pop, h]

theorem pop_of_cons {f : Frame} {rest : List Frame} (h : t.branches = f :: rest) :
    t.pop = .ok { t with place := f.place, heading := f.heading, branches := rest } := by
  rw [pop, h]

/-- What a symbol other than the reset leaves as it is, and how it changes the number of frames. -/
theorem act_keeps (hs : s ≠ .reset) (h : t.act s delta = .ok u) :
    u.base = t.base ∧ u.step = t.step ∧ u.trail = t.trail ∧
      u.branches.length + List.count .pop [s] = t.branches.length + List.count .push [s] := by
  cases s with
  | reset => contradiction
  | forward _ | skip =>
    by_cases hinf : t.heading.isInf = true
    · cases (move_of_infinite hinf).symm.trans h
    · cases (move_of_finite hinf).symm.trans h
      exact ⟨rfl, rfl, rfl, by simp⟩
  | pop =>
    cases hb : t.branches with
    | nil => cases (pop_of_nil hb).symm.trans h
    | cons f rest =>
      cases (pop_of_cons hb).symm.trans h
      exact ⟨rfl, rfl, rfl, by simp⟩
  | _ =>
    cases h
    exact ⟨rfl, rfl, rfl, by simp [push, turn]⟩

theorem update_of_act (hs : s ≠ .reset) (h : t.act s delta = .ok u) :
    t.update s delta = .ok { u with trail := (s, u.place) :: u.trail } := by
  simp only [update, h, bind, Except.bind, if_neg hs]
  rfl

theorem update_of_act_error (h : t.act s delta = .error e) : t.update s delta = .error e := by
  simp only [update, h, bind, Except.bind]

/-- A symbol other than the reset enters the record with the place it leaves, the base frame and the
step stay, and how many frames are left depends on the symbol alone. -/
theorem update_keeps (hs : s ≠ .reset) (h : t.update s delta = .ok u) :
    u.base = t.base ∧ u.step = t.step ∧ u.trail = (s, u.place) :: t.trail ∧
      u.branches.length + List.count .pop [s] = t.branches.length + List.count .push [s] := by
  cases ha : t.act s delta with
  | error e => cases (update_of_act_error ha).symm.trans h
  | ok t' =>
    cases (update_of_act hs ha).symm.trans h
    obtain ⟨hbase, hstep, htrail, hlength⟩ := act_keeps hs ha
    exact ⟨hbase, hstep, by rw [htrail], hlength⟩

/-- The record tells which symbol was applied. -/
theorem eq_of_update {s' : Symbol} {delta' : Float} (h : t.update s delta = .ok u)
    (h' : t.update s' delta' = .ok u) : s = s' := by
  by_cases hs : s = .reset
  · subst hs
    cases h
    by_contra hs'
    obtain ⟨-, -, htrail, -⟩ := update_keeps (Ne.symm hs') h'
    cases htrail
  · obtain ⟨-, -, htrail, -⟩ := update_keeps hs h
    by_cases hs' : s' = .reset
    · subst hs'
      cases h'
      cases htrail
    · obtain ⟨-, -, htrail', -⟩ := update_keeps hs' h'
      cases htrail.symm.trans htrail'
      rfl

theorem pop_eq_error_iff : t.pop = .error e ↔ e = .underflow ∧ t.branches = [] := by
  cases hb : t.branches with
  | nil => simp [pop_of_nil hb, eq_comm]
  | cons f rest => simp [pop_of_cons hb]

theorem move_eq_error_iff : t.move = .error e ↔ e = .noDirection ∧ t.heading.isInf = true := by
  by_cases h : t.heading.isInf = true
  · simp [move_of_infinite h, h, eq_comm]
  · simp [move_of_finite h, h]

theorem update_eq_error_iff_act : t.update s delta = .error e ↔ t.act s delta = .error e := by
  refine ⟨fun h => ?_, update_of_act_error⟩
  cases ha : t.act s delta with
  | error e' =>
    cases (update_of_act_error ha).symm.trans h
    rfl
  | ok u =>
    simp only [update, ha, bind, Except.bind] at h
    split at h <;> cases h

theorem update_eq_error_iff :
    t.update s delta = .error e ↔
      e = .underflow ∧ s = .pop ∧ t.branches = [] ∨
      e = .noDirection ∧ s.moves = true ∧ t.heading.isInf = true := by
  rw [update_eq_error_iff_act]
  cases s with
  | forward _ | skip => simpa [act, Symbol.moves, Symbol.kind] using move_eq_error_iff
  | pop => simpa [act, Symbol.moves, Symbol.kind] using pop_eq_error_iff
  | _ => simp [act, Symbol.moves, Symbol.kind]

/-! ### A word -/

theorem follow_cons_of_ok (h : t.update s delta = .ok u) :
    t.follow (s :: w) delta = u.follow w delta := by
  rw [follow, h]

theorem follow_cons_of_error (h : t.update s delta = .error e) :
    t.follow (s :: w) delta = .error e := by
  rw [follow, h]

theorem follow_singleton : t.follow [s] delta = t.update s delta := by
  rw [follow]
  cases t.update s delta <;> rfl

theorem drawn_cons_of_ok (h : t.update s delta = .ok u) :
    t.drawn (s :: w) delta = line s t.place u.place ++ u.drawn w delta := by
  rw [drawn, h]

theorem follow_append_of_ok (h : t.follow v delta = .ok u) :
    t.follow (v ++ w) delta = u.follow w delta := by
  induction v generalizing t with
  | nil =>
    cases h
    rfl
  | cons s v ih =>
    cases hs : t.update s delta with
    | error e => simp [follow, hs] at h
    | ok t' =>
      rw [follow_cons_of_ok hs] at h
      rw [List.cons_append, follow_cons_of_ok hs, ih h]

theorem follow_append_of_error (h : t.follow v delta = .error e) :
    t.follow (v ++ w) delta = .error e := by
  induction v generalizing t with
  | nil => cases h
  | cons s v ih =>
    cases hs : t.update s delta with
    | error e' =>
      rw [follow_cons_of_error hs] at h
      rw [List.cons_append, follow_cons_of_error hs, h]
    | ok t' =>
      rw [follow_cons_of_ok hs] at h
      rw [List.cons_append, follow_cons_of_ok hs, ih h]

theorem drawn_append (h : t.follow v delta = .ok u) :
    t.drawn (v ++ w) delta = t.drawn v delta ++ u.drawn w delta := by
  induction v generalizing t with
  | nil =>
    cases h
    rfl
  | cons s v ih =>
    cases hs : t.update s delta with
    | error e => simp [follow, hs] at h
    | ok t' =>
      rw [follow_cons_of_ok hs] at h
      rw [List.cons_append, drawn_cons_of_ok hs, drawn_cons_of_ok hs, ih h, List.append_assoc]

/-- On a way that succeeds each forward symbol draws one line. -/
theorem length_drawn (h : t.follow w delta = .ok u) :
    (t.drawn w delta).length = w.count .forward := by
  induction w generalizing t with
  | nil => rfl
  | cons s w ih =>
    cases hs : t.update s delta with
    | error e => cases (follow_cons_of_error hs).symm.trans h
    | ok t' =>
      rw [follow_cons_of_ok hs] at h
      have hline : (line s t.place t'.place).length = if s.kind = .forward then 1 else 0 := by
        by_cases hdraws : s.kind = .forward <;> simp [line, Symbol.draws, hdraws]
      rw [drawn_cons_of_ok hs, List.length_append, ih h, hline, Word.count_cons, Nat.add_comm]

/-- An error on the way is the error of the whole way. -/
theorem follow_of_take {i : Nat} (h : t.follow (w.take i) delta = .error e) :
    t.follow w delta = .error e := by
  rw [← List.take_append_drop i w]
  exact follow_append_of_error h

/-- The word of a way that succeeds is covered by the frames at its start, and the frames at its end
are those that its pushes added and its pops left. -/
theorem covered_of_follow (hr : .reset ∉ w) (h : t.follow w delta = .ok u) :
    w.Covered t.branches.length ∧
      u.branches.length + List.count .pop w = t.branches.length + List.count .push w := by
  induction w generalizing t with
  | nil =>
    cases h
    exact ⟨Word.covered_nil, rfl⟩
  | cons s w ih =>
    rw [List.mem_cons, not_or] at hr
    cases hs : t.update s delta with
    | error e => cases (follow_cons_of_error hs).symm.trans h
    | ok t' =>
      rw [follow_cons_of_ok hs] at h
      obtain ⟨-, -, -, hlength⟩ := update_keeps (Ne.symm hr.1) hs
      obtain ⟨hc, hcount⟩ := ih hr.2 h
      refine ⟨(Word.covered_cons hlength).mpr hc, ?_⟩
      rw [← List.singleton_append, List.count_append, List.count_append]
      omega

/-- The symbols of a way without resets enter the record in order. -/
theorem follow_keeps (hr : .reset ∉ w) (h : t.follow w delta = .ok u) :
    u.base = t.base ∧ u.step = t.step ∧
      ∃ entries, u.recorded = t.recorded ++ entries ∧ entries.map Prod.fst = w := by
  induction w generalizing t with
  | nil =>
    cases h
    exact ⟨rfl, rfl, [], by simp, rfl⟩
  | cons s w ih =>
    rw [List.mem_cons, not_or] at hr
    cases hs : t.update s delta with
    | error e => cases (follow_cons_of_error hs).symm.trans h
    | ok t' =>
      rw [follow_cons_of_ok hs] at h
      obtain ⟨hbase, hstep, htrail, -⟩ := update_keeps (Ne.symm hr.1) hs
      obtain ⟨hbase', hstep', entries, hrecorded, hfst⟩ := ih hr.2 h
      refine ⟨hbase'.trans hbase, hstep'.trans hstep, (s, t'.place) :: entries, ?_,
        by rw [List.map_cons, hfst]⟩
      rw [hrecorded, recorded, htrail, List.reverse_cons, List.append_assoc,
        List.singleton_append, recorded]

end Turtle

end TurtleGrammar
