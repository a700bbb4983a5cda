import TurtleGrammar.Proofs.Turtle.Alike

/-! Branches. A balanced word in brackets takes the turtle back to where it was, with everything but
the record as before, so a word with a branch in it draws what the word and the branch draw. -/

namespace TurtleGrammar

/-- A word in brackets. -/
def Word.branch (w : Word) : Word := .push :: (w ++ [.pop])

theorem Word.reset_not_mem_branch {w : Word} (hr : .reset ∉ w) : .reset ∉ w.branch := by
  simp [branch, hr]

namespace Turtle

variable {t u : Turtle} {v w : Word} {delta : Float}

/-- The turtle after a push that is recorded. -/
def pushed (t : Turtle) : Turtle := { t.push with trail := (.push, t.place) :: t.trail }

theorem update_push : t.update .push delta = .ok t.pushed := rfl

/-- Under the frame of the branch lie all frames of the turtle. -/
theorem alike_pushed : Alike 0 t.branches (t.frame :: t.branches) t t.pushed where
  step := rfl
  frame := .refl _
  branches := ⟨[], [], rfl, rfl, .nil, rfl⟩

/-- A branch whose inside succeeds leaves the turtle where it was, and draws what its inside
draws. -/
theorem follow_branch (hr : .reset ∉ w) (hw : w.isBalanced = true)
    (h : t.pushed.follow w delta = .ok u) :
    ∃ t', t.follow w.branch delta = .ok t' ∧ t'.place = t.place ∧ t'.heading = t.heading ∧
      t'.branches = t.branches ∧ t.drawn w.branch delta = t.pushed.drawn w delta := by
  have hbranches : u.branches = t.frame :: t.branches := branches_of_balanced hr hw h
  have hpop : u.update .pop delta = _ := update_of_act (by decide) (pop_of_cons hbranches)
  have hback := calc
    t.follow w.branch delta = u.follow [.pop] delta := by
      rw [Word.branch, follow_cons_of_ok update_push, follow_append_of_ok h]
    _ = _ := follow_singleton.trans hpop
  refine ⟨_, hback, rfl, rfl, rfl, ?_⟩
  rw [Word.branch, drawn_cons_of_ok update_push, drawn_append h, drawn_cons_of_ok hpop]
  simp [line, Symbol.draws, Symbol.kind, drawn]

/-- A branch that has its directions succeeds, and adds its symbols to the record. -/
theorem branch_restores (hr : .reset ∉ w) (hw : w.isBalanced = true)
    (hd : t.follow w.branch delta ≠ .error .noDirection) :
    ∃ t', t.follow w.branch delta = .ok t' ∧ t'.place = t.place ∧ t'.heading = t.heading ∧
      t'.anchor = t.anchor ∧ t'.stack = t.stack ∧
      ∃ entries, t'.recorded = t.recorded ++ entries ∧ entries.length = w.length + 2 := by
  have hd' : t.pushed.follow w delta ≠ .error .noDirection := fun he =>
    hd (by rw [Word.branch, follow_cons_of_ok update_push, follow_append_of_error he])
  obtain ⟨u, hu⟩ := follow_of_covered hr (Word.isBalanced_iff.mp hw).1 (Nat.zero_le _) hd'
  obtain ⟨t', ht', hplace, hheading, hbranches, -⟩ := follow_branch hr hw hu
  obtain ⟨hbase, -, entries, hrecorded, hfst⟩ :=
    follow_keeps (Word.reset_not_mem_branch hr) ht'
  refine ⟨t', ht', hplace, hheading, ?_, ?_, entries, hrecorded, ?_⟩
  · rw [anchor, anchor, hbase]
  · rw [stack, stack, hbase, hbranches]
  · have := congrArg List.length hfst
    simpa [Word.branch] using this

/-- A branch between two words draws what its inside draws there, and the second word does what it
does without the branch. -/
theorem branch_between (hr : .reset ∉ w) (hw : w.isBalanced = true) (hv : .reset ∉ v)
    (hz : t.follow v delta = .ok u) (hd : t.follow w delta ≠ .error .noDirection) :
    ∃ z, t.follow (w.branch ++ v) delta = .ok z ∧
      (t.drawn (w.branch ++ v) delta).map Segment.points =
        (t.drawn w delta ++ t.drawn v delta).map Segment.points := by
  rcases alike_pushed.follow hr (Word.isBalanced_iff.mp hw).1 delta with
    ⟨he, -⟩ | ⟨-, b, -, -, hb, -, -, hdrawn⟩
  · exact absurd he hd
  obtain ⟨t', ht', hplace, hheading, hbranches, hbranch⟩ := follow_branch hr hw hb
  obtain ⟨-, hstep, -⟩ := follow_keeps (Word.reset_not_mem_branch hr) ht'
  -- What follows the branch cannot tell the turtle that left it from the one that entered it.
  have halike : Alike t.branches.length [] [] t t' :=
    ⟨hstep.symm, ⟨by rw [frame, frame, hplace], hheading.symm⟩, t.branches, t.branches,
      by rw [List.append_nil], by rw [hbranches, List.append_nil],
      List.forall₂_same.mpr fun f _ => .refl f, rfl⟩
  rcases halike.follow hv (covered_of_follow hv hz).1 delta with
    ⟨he, -⟩ | ⟨-, z, -, -, hz', -, -, hdrawn'⟩
  · cases he.symm.trans hz
  refine ⟨z, by rw [follow_append_of_ok ht', hz'], ?_⟩
  rw [drawn_append ht', hbranch, List.map_append, List.map_append, ← hdrawn, ← hdrawn']

/-- A balanced word in brackets, wherever it stands, fails for want of a direction only. If it does
not, it leaves everything but the record as it was, and before, in and after it the lines are those
that the words around it and the word inside draw without it. -/
theorem branch_isolated (hw : w.isBalanced = true) (hr : .reset ∉ w) (delta : Float) :
    (∀ t : Turtle, t.follow w.branch delta ≠ .error .noDirection →
      ∃ t', t.follow w.branch delta = .ok t' ∧ t'.place = t.place ∧ t'.heading = t.heading ∧
        t'.anchor = t.anchor ∧ t'.stack = t.stack ∧
        ∃ entries, t'.recorded = t.recorded ++ entries ∧ entries.length = w.length + 2) ∧
    ∀ (t a z : Turtle) (u v : Word), .reset ∉ v → t.follow u delta = .ok a →
      t.follow (u ++ v) delta = .ok z → a.follow w delta ≠ .error .noDirection →
      t.drawn (u ++ v) delta = t.drawn u delta ++ a.drawn v delta ∧
      ∃ z', t.follow (u ++ w.branch ++ v) delta = .ok z' ∧
        (t.drawn (u ++ w.branch ++ v) delta).map Segment.points =
          (t.drawn u delta ++ a.drawn w delta ++ a.drawn v delta).map Segment.points := by
  refine ⟨fun t hd => branch_restores hr hw hd, fun t a z u v hv ha hz hd => ?_⟩
  rw [follow_append_of_ok ha] at hz
  obtain ⟨z', hz', hdrawn⟩ := branch_between hr hw hv hz hd
  refine ⟨drawn_append ha, z', ?_, ?_⟩
  · rw [List.append_assoc, follow_append_of_ok ha, hz']
  · rw [List.append_assoc, drawn_append ha, List.map_append, hdrawn, ← List.map_append,
      List.append_assoc]

/-- In `f[+[f]f]F` the branch is left as it was entered, and the last line is drawn as in `fF`. -/
theorem nested_branch_isolated :
    let w : Word := [.turnLeft, .push, .skip, .pop, .skip]
    let v : Word := [.forward (.ofAlpha 'F' (by decide))]
    (w.isBalanced = true ∧ .reset ∉ w) ∧
    (∃ t', atOrigin.follow w.branch 0.5 = .ok t' ∧ t'.stack = atOrigin.stack ∧
      t'.recorded.length = 7) ∧
    ∃ a z', atOrigin.follow [.skip] 0.5 = .ok a ∧
      atOrigin.follow ([.skip] ++ w.branch ++ v) 0.5 = .ok z' ∧
      (atOrigin.drawn ([.skip] ++ w.branch ++ v) 0.5).map Segment.points =
        (a.drawn v 0.5).map Segment.points := by
  intro w v
  have hw : w.isBalanced = true := by decide
  have hr : .reset ∉ w := by decide
  obtain ⟨hbranch, hword⟩ := branch_isolated hw hr 0.5
  refine ⟨⟨hw, hr⟩, ?_, ?_⟩
  · obtain ⟨t', ht', -, -, -, hstack, entries, hrecorded, hlength⟩ := hbranch atOrigin nofun
    refine ⟨t', ht', hstack, ?_⟩
    rw [hrecorded, List.length_append, hlength]
    rfl
  · obtain ⟨-, z', hz', hdrawn⟩ := hword atOrigin _ _ [.skip] v (by decide) rfl rfl nofun
    exact ⟨_, z', rfl, hz', hdrawn⟩

end Turtle

end TurtleGrammar
