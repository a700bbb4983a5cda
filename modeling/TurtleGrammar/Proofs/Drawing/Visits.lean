import TurtleGrammar.Proofs.Drawing.Extent
import TurtleGrammar.Proofs.Drawing.Strokes

/-! The visits of a turtle. Each of its moves is counted, restarts or not, so the points that the
moves led to are a list that only grows, and a visit is a place in this list. Hence the lines that a
turtle draws agree on their visits, and have bounds that fit all their ends. -/

namespace TurtleGrammar

/-- If a move led to a place, its point is the one in the list of where the moves led. -/
def Place.Recalls (visited : List Point) (p : Place) : Prop :=
  ∀ n, p.visit = some n → visited[n]? = some p.point

/-- The moves of a turtle led to some points, and those of its place and of the places it can go
back to are among these. -/
structure Turtle.Recalls (visited : List Point) (t : Turtle) : Prop where
  travelled : t.travelled = visited.length
  place : t.place.Recalls visited
  branches : ∀ f ∈ t.branches, f.place.Recalls visited

/-- The places of a segment are among some points that moves led to. -/
def Segment.Recalls (visited : List Point) (s : Segment) : Prop :=
  s.start.Recalls visited ∧ s.stop.Recalls visited

variable {visited later : List Point}

theorem Place.recalls_ofPoint (p : Point) : (Place.ofPoint p).Recalls visited := nofun

theorem Place.Recalls.mono {p : Place} (h : p.Recalls visited) (hlater : visited <+: later) :
    p.Recalls later := by
  obtain ⟨rest, rfl⟩ := hlater
  intro n hn
  have hpoint := h n hn
  rwa [List.getElem?_append_left (List.getElem?_eq_some_iff.mp hpoint).1]

theorem Segment.visitsAgree_of_recalls {segments : List Segment}
    (h : ∀ s ∈ segments, s.Recalls visited) : VisitsAgree segments := by
  intro s hs r hr hsome hsame
  obtain ⟨n, hn⟩ := Option.isSome_iff_exists.mp hsome
  have hstop := (h s hs).2 n hn
  rw [(h r hr).1 n (hsame ▸ hn)] at hstop
  rw [Option.some.inj hstop]
  exact .refl _

/-! ### One symbol -/

namespace Turtle

variable {t u : Turtle} {s : Symbol} {delta : Float}

theorem recalls_start (step : StepLength) (origin : Point) (heading : Float) :
    (start step origin heading).Recalls [] :=
  ⟨rfl, Place.recalls_ofPoint origin, nofun⟩

namespace Recalls

theorem restart (h : t.Recalls visited) (origin : Point) (heading : Float) :
    (t.restart origin heading).Recalls visited :=
  ⟨h.travelled, Place.recalls_ofPoint origin, nofun⟩

theorem reset (h : t.Recalls visited) : t.reset.Recalls visited := ⟨h.travelled, h.place, nofun⟩

theorem push (h : t.Recalls visited) : t.push.Recalls visited :=
  ⟨h.travelled, h.place, List.forall_mem_cons.mpr ⟨h.place, h.branches⟩⟩

theorem pop (h : t.Recalls visited) (hu : t.pop = .ok u) : u.Recalls visited := by
  cases hbranches : t.branches with
  | nil => cases (pop_of_nil hbranches).symm.trans hu
  | cons f rest =>
    cases (pop_of_cons hbranches).symm.trans hu
    have hall := h.branches
    rw [hbranches, List.forall_mem_cons] at hall
    exact ⟨h.travelled, hall.1, hall.2⟩

/-- A move adds the point that it leads to. -/
theorem move (h : t.Recalls visited) (hu : t.move = .ok u) : u.Recalls (visited ++ [t.ahead]) := by
  by_cases hinf : t.heading.isInf = true
  · cases (move_of_infinite hinf).symm.trans hu
  · cases (move_of_finite hinf).symm.trans hu
    refine ⟨by simp [h.travelled], ?_, fun f hf => (h.branches f hf).mono (List.prefix_append _ _)⟩
    rintro n hn
    rw [← Option.some.inj hn, h.travelled]
    exact List.getElem?_concat_length

theorem act (h : t.Recalls visited) (hu : t.act s delta = .ok u) :
    ∃ later, visited <+: later ∧ u.Recalls later := by
  cases s with
  | forward _ | skip => exact ⟨_, List.prefix_append _ _, h.move hu⟩
  | pop => exact ⟨_, List.prefix_rfl, h.pop hu⟩
  | push =>
    cases hu
    exact ⟨_, List.prefix_rfl, h.push⟩
  | reset =>
    cases hu
    exact ⟨_, List.prefix_rfl, h.reset⟩
  | turnLeft | turnRight | node _ =>
    cases hu
    exact ⟨_, List.prefix_rfl, h.travelled, h.place, h.branches⟩

theorem update (h : t.Recalls visited) (hu : t.update s delta = .ok u) :
    ∃ later, visited <+: later ∧ u.Recalls later := by
  by_cases hs : s = .reset
  · subst hs
    cases hu
    exact ⟨_, List.prefix_rfl, h.reset⟩
  · cases ha : t.act s delta with
    | error e => cases (update_of_act_error ha).symm.trans hu
    | ok t' =>
      cases (update_of_act hs ha).symm.trans hu
      obtain ⟨later, hlater, ht'⟩ := h.act ha
      exact ⟨later, hlater, ht'.travelled, ht'.place, ht'.branches⟩

end Recalls

end Turtle

/-! ### Calls -/

theorem Deed.recalls_after {d : Deed} (h : d.before.Recalls visited) :
    ∃ later, visited <+: later ∧ d.after.Recalls later := by
  cases hs : d.act.symbol? with
  | none =>
    obtain ⟨t, call⟩ := d
    cases call with
    | push => exact ⟨_, List.prefix_rfl, h.push⟩
    | reset => exact ⟨_, List.prefix_rfl, h.reset⟩
    | restart origin heading => exact ⟨_, List.prefix_rfl, h.restart origin heading⟩
    | update _ _ | advance _ => cases hs
  | some s =>
    obtain ⟨delta, herror, hok⟩ := Call.perform_of_symbol d.before hs
    cases hu : d.before.update s delta with
    | error e =>
      rw [after_of_error (herror e hu)]
      exact ⟨_, List.prefix_rfl, h⟩
    | ok u =>
      obtain ⟨r, hr⟩ := hok u hu
      rw [after_of_ok hr]
      exact h.update hu

theorem Deed.eq_of_stroke {d : Deed} {s : Segment} (h : d.stroke? = some s) :
    s = ⟨d.before.place, d.after.place⟩ := by
  rw [stroke?] at h
  split at h
  · exact (Option.some.inj h).symm
  · cases h

namespace Turtle

variable {t : Turtle} {calls : List Call}

theorem Recalls.strokes (h : t.Recalls visited) (calls : List Call) :
    ∃ later, visited <+: later ∧
      ∀ s ∈ (t.deeds calls).filterMap Deed.stroke?, s.Recalls later := by
  induction calls generalizing t visited with
  | nil => exact ⟨visited, List.prefix_rfl, nofun⟩
  | cons call calls ih =>
    -- the points that the first call adds are kept by all later ones
    obtain ⟨next, hnext, hafter⟩ := Deed.recalls_after (d := ⟨t, call⟩) h
    obtain ⟨later, hlater, hstrokes⟩ := ih hafter
    refine ⟨later, hnext.trans hlater, fun s hs => ?_⟩
    obtain ⟨d, hd, hstroke⟩ := List.mem_filterMap.mp hs
    rcases List.mem_cons.mp hd with rfl | hd
    · rw [Deed.eq_of_stroke hstroke]
      exact ⟨h.place.mono (hnext.trans hlater), hafter.place.mono hlater⟩
    · exact hstrokes s (List.mem_filterMap.mpr ⟨d, hd, hstroke⟩)

/-- Whatever is called on a new turtle, its own pop apart and failures included, the lines it draws
agree on their visits. -/
theorem visitsAgree_strokes (step : StepLength) (origin : Point) (heading : Float)
    (calls : List Call) :
    Segment.VisitsAgree (((start step origin heading).deeds calls).filterMap Deed.stroke?) := by
  obtain ⟨later, -, hstrokes⟩ := (recalls_start step origin heading).strokes calls
  exact Segment.visitsAgree_of_recalls hstrokes

end Turtle

/-- The lines that a new turtle draws in a run have bounds that fit their ends, if there are any. -/
theorem Playback.bounds_of_run (step : StepLength) (origin : Point) (heading : Float)
    (system : LSystem) (n : Nat) :
    let segments := (Playback.run n ⟨.start step origin heading, system⟩).segments.toList
    segments ≠ [] → ∃ b,
      Bounds.ofPolylines ((Polyline.chain segments).map Polyline.points) = .ok b ∧
        b.Fits (Point.ends (segments.map Segment.points)) := by
  intro segments hne
  obtain ⟨calls, -, -, hstrokes⟩ := exists_calls_of_run ⟨.start step origin heading, system⟩ n
  have hvisits := Turtle.visitsAgree_strokes step origin heading calls
  rw [hstrokes] at hvisits
  exact ⟨_, Bounds.ofPolylines_chain hne, Bounds.fits_chain hvisits⟩

end TurtleGrammar
