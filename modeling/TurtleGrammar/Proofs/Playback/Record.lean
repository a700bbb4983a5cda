import Mathlib.Data.List.DropRight
import TurtleGrammar.Proofs.Playback.History
import TurtleGrammar.Proofs.Playback.Ticks

/-! The record of a turtle. Whatever is called on a turtle, its own pop apart, the record holds the
symbols applied since it last started over, and the lines rebuilt from the record are the lines that
were drawn. The turtle always stands where its record ends, so the next line starts there too. -/

namespace TurtleGrammar

/-- A call on a turtle. A frame is popped by a symbol only. All numbers are floating-point numbers:
calls with something else, which would have to be converted first, are left out. -/
inductive Call
  | update (s : Symbol) (delta : Float)
  | advance (system : LSystem)
  | push
  | reset
  | restart (origin : Point) (heading : Float)

namespace Call

/-- The symbol that a call applies. -/
def symbol? : Call → Option Symbol
  | .update s _ => some s
  | .advance system => some system.peek
  | .push | .reset | .restart .. => none

/-- Whether the turtle starts over at a call. -/
def startsOver : Call → Bool
  | .update s _ => s = .reset
  | .advance system => system.peek = .reset
  | .push => false
  | .reset | .restart .. => true

/-- The line that a call gives back, if it gives one, and the turtle after it. -/
def perform (t : Turtle) : Call → Except TurtleError (Option Segment × Turtle)
  | .update s delta => (t.update s delta).map fun u => (none, u)
  | .advance system => (Playback.tick ⟨t, system⟩).map fun (drawn, p) => (drawn, p.turtle)
  | .push => .ok (none, t.push)
  | .reset => .ok (none, t.reset)
  | .restart origin heading => .ok (none, t.restart origin heading)

end Call

/-- A call together with the turtle on which it is made. -/
abbrev Deed := Moment Turtle Call

namespace Deed

/-- The turtle after the call, the same as before if the call fails. -/
def after (d : Deed) : Turtle :=
  match d.act.perform d.before with
  | .ok (_, u) => u
  | .error _ => d.before

/-- The line that the call gives back. -/
def returned? (d : Deed) : Option Segment :=
  match d.act.perform d.before with
  | .ok (drawn, _) => drawn
  | .error _ => none

/-- The symbol that the call applies, if it succeeds. -/
def applied? (d : Deed) : Option Symbol :=
  match d.act.perform d.before with
  | .ok _ => d.act.symbol?
  | .error _ => none

/-- The places before and after a forward symbol that is applied. -/
def stroke? (d : Deed) : Option Segment :=
  match d.applied? with
  | some (.forward _) => some ⟨d.before.place, d.after.place⟩
  | _ => none

/-- A symbol that is applied and is no reset, with the place it leaves. -/
def noted? (d : Deed) : Option (Symbol × Place) :=
  d.applied?.bind fun s => if s = .reset then none else some (s, d.after.place)

end Deed

namespace Turtle

/-- The turtle after some calls, whether they succeed or fail. -/
abbrev afterCalls (t : Turtle) (calls : List Call) : Turtle := Moment.final Deed.after t calls

/-- Some calls, each with the turtle on which it is made. -/
abbrev deeds (t : Turtle) (calls : List Call) : List Deed := Moment.history Deed.after t calls

/-- The calls since the last at which the turtle started over. -/
def recent (t : Turtle) (calls : List Call) : List Deed :=
  (t.deeds calls).rtakeWhile fun d => !d.act.startsOver

/-- The place at the end of a record that starts at a place. -/
def lastPlace (anchor : Place) (entries : List (Symbol × Place)) : Place :=
  (entries.getLast?.map Prod.snd).getD anchor

end Turtle

/-! ### One call -/

section Calls

variable {call : Call} {s : Symbol} {u : Turtle} {d : Deed} {e : TurtleError} {r : Option Segment}

/-- A call that applies a symbol does to the turtle what the symbol does. -/
theorem Call.perform_of_symbol (t : Turtle) (h : call.symbol? = some s) :
    ∃ delta, (∀ e, t.update s delta = .error e → call.perform t = .error e) ∧
      ∀ u, t.update s delta = .ok u → ∃ r, call.perform t = .ok (r, u) := by
  cases call with
  | update s' delta =>
    cases h
    refine ⟨delta, fun e he => ?_, fun u hu => ⟨none, ?_⟩⟩
    · rw [perform, he, Except.map]
    · rw [perform, hu, Except.map]
  | advance system =>
    cases h
    refine ⟨system.definition.delta, fun e he => ?_, fun u hu => ?_⟩
    · rw [perform, Playback.tick_of_error he, Except.map]
    · obtain ⟨r, ht, -⟩ := Playback.tick_of_ok (p := ⟨t, system⟩) hu
      exact ⟨r, by rw [perform, ht, Except.map]⟩
  | push | reset | restart _ _ => cases h

theorem Call.startsOver_of_symbol (h : call.symbol? = some s) :
    call.startsOver = decide (s = .reset) := by
  cases call with
  | push | reset | restart _ _ => cases h
  | _ =>
    cases h
    rfl

namespace Deed

theorem after_of_ok (h : d.act.perform d.before = .ok (r, u)) : d.after = u := by
  rw [after, h]

theorem after_of_error (h : d.act.perform d.before = .error e) : d.after = d.before := by
  rw [after, h]

theorem applied_of_ok (h : d.act.perform d.before = .ok (r, u)) :
    d.applied? = d.act.symbol? := by
  rw [applied?, h]

theorem applied_of_error (h : d.act.perform d.before = .error e) : d.applied? = none := by
  rw [applied?, h]

/-- What a call can do to the record: start it over where the turtle then is, add the symbol that is
applied with the place where the turtle then is, or leave it as it was, and the place too. -/
theorem record_cases (d : Deed) :
    d.act.startsOver = true ∧ d.after.trail = [] ∧ d.after.place = d.after.anchor ∨
    d.act.startsOver = false ∧ d.after.base = d.before.base ∧
      ((∃ s ≠ .reset, d.applied? = some s ∧ d.after.trail = (s, d.after.place) :: d.before.trail) ∨
        d.applied? = none ∧ d.after.trail = d.before.trail ∧ d.after.place = d.before.place) := by
  cases hs : d.act.symbol? with
  | none =>
    obtain ⟨t, call⟩ := d
    cases call with
    | push => exact .inr ⟨rfl, rfl, .inr ⟨rfl, rfl, rfl⟩⟩
    | reset | restart _ _ => exact .inl ⟨rfl, rfl, rfl⟩
    | update _ _ | advance _ => cases hs
  | some s =>
    rw [Call.startsOver_of_symbol hs]
    obtain ⟨delta, herror, hok⟩ := Call.perform_of_symbol d.before hs
    by_cases hreset : s = .reset
    · subst hreset
      obtain ⟨r, hr⟩ := hok d.before.reset rfl
      rw [after_of_ok hr]
      exact .inl ⟨rfl, rfl, rfl⟩
    rw [decide_eq_false hreset]
    cases hu : d.before.update s delta with
    | error e =>
      rw [applied_of_error (herror e hu), after_of_error (herror e hu)]
      exact .inr ⟨rfl, rfl, .inr ⟨rfl, rfl, rfl⟩⟩
    | ok u =>
      obtain ⟨r, hr⟩ := hok u hu
      rw [applied_of_ok hr, after_of_ok hr, hs]
      obtain ⟨hbase, -, htrail, -⟩ := Turtle.update_keeps hreset hu
      exact .inr ⟨rfl, hbase, .inl ⟨s, hreset, rfl, htrail⟩⟩

/-- The turtle starts over at a call that applies a reset. -/
theorem startsOver_of_applied (h : d.applied? = some .reset) : d.act.startsOver ≠ false := by
  have hsymbol : d.act.symbol? = some .reset := by
    cases hperform : d.act.perform d.before with
    | error e => cases (applied_of_error hperform).symm.trans h
    | ok r => exact (applied_of_ok (r := r.1) (u := r.2) hperform).symm.trans h
  rw [Call.startsOver_of_symbol hsymbol]
  decide

theorem stroke_of_none (h : d.applied? = none) : d.stroke? = none := by
  rw [stroke?, h]

theorem noted_of_none (h : d.applied? = none) : d.noted? = none := by
  rw [noted?, h, Option.bind_none]

theorem stroke_of_some (h : d.applied? = some s) :
    d.stroke?.toList = Turtle.line s d.before.place d.after.place := by
  rw [stroke?, h]
  cases s <;> rfl

theorem noted_of_some (hs : s ≠ .reset) (h : d.applied? = some s) :
    d.noted? = some (s, d.after.place) := by
  rw [noted?, h, Option.bind_some, if_neg hs]

/-- What `advance` gives back is what it draws. -/
theorem returned_of_advance {system : LSystem} (h : d.act = .advance system) :
    d.returned? = d.stroke? := by
  obtain ⟨t, call⟩ := d
  cases h
  cases hu : t.update system.peek system.definition.delta with
  | error e =>
    have hfail : (Call.advance system).perform t = .error e := by
      rw [Call.perform, Playback.tick_of_error (p := ⟨t, system⟩) hu, Except.map]
    rw [stroke_of_none (applied_of_error hfail), returned?, hfail]
  | ok u =>
    obtain ⟨r, ht, hr⟩ := Playback.tick_of_ok (p := ⟨t, system⟩) hu
    have hok : (Call.advance system).perform t = .ok (r, u) := by
      rw [Call.perform, ht, Except.map]
    have hstroke := stroke_of_some (applied_of_ok (d := ⟨t, .advance system⟩) hok)
    rw [after_of_ok hok, ← hr] at hstroke
    rw [returned?, hok, ← Option.head?_toList (o := r), ← hstroke, Option.head?_toList]

end Deed

end Calls

/-! ### Many calls -/

namespace Turtle

section Runs

variable {t : Turtle} {d : Deed} {anchor place : Place} {s : Symbol}
  {entries : List (Symbol × Place)} {since : List Deed}

theorem filterMap_concat {α : Type} (f : Deed → Option α) :
    (since ++ [d]).filterMap f = since.filterMap f ++ (f d).toList := by
  rw [List.filterMap_append, List.filterMap_cons, List.filterMap_nil]
  cases f d <;> rfl

theorem lastPlace_cons : lastPlace anchor ((s, place) :: entries) = lastPlace place entries := by
  rw [lastPlace, lastPlace, List.getLast?_cons]
  cases entries.getLast? <;> rfl

theorem lastPlace_concat : lastPlace anchor (entries ++ [(s, place)]) = place := by
  rw [lastPlace, List.getLast?_concat, Option.map_some, Option.getD_some]

theorem segmentsFrom_concat :
    segmentsFrom anchor (entries ++ [(s, place)]) =
      segmentsFrom anchor entries ++ line s (lastPlace anchor entries) place := by
  induction entries generalizing anchor with
  | nil =>
    rw [List.nil_append, segmentsFrom, segmentsFrom, line]
    rfl
  | cons entry entries ih =>
    obtain ⟨s', place'⟩ := entry
    rw [List.cons_append, segmentsFrom, segmentsFrom, ih, lastPlace_cons]
    split <;> rfl

/-- The record tells what some calls did, and ends where the turtle is. -/
structure Recounts (t : Turtle) (since : List Deed) : Prop where
  segments_eq : t.segments = since.filterMap Deed.stroke?
  recorded_eq : t.recorded = since.filterMap Deed.noted?
  place_eq : t.place = lastPlace t.anchor t.recorded

theorem recounts_nil (htrail : t.trail = []) (hplace : t.place = t.anchor) : t.Recounts [] := by
  have hrecorded : t.recorded = [] := by rw [recorded, htrail, List.reverse_nil]
  refine ⟨?_, ?_, ?_⟩
  · rw [segments, hrecorded, segmentsFrom, List.filterMap_nil]
  · rw [hrecorded, List.filterMap_nil]
  · rw [hplace, hrecorded]
    rfl

/-- A call at which the turtle does not start over adds to the record what it did. -/
theorem Recounts.step (h : d.before.Recounts since) (hd : d.act.startsOver = false) :
    d.after.Recounts (since ++ [d]) := by
  rcases d.record_cases with ⟨hover, -⟩ | ⟨-, hbase, hrecord⟩
  · cases hd.symm.trans hover
  have hanchor : d.after.anchor = d.before.anchor := by rw [anchor, anchor, hbase]
  rcases hrecord with ⟨s, hs, happlied, htrail⟩ | ⟨happlied, htrail, hplace⟩
  · have hrecorded : d.after.recorded = d.before.recorded ++ [(s, d.after.place)] := by
      rw [recorded, htrail, List.reverse_cons, recorded]
    refine ⟨?_, ?_, ?_⟩
    · rw [segments, hanchor, hrecorded, segmentsFrom_concat, ← h.place_eq, ← segments,
        h.segments_eq, ← Deed.stroke_of_some happlied, filterMap_concat]
    · rw [hrecorded, h.recorded_eq, filterMap_concat, Deed.noted_of_some hs happlied,
        Option.toList_some]
    · rw [hrecorded, lastPlace_concat]
  · have hrecorded : d.after.recorded = d.before.recorded := by rw [recorded, htrail, recorded]
    refine ⟨?_, ?_, ?_⟩
    · rw [segments, hanchor, hrecorded, ← segments, h.segments_eq, filterMap_concat,
        Deed.stroke_of_none happlied, Option.toList_none, List.append_nil]
    · rw [hrecorded, h.recorded_eq, filterMap_concat, Deed.noted_of_none happlied,
        Option.toList_none, List.append_nil]
    · rw [hplace, hanchor, hrecorded, h.place_eq]

theorem recounts_recent (step : StepLength) (origin : Point) (heading : Float)
    (calls : List Call) :
    ((start step origin heading).afterCalls calls).Recounts
      ((start step origin heading).recent calls) := by
  induction calls using List.reverseRecOn with
  | nil => exact recounts_nil rfl rfl
  | append_singleton calls call ih =>
    rw [afterCalls, Moment.final_concat, recent, deeds, Moment.history_concat,
      List.rtakeWhile_concat]
    cases hover : call.startsOver with
    | false =>
      rw [if_pos (by simp)]
      exact ih.step hover
    | true =>
      rw [if_neg (by simp)]
      rcases Deed.record_cases ⟨_, call⟩ with ⟨-, htrail, hplace⟩ | ⟨hgoes, -⟩
      · exact recounts_nil htrail hplace
      · cases hover.symm.trans hgoes

/-- Whatever is called on a new turtle, its own pop apart and failures included, since it last
started over: the lines rebuilt from the record are those from before to after each forward symbol
that was applied, and those given back if all calls were advances; the record holds the symbols that
were applied with the places they left; and the turtle is where the record ends. -/
theorem record_recounts_calls (step : StepLength) (origin : Point) (heading : Float)
    (calls : List Call) :
    let t := (start step origin heading).afterCalls calls
    let since := (start step origin heading).recent calls
    t.segments = since.filterMap Deed.stroke? ∧
    ((∀ d ∈ since, ∃ system, d.act = .advance system) →
      t.segments = since.filterMap Deed.returned?) ∧
    t.recorded = since.filterMap Deed.noted? ∧
    t.place = lastPlace t.anchor t.recorded := by
  have h := recounts_recent step origin heading calls
  refine ⟨h.segments_eq, fun hadvance => ?_, h.recorded_eq, h.place_eq⟩
  rw [h.segments_eq]
  refine List.filterMap_congr fun d hd => ?_
  obtain ⟨system, hsystem⟩ := hadvance d hd
  exact (Deed.returned_of_advance hsystem).symm

/-- A push that is called is not recorded, the pop that it allows is, and one more pop fails. -/
example :
    (atOrigin.afterCalls [.push, .update .skip 0.5, .update .pop 0.5, .update .pop 0.5]).recorded
      = [(.skip, ⟨atOrigin.ahead, some 0⟩), (.pop, atOrigin.place)] := rfl

end Runs

end Turtle

end TurtleGrammar
