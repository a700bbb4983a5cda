import TurtleGrammar.Proofs.Drawing.Chaining
import TurtleGrammar.Proofs.Playback.Pace

/-! The lines that a turtle draws, chained into polylines. A line goes on in the next one unless the
turtle moved without a line or went back to a remembered place in between: the two lines have a
visit in common, even where the coordinates are not numbers. -/

namespace TurtleGrammar

/-! ### Segments that meet -/

namespace Polyline

variable {s r : Segment} {before after segments : List Segment} {p : Polyline} {ps : List Polyline}

/-- The polyline of some segments, each of which goes on in the next. -/
structure Joins (p : Polyline) (segments : List Segment) : Prop where
  start : segments.head?.map Segment.start = some p.first
  stops : p.second :: p.rest = segments.map Segment.stop

/-- Among segments in order, the two in the middle lie in the same polyline. The polylines before
it are those of the segments in front, and the ones after it those of the segments behind. -/
def Share (before : List Segment) (s r : Segment) (after : List Segment) : Prop :=
  ∃ left own own' right p, before = left ++ own ∧ after = own' ++ right ∧
    chain (before ++ s :: r :: after) = chain left ++ p :: chain right ∧
    Joins p (own ++ s :: r :: own')

/-- The first polyline joins the segments up to some point, behind which the others start. -/
theorem exists_joins (s : Segment) (segments : List Segment) :
    ∃ own right p, segments = own ++ right ∧ chain (s :: segments) = p :: chain right ∧
      p.Joins (s :: own) := by
  induction segments generalizing s with
  | nil => exact ⟨[], [], _, rfl, rfl, rfl, rfl⟩
  | cons r segments ih =>
    obtain ⟨own, right, p, rfl, hchain, hjoins⟩ := ih r
    rw [chain_cons, hchain]
    cases hmeets : s.stop.meets p.first with
    | true => exact ⟨r :: own, right, _, rfl, prepend_of_meets hmeets, rfl, by simp [hjoins.stops]⟩
    | false =>
      refine ⟨[], r :: (own ++ right), ⟨s.start, s.stop, []⟩, rfl, ?_, rfl, rfl⟩
      rw [prepend_of_apart hmeets, hchain]

theorem prepend_append (h : ps ≠ []) {qs : List Polyline} :
    prepend s (ps ++ qs) = prepend s ps ++ qs := by
  cases ps with
  | nil => contradiction
  | cons p ps =>
    rw [List.cons_append, prepend, prepend]
    split <;> rfl

/-- Two segments one behind the other that meet lie in the same polyline. -/
theorem share_of_meets (h : s.stop.meets r.start = true) : Share before s r after := by
  induction before with
  | nil =>
    obtain ⟨own, right, p, rfl, hchain, hjoins⟩ := exists_joins r after
    have hfirst : p.first = r.start := (Option.some.inj hjoins.start).symm
    refine ⟨[], [], own, right, ⟨s.start, s.stop, p.second :: p.rest⟩, rfl, rfl, ?_, rfl, ?_⟩
    · rw [List.nil_append, chain_cons, hchain, prepend_of_meets (hfirst ▸ h)]
      rfl
    · rw [hjoins.stops]
      rfl
  | cons b before ih =>
    obtain ⟨left, own, own', right, p, rfl, rfl, hchain, hjoins⟩ := ih
    cases left with
    | nil =>
      -- the segment in front is joined to the polyline of the two, or makes one by itself
      have hall :
          chain (b :: (own ++ s :: r :: (own' ++ right))) = prepend b (p :: chain right) := by
        rw [chain_cons]
        exact congrArg (prepend b) hchain
      cases hmeets : b.stop.meets p.first with
      | true =>
        refine ⟨[], b :: own, own', right, _, rfl, rfl,
          hall.trans (prepend_of_meets hmeets), rfl, ?_⟩
        rw [hjoins.stops]
        rfl
      | false => exact ⟨[b], own, own', right, p, rfl, rfl,
          hall.trans (prepend_of_apart hmeets), hjoins⟩
    | cons l left =>
      refine ⟨b :: l :: left, own, own', right, p, rfl, rfl, ?_, hjoins⟩
      rw [List.cons_append, chain_cons, hchain, prepend_append (chain_ne_nil (by simp))]
      rfl

theorem length_prepend_le : (prepend s ps).length ≤ ps.length + 1 := by
  cases ps with
  | nil => exact Nat.le_refl _
  | cons p ps =>
    rw [prepend]
    split
    · exact Nat.le_succ _
    · exact Nat.le_refl _

theorem length_prepend_of_meets (h : s.stop.meets r.start = true) :
    (prepend s (chain (r :: segments))).length = (chain (r :: segments)).length := by
  obtain ⟨p, ps, hchain, hfirst⟩ := exists_chain_cons r segments
  rw [hchain, prepend_of_meets (hfirst ▸ h), List.length_cons, List.length_cons]

/-- Each polyline has one point more than the segments that it joins. -/
theorem sum_length_points (segments : List Segment) :
    ((chain segments).map (·.points.length)).sum = segments.length + (chain segments).length := by
  induction segments with
  | nil => rfl
  | cons s segments ih =>
    have hlength (p : Polyline) : p.points.length = p.rest.length + 2 := by simp [points, places]
    rw [chain_cons]
    cases hchain : chain segments with
    | nil =>
      simp only [hchain, List.map_nil, List.sum_nil, List.length_nil] at ih
      have hnil : segments = [] := List.eq_nil_of_length_eq_zero ih.symm
      simp [prepend, hlength, hnil]
    | cons p ps =>
      rw [hchain] at ih
      cases hmeets : s.stop.meets p.first with
      | true =>
        rw [prepend_of_meets hmeets]
        simp only [List.map_cons, List.sum_cons, List.length_cons, hlength] at ih ⊢
        omega
      | false =>
        rw [prepend_of_apart hmeets]
        simp only [List.map_cons, List.sum_cons, List.length_cons, hlength, List.length_nil] at ih ⊢
        omega

end Polyline

/-! ### One call -/

/-- The turtle is taken to a point and forgets everything. -/
def Call.isRestart : Call → Bool
  | .restart .. => true
  | _ => false

namespace Deed

/-- A move without a line, or a return to a remembered place. -/
def breaks (d : Deed) : Bool := d.applied? = some .skip || d.applied? = some .pop

variable {d : Deed} {s : Symbol}

theorem exists_update_of_applied (h : d.applied? = some s) :
    d.act.symbol? = some s ∧ ∃ delta, d.before.update s delta = .ok d.after := by
  cases hperform : d.act.perform d.before with
  | error e => cases (applied_of_error hperform).symm.trans h
  | ok r =>
    have hsymbol := (applied_of_ok (r := r.1) (u := r.2) hperform).symm.trans h
    obtain ⟨delta, herror, hok⟩ := Call.perform_of_symbol d.before hsymbol
    refine ⟨hsymbol, delta, ?_⟩
    cases hu : d.before.update s delta with
    | error e => cases (herror e hu).symm.trans hperform
    | ok u =>
      obtain ⟨r', hr'⟩ := hok u hu
      rw [after_of_ok hr']

theorem place_of_not_applied (hcall : d.act.isRestart = false) (h : d.applied? = none) :
    d.after.place = d.before.place := by
  cases hsymbol : d.act.symbol? with
  | none =>
    obtain ⟨t, call⟩ := d
    cases call with
    | push | reset => rfl
    | restart _ _ => cases hcall
    | update _ _ | advance _ => cases hsymbol
  | some s =>
    cases hperform : d.act.perform d.before with
    | error e => rw [after_of_error hperform]
    | ok r =>
      have happlied := applied_of_ok (r := r.1) (u := r.2) hperform
      cases h.symm.trans (happlied.trans hsymbol)

end Deed

/-- What a symbol does to the place: a move leads to a new visit, a pop to a remembered place, and
all other symbols leave it. -/
theorem Turtle.place_of_update {t u : Turtle} {s : Symbol} {delta : Float}
    (h : t.update s delta = .ok u) :
    (s.moves = true ∧ u.place.visit = some t.travelled) ∨ s = .pop ∨
      (s.moves = false ∧ s ≠ .pop ∧ u.place = t.place) := by
  cases ha : t.act s delta with
  | error e => cases (update_of_act_error ha).symm.trans h
  | ok t' =>
    cases s with
    | forward _ | skip =>
      cases (update_of_act (by simp) ha).symm.trans h
      by_cases hinf : t.heading.isInf = true
      · cases (move_of_infinite hinf).symm.trans ha
      · cases (move_of_finite hinf).symm.trans ha
        exact .inl ⟨rfl, rfl⟩
    | pop => exact .inr (.inl rfl)
    | _ =>
      cases h
      exact .inr (.inr ⟨rfl, by simp, rfl⟩)

/-- What a call other than a restart does: it breaks the line, or draws nothing and leaves the place,
or draws a line from the place to a new visit. -/
theorem Deed.stroke_cases (d : Deed) (hcall : d.act.isRestart = false) :
    d.stroke? = none ∧ d.breaks = true ∨
    d.stroke? = none ∧ d.breaks = false ∧ d.after.place = d.before.place ∨
    d.stroke? = some ⟨d.before.place, d.after.place⟩ ∧ d.breaks = false ∧
      d.after.place.visit.isSome = true := by
  cases happlied : d.applied? with
  | none =>
    refine .inr (.inl ⟨stroke_of_none happlied, ?_, place_of_not_applied hcall happlied⟩)
    simp [breaks, happlied]
  | some s =>
    obtain ⟨-, delta, hupdate⟩ := exists_update_of_applied happlied
    have hplace := Turtle.place_of_update hupdate
    cases s with
    | forward l =>
      rcases hplace with ⟨-, hvisit⟩ | h | ⟨h, -⟩
      · exact .inr (.inr ⟨by simp [stroke?, happlied], by simp [breaks, happlied], by simp [hvisit]⟩)
      · cases h
      · cases h
    | skip | pop => exact .inl ⟨by simp [stroke?, happlied], by simp [breaks, happlied]⟩
    | _ =>
      rcases hplace with ⟨h, -⟩ | h | ⟨-, -, hstays⟩
      · cases h
      · cases h
      · exact .inr (.inl ⟨by simp [stroke?, happlied], by simp [breaks, happlied], hstays⟩)

/-! ### Many calls -/

/-- The kinds of symbols that neither move the turtle nor take it back. -/
def Kind.inPlace : List Kind := [.turnLeft, .turnRight, .push, .node, .reset]

theorem Deed.place_of_inPlace {d : Deed} (hcall : d.act.isRestart = false)
    (h : ∀ s, d.applied? = some s → s.kind ∈ Kind.inPlace) : d.after.place = d.before.place := by
  cases happlied : d.applied? with
  | none => exact place_of_not_applied hcall happlied
  | some s =>
    obtain ⟨-, delta, hupdate⟩ := exists_update_of_applied happlied
    have hkind := h s happlied
    rcases Turtle.place_of_update hupdate with ⟨hmoves, -⟩ | rfl | ⟨-, -, hstays⟩
    · cases s <;> simp [Kind.inPlace, Symbol.kind, Symbol.moves] at hkind hmoves
    · simp [Kind.inPlace, Symbol.kind] at hkind
    · exact hstays

namespace Turtle

variable {t : Turtle} {calls : List Call}

/-- Calls that leave the place hand it on to the next call. -/
theorem place_of_between {d e : Deed} {between after : List Deed}
    (hchain : (d :: (between ++ e :: after)).IsChain fun d e => e.before = d.after)
    (hplace : ∀ c ∈ between, c.after.place = c.before.place) :
    e.before.place = d.after.place := by
  induction between generalizing d with
  | nil => rw [(List.isChain_cons.mp hchain).1 e rfl]
  | cons c between ih =>
    obtain ⟨hnext, hchain⟩ := List.isChain_cons.mp hchain
    rw [ih hchain fun c hc => hplace c (.tail _ hc), hplace c (.head _), hnext c rfl]

/-- The polylines of the lines that some calls draw start at the first line or behind a break. If a
line in front ends where the turtle came to by a move, the first one may go on from it. -/
theorem length_chain_strokes (hcalls : ∀ call ∈ calls, call.isRestart = false) :
    (Polyline.chain ((t.deeds calls).filterMap Deed.stroke?)).length ≤
      1 + (t.deeds calls).countP Deed.breaks ∧
    ∀ s : Segment, s.stop = t.place → s.stop.visit.isSome = true →
      (Polyline.prepend s (Polyline.chain ((t.deeds calls).filterMap Deed.stroke?))).length ≤
        1 + (t.deeds calls).countP Deed.breaks := by
  induction calls generalizing t with
  | nil => exact ⟨Nat.zero_le _, fun s _ _ => Nat.le_refl 1⟩
  | cons call calls ih =>
    rw [List.forall_mem_cons] at hcalls
    obtain ⟨hlater, hjoined⟩ := ih (t := Deed.after ⟨t, call⟩) hcalls.2
    simp only [deeds, Moment.history_cons] at hlater hjoined ⊢
    rcases Deed.stroke_cases ⟨t, call⟩ hcalls.1 with
      ⟨hstroke, hbreaks⟩ | ⟨hstroke, hbreaks, hplace⟩ | ⟨hstroke, hbreaks, hvisit⟩
    · rw [List.filterMap_cons_none hstroke, List.countP_cons_of_pos hbreaks]
      exact ⟨by omega, fun s _ _ => Polyline.length_prepend_le.trans (by omega)⟩
    · rw [List.filterMap_cons_none hstroke, List.countP_cons_of_neg (by simp [hbreaks])]
      exact ⟨hlater, fun s hs => hjoined s (hs.trans hplace.symm)⟩
    · rw [List.filterMap_cons_some hstroke, List.countP_cons_of_neg (by simp [hbreaks])]
      have hnext := hjoined ⟨t.place, (Deed.after ⟨t, call⟩).place⟩ rfl hvisit
      refine ⟨hnext, fun s hs hsome => ?_⟩
      rw [Polyline.length_prepend_of_meets]
      · exact hnext
      · simp [Place.meets, hs, hs ▸ hsome]

theorem share_of_between {before between after : List Deed} {d e : Deed} {s r : Segment}
    (hcalls : ∀ call ∈ calls, call.isRestart = false)
    (hdeeds : t.deeds calls = before ++ d :: (between ++ e :: after))
    (hs : d.stroke? = some s) (hr : e.stroke? = some r)
    (hbetween : ∀ c ∈ between, ∀ x, c.applied? = some x → x.kind ∈ Kind.inPlace) :
    Polyline.Share (before.filterMap Deed.stroke?) s r (after.filterMap Deed.stroke?) := by
  have hcall : ∀ c ∈ t.deeds calls, c.act.isRestart = false := fun c hc =>
    hcalls _ (Moment.act_mem_of_mem_history hc)
  rw [hdeeds] at hcall
  have hplace : e.before.place = d.after.place := by
    have hchain : (t.deeds calls).IsChain _ := Moment.isChain_history t calls
    rw [hdeeds] at hchain
    refine place_of_between (List.isChain_append.mp hchain).2.1 fun c hc => ?_
    exact Deed.place_of_inPlace (hcall c (by simp [hc])) (hbetween c hc)
  rcases d.stroke_cases (hcall d (by simp)) with ⟨h, -⟩ | ⟨h, -⟩ | ⟨hd, -, hvisit⟩
  · cases hs.symm.trans h
  · cases hs.symm.trans h
  rcases e.stroke_cases (hcall e (by simp)) with ⟨h, -⟩ | ⟨h, -⟩ | ⟨he, -, -⟩
  · cases hr.symm.trans h
  · cases hr.symm.trans h
  cases hs.symm.trans hd
  cases hr.symm.trans he
  exact Polyline.share_of_meets (by simp [Place.meets, hplace, hvisit])

/-- To follow a word is to call an update for each of its symbols. -/
theorem strokes_of_follow {u : Turtle} {w : Word} {delta : Float} (h : t.follow w delta = .ok u) :
    (t.deeds (w.map (Call.update · delta))).filterMap Deed.stroke? = t.drawn w delta := by
  induction w generalizing t with
  | nil => rfl
  | cons s w ih =>
    cases hs : t.update s delta with
    | error e => cases (follow_cons_of_error hs).symm.trans h
    | ok t' =>
      have hperform : (Call.update s delta).perform t = .ok (none, t') := by
        rw [Call.perform, hs, Except.map]
      have hafter : Deed.after ⟨t, .update s delta⟩ = t' := Deed.after_of_ok hperform
      have hstroke := Deed.stroke_of_some (Deed.applied_of_ok (d := ⟨t, .update s delta⟩) hperform)
      rw [follow_cons_of_ok hs] at h
      rw [hafter] at hstroke
      rw [List.map_cons, deeds, Moment.history_cons, drawn_cons_of_ok hs, hafter, ← ih h, ← hstroke,
        deeds]
      cases hd : Deed.stroke? ⟨t, .update s delta⟩ <;> simp [hd]

theorem breaks_of_plain {w : Word} {delta : Float} (hskip : w.count .skip = 0)
    (hpop : w.count .pop = 0) : (t.deeds (w.map (Call.update · delta))).countP Deed.breaks = 0 := by
  rw [List.countP_eq_zero]
  intro d hd hbreaks
  obtain ⟨s, hs, hcall⟩ := List.mem_map.mp (Moment.act_mem_of_mem_history hd)
  have hkind : ∀ x, d.applied? = some x → x = s := fun x hx => by
    have hsymbol := (Deed.exists_update_of_applied hx).1
    rw [← hcall] at hsymbol
    exact (Option.some.inj hsymbol).symm
  simp only [Deed.breaks, Bool.or_eq_true, decide_eq_true_eq] at hbreaks
  rcases hbreaks with hx | hx
  · have hcount := List.countP_eq_zero.mp hskip s hs
    simp [← hkind _ hx, Symbol.kind] at hcount
  · have hcount := List.countP_eq_zero.mp hpop s hs
    simp [← hkind _ hx, Symbol.kind] at hcount

/-- A way that succeeds without breaks draws one polyline. -/
theorem chain_drawn {u : Turtle} {w : Word} {delta : Float} (h : t.follow w delta = .ok u)
    (hskip : w.count .skip = 0) (hpop : w.count .pop = 0) (hforward : 0 < w.count .forward) :
    ∃ p, Polyline.chain (t.drawn w delta) = [p] ∧ p.points.length = w.count .forward + 1 := by
  have hcalls : ∀ call ∈ w.map (Call.update · delta), call.isRestart = false := by
    simp [Call.isRestart]
  have hle := (length_chain_strokes (t := t) hcalls).1
  rw [strokes_of_follow h, breaks_of_plain hskip hpop] at hle
  have hlength := length_drawn h
  have hne := Polyline.chain_ne_nil (List.ne_nil_of_length_pos (hlength ▸ hforward))
  have hsum := Polyline.sum_length_points (t.drawn w delta)
  match hchain : Polyline.chain (t.drawn w delta) with
  | [] => contradiction
  | [p] => exact ⟨p, rfl, by simpa [hchain, hlength] using hsum⟩
  | _ :: _ :: _ => simp [hchain] at hle

end Turtle

namespace Playback

/-- A run is a number of advances, each on the system as the one before left it. -/
theorem exists_calls_of_run (p : Playback) (n : Nat) :
    ∃ calls, (∀ call ∈ calls, ∃ system, call = .advance system) ∧
      p.turtle.afterCalls calls = (p.run n).final.turtle ∧
      (p.turtle.deeds calls).filterMap Deed.stroke? = (p.run n).segments.toList := by
  induction n generalizing p with
  | zero => exact ⟨[], by simp, rfl, rfl⟩
  | succ n ih =>
    cases ht : p.tick with
    | error e =>
      rw [run_succ_of_error ht]
      exact ⟨[], by simp, rfl, rfl⟩
    | ok r =>
      obtain ⟨d, q⟩ := r
      obtain ⟨calls, hcalls, hafter, hstrokes⟩ := ih q
      have hq : Deed.after ⟨p.turtle, .advance p.system⟩ = q.turtle :=
        Deed.after_of_ok (perform_of_tick ht)
      have hd : Deed.stroke? ⟨p.turtle, .advance p.system⟩ = d := by
        rw [← Deed.returned_of_advance rfl, Deed.returned?, perform_of_tick ht]
      refine ⟨.advance p.system :: calls, ?_, ?_, ?_⟩
      · exact List.forall_mem_cons.mpr ⟨⟨_, rfl⟩, hcalls⟩
      · rw [run_succ_of_ok ht, ← hafter, Turtle.afterCalls, Moment.final_cons, hq]
      · rw [run_succ_of_ok ht, Turtle.deeds, Moment.history_cons, hq, List.filterMap_cons, hd,
          hstrokes]
        cases d <;> simp

end Playback

namespace Turtle

/-- Whatever is called on a turtle, restarts and its own pop apart and failures included: of the
lines it draws, two between which no symbol moved it or took it back lie in the same polyline, there
is at most one polyline more than there were moves without a line and pops, a run is a number of
such calls, and a replay without them that succeeds draws one polyline with a point for each line
and one more. -/
theorem strokes_chain_up_to_breaks (t : Turtle) (calls : List Call)
    (hcalls : ∀ call ∈ calls, call.isRestart = false) :
    let deeds := t.deeds calls
    let strokes := deeds.filterMap Deed.stroke?
    let u := t.afterCalls calls
    (∀ before d between e after s r, deeds = before ++ d :: (between ++ e :: after) →
      d.stroke? = some s → e.stroke? = some r →
      (∀ c ∈ between, ∀ x, c.applied? = some x → x.kind ∈ Kind.inPlace) →
      let front := before.filterMap Deed.stroke?
      let back := after.filterMap Deed.stroke?
      strokes = front ++ s :: r :: back ∧ Polyline.Share front s r back) ∧
    (Polyline.chain strokes).length ≤ 1 + deeds.countP Deed.breaks ∧
    (∀ (system : LSystem) (n : Nat), let run := Playback.run n ⟨u, system⟩
      ∃ more, (∀ call ∈ more, ∃ system, call = .advance system) ∧
        u.afterCalls more = run.final.turtle ∧
        (u.deeds more).filterMap Deed.stroke? = run.segments.toList) ∧
    (∀ system : LSystem, let w : Word := system.word.toList
      let pass := Playback.replay ⟨u, system⟩
      system.cursor = 0 → w.count .skip = 0 → w.count .pop = 0 → 0 < w.count .forward →
      pass.failure = none →
      ∃ p, Polyline.chain pass.segments.toList = [p] ∧
        p.points.length = w.count .forward + 1) := by
  intro deeds strokes u
  refine ⟨fun before d between e after s r hdeeds hs hr hbetween => ⟨?_, ?_⟩,
    (length_chain_strokes hcalls).1, fun system n => Playback.exists_calls_of_run ⟨u, system⟩ n, ?_⟩
  · have hnone : between.filterMap Deed.stroke? = [] := by
      refine List.filterMap_eq_nil_iff.mpr fun c hc => ?_
      cases happlied : c.applied? with
      | none => exact Deed.stroke_of_none happlied
      | some x =>
        have hkind := hbetween c hc x happlied
        cases x <;> simp [Kind.inPlace, Symbol.kind, Deed.stroke?, happlied] at hkind ⊢
    simp only [strokes, hdeeds, List.filterMap_append, List.filterMap_cons_some hs,
      List.filterMap_cons_some hr, hnone, List.nil_append]
  · exact share_of_between hcalls hdeeds hs hr hbetween
  · intro system w pass hcursor hskip hpop hforward hpass
    obtain ⟨hturtle, hsegments⟩ := Playback.replay_eq_follow (p := ⟨u, system⟩) hcursor
    rw [Playback.Run.turtle, hpass] at hturtle
    rw [hsegments]
    exact chain_drawn hturtle.symm hskip hpop hforward

/-- A corner, and behind a gap one more line. -/
def cornerAndDash : List Call :=
  let f : Symbol := .forward ⟨'F', by decide⟩
  [.update f 0.5, .update .turnLeft 0.5, .push, .reset, .update f 0.5, .update .skip 0.5,
    .update .pop 0.5, .update f 0.5]

theorem cornerAndDash_chains :
    (∀ call ∈ cornerAndDash, call.isRestart = false) ∧
    ((atOrigin.deeds cornerAndDash).filterMap Deed.stroke?).length = 3 ∧
    (Polyline.chain ((atOrigin.deeds cornerAndDash).filterMap Deed.stroke?)).length ≤ 2 := by
  have hcalls : ∀ call ∈ cornerAndDash, call.isRestart = false := by decide
  have hbreaks : (atOrigin.deeds cornerAndDash).countP Deed.breaks = 1 := by decide +kernel
  refine ⟨hcalls, by decide +kernel, ?_⟩
  have hle := (strokes_chain_up_to_breaks atOrigin cornerAndDash hcalls).2.1
  rwa [hbreaks] at hle

/-- Two lines between points that are not numbers make one polyline. -/
example : let f : Symbol := .forward ⟨'F', by decide⟩
    let t := start ⟨1.0, by decide⟩ ⟨0.0 / 0.0, 0.0⟩ 0.0
    (Polyline.chain ((t.deeds [.update f 0.5, .update f 0.5]).filterMap Deed.stroke?)).length = 1 :=
  by decide +kernel

end Turtle

end TurtleGrammar
