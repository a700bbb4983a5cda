import TurtleGrammar.Proofs.Playback.Record
import TurtleGrammar.Proofs.Playback.Stepwise
import TurtleGrammar.Proofs.Word.Brackets

/-! The frames of a turtle. Whatever is done with it, under all frames lies the one at which it last
started over, and above it those of the pushes that no pop has matched since. A pop takes the turtle
back to the push that it matches. Brackets are matched in the history as a whole, where it does not
matter which of them were symbols and which were calls, and what failed counts for nothing. All of
this holds of the variables of a turtle that is changed in single steps. -/

namespace TurtleGrammar

/-- The bracket that a symbol is, if it is one. -/
def Symbol.bracket? : Symbol → Option Symbol
  | .push => some .push
  | .pop => some .pop
  | .forward _ | .skip | .turnLeft | .turnRight | .reset | .node _ => none

/-- What can be done with a turtle: a call, or its own pop. -/
inductive Operation
  | call (c : Call)
  | pop

namespace Operation

/-- Whether the turtle starts over at an operation. -/
def startsOver : Operation → Bool
  | .call c => c.startsOver
  | .pop => false

/-- The bracket that an operation is if it succeeds. -/
def bracket? : Operation → Option Symbol
  | .call .push => some .push
  | .call c => c.symbol?.bind Symbol.bracket?
  | .pop => some .pop

/-- The turtle after an operation. Its own pop gives the frame back that it takes away. -/
def perform (t : Turtle) : Operation → Except TurtleError (Option Frame × Turtle)
  | .call c => (c.perform t).map fun (_, u) => (none, u)
  | .pop => t.pop.map fun u => (t.branches.head?, u)

end Operation

/-- An operation together with the turtle on which it is made. -/
abbrev Occurrence := Moment Turtle Operation

namespace Occurrence

/-- The turtle after the operation, the same as before if the operation fails. -/
def after (d : Occurrence) : Turtle :=
  match d.act.perform d.before with
  | .ok (_, u) => u
  | .error _ => d.before

/-- The bracket that the operation was. One that fails was none. -/
def bracket? (d : Occurrence) : Option Symbol :=
  match d.act.perform d.before with
  | .ok _ => d.act.bracket?
  | .error _ => none

/-- The brackets in a history, in order. -/
def brackets (history : List Occurrence) : Word := history.filterMap bracket?

/-- The frames as they were at the pushes of a history that no pop in it matches, in order. The pops
after such a push never outnumber the pushes after it. -/
def unmatched : List Occurrence → List Frame
  | [] => []
  | d :: rest =>
    if d.bracket? = some .push ∧ Word.Covered 0 (brackets rest) then
      d.before.frame :: unmatched rest
    else unmatched rest

/-- A push that a pop right after the history matches: between the two the brackets balance. -/
def AwaitsPop (history : List Occurrence) (d : Occurrence) : Prop :=
  d.bracket? = some .push ∧
    ∃ before since, history = before ++ d :: since ∧ Word.isBalanced (brackets since) = true

/-- The frames above the base, the latest first, as a history leaves them: balanced brackets leave
none, and a push with balanced brackets after it leaves its own on top. -/
inductive Leaves : List Occurrence → List Frame → Prop
  | none {history : List Occurrence} (h : Word.isBalanced (brackets history) = true) :
    Leaves history []
  | push {before since : List Occurrence} {d : Occurrence} {frames : List Frame}
    (h : Leaves before frames) (hd : d.bracket? = some .push)
    (hsince : Word.isBalanced (brackets since) = true) :
    Leaves (before ++ d :: since) (d.before.frame :: frames)

end Occurrence

namespace Turtle

/-- The turtle after some operations, whether they succeed or fail. -/
abbrev afterOperations (t : Turtle) (operations : List Operation) : Turtle :=
  Moment.final Occurrence.after t operations

/-- Some operations, each with the turtle on which it is made. -/
abbrev history (t : Turtle) (operations : List Operation) : List Occurrence :=
  Moment.history Occurrence.after t operations

/-- The operations since the last at which the turtle started over. -/
def sinceStart (t : Turtle) (operations : List Operation) : List Occurrence :=
  (t.history operations).rtakeWhile fun d => !d.act.startsOver

/-- The frame as it was when the turtle last started over, or was new. -/
def startFrame (t : Turtle) (operations : List Operation) : Frame :=
  (((t.history operations).rdropWhile fun d => !d.act.startsOver).getLast?.map
    fun d => d.after.frame).getD t.frame

end Turtle

/-! ### Single steps -/

/-- A call in single steps. -/
def Call.steps : Call → Steps (Option Segment)
  | .update s delta => do
    let _ ← Steps.update s delta
    return none
  | .advance system => fun p =>
    match Steps.tick (p, system) with
    | .ok drawn (p, _) => .ok drawn p
    | .error e (p, _) => .error e p
  | .push => do
    let _ ← Steps.push
    return none
  | .reset => do
    Steps.reset
    return none
  | .restart origin heading => do
    Steps.restart origin heading
    return none

/-- An operation in single steps. -/
def Operation.steps : Operation → Steps (Option Frame)
  | .call c => do
    let _ ← c.steps
    return none
  | .pop => do return some (← Steps.pop)

/-- The variables of a turtle as some operations in single steps leave them, whether they succeed or
fail. -/
def Parts.afterOperations (p : Parts) (operations : List Operation) : Parts :=
  Moment.final (fun m : Moment Parts Operation =>
    match m.act.steps.run m.before with
    | .ok _ p => p
    | .error _ p => p) p operations

namespace Steps

variable {t : Turtle}

/-- The system that an advance is made on does not go on in the call: only the turtle is told. -/
theorem run_call (c : Call) : c.steps.run t.parts = whole t (c.perform t) := by
  cases c with
  | update s delta =>
    have hrun := run_update t s delta
    rw [Call.perform]
    cases hu : t.update s delta with
    | error e =>
      rw [hu] at hrun
      exact run_bind_of_error hrun
    | ok u =>
      rw [hu] at hrun
      exact run_bind_of_ok hrun
  | advance system =>
    have hrun := run_tick ⟨t, system⟩
    rw [Call.perform]
    simp only [EStateM.run, Call.steps, Playback.parts] at hrun ⊢
    rw [hrun]
    cases Playback.tick ⟨t, system⟩ <;> rfl
  | push => exact run_bind_of_ok run_push
  | reset | restart _ _ => rfl

theorem run_operation (o : Operation) : o.steps.run t.parts = whole t (o.perform t) := by
  cases o with
  | call c =>
    have hrun := run_call (t := t) c
    rw [Operation.perform]
    cases hc : c.perform t with
    | error e =>
      rw [hc] at hrun
      exact run_bind_of_error hrun
    | ok r =>
      rw [hc] at hrun
      exact run_bind_of_ok hrun
  | pop =>
    rw [Operation.perform]
    cases hb : t.branches with
    | nil =>
      have hrun := run_pop (t := t)
      rw [Turtle.pop_of_nil hb] at hrun ⊢
      exact run_bind_of_error hrun
    | cons f rest =>
      have hrun := run_pop (t := t)
      rw [Turtle.pop_of_cons hb] at hrun ⊢
      exact run_bind_of_ok hrun

/-- Whatever is done with a turtle, its variables are changed as if it were done at once. -/
theorem afterOperations_parts (operations : List Operation) :
    t.parts.afterOperations operations = (t.afterOperations operations).parts := by
  induction operations generalizing t with
  | nil => rfl
  | cons o operations ih =>
    rw [Parts.afterOperations, Moment.final_cons, Turtle.afterOperations, Moment.final_cons,
      ← Turtle.afterOperations, ← ih, Parts.afterOperations, run_operation, Occurrence.after]
    cases o.perform t <;> rfl

end Steps

/-! ### One operation -/

/-- What a bracket does to the frames of a turtle. -/
inductive Turtle.Restacks (t u : Turtle) : Option Symbol → Prop
  | none (h : u.branches = t.branches) : Restacks t u none
  | push (h : u.branches = t.frame :: t.branches) : Restacks t u (some .push)
  | pop (h : t.branches = u.frame :: u.branches) : Restacks t u (some .pop)

section Operations

variable {t u : Turtle} {s : Symbol} {delta : Float} {d : Occurrence} {e : TurtleError}
  {r : Option Frame} {c : Call}

namespace Turtle

theorem restacks_act (hs : s ≠ .reset) (h : t.act s delta = .ok u) : t.Restacks u s.bracket? := by
  cases s with
  | reset => contradiction
  | forward _ | skip =>
    by_cases hinf : t.heading.isInf = true
    · cases (move_of_infinite hinf).symm.trans h
    · cases (move_of_finite hinf).symm.trans h
      exact .none rfl
  | push =>
    cases h
    exact .push rfl
  | pop =>
    cases hb : t.branches with
    | nil => cases (pop_of_nil hb).symm.trans h
    | cons f rest =>
      cases (pop_of_cons hb).symm.trans h
      exact .pop hb
  | turnLeft | turnRight | node _ =>
    cases h
    exact .none rfl

/-- The record has no part in it. -/
theorem Restacks.record {b : Option Symbol} (h : t.Restacks u b) (trail : List (Symbol × Place)) :
    t.Restacks { u with trail } b := by
  cases h with
  | none h => exact .none h
  | push h => exact .push h
  | pop h => exact .pop h

theorem restacks_update (hs : s ≠ .reset) (h : t.update s delta = .ok u) :
    t.Restacks u s.bracket? := by
  cases ha : t.act s delta with
  | error e => cases (update_of_act_error ha).symm.trans h
  | ok t' =>
    cases (update_of_act hs ha).symm.trans h
    exact (restacks_act hs ha).record _

end Turtle

namespace Occurrence

theorem after_of_ok (h : d.act.perform d.before = .ok (r, u)) : d.after = u := by
  rw [after, h]

theorem after_of_error (h : d.act.perform d.before = .error e) : d.after = d.before := by
  rw [after, h]

theorem bracket_of_ok (h : d.act.perform d.before = .ok (r, u)) :
    d.bracket? = d.act.bracket? := by
  rw [bracket?, h]

theorem bracket_of_error (h : d.act.perform d.before = .error e) : d.bracket? = none := by
  rw [bracket?, h]

/-- What an operation can do to the frames: lay the base anew where the turtle then is and forget
all others, or leave the base as it was and do to the others what a bracket does. -/
theorem frames_cases (d : Occurrence) :
    d.act.startsOver = true ∧ d.bracket? = none ∧ d.after.base = d.after.frame ∧
      d.after.branches = [] ∨
    d.act.startsOver = false ∧ d.after.base = d.before.base ∧
      d.before.Restacks d.after d.bracket? := by
  obtain ⟨t, operation⟩ := d
  cases operation with
  | pop =>
    refine .inr ⟨rfl, ?_⟩
    cases hb : t.branches with
    | nil =>
      have hfail : Operation.pop.perform t = .error .underflow := by
        rw [Operation.perform, Turtle.pop_of_nil hb, Except.map]
      rw [after_of_error hfail, bracket_of_error hfail]
      exact ⟨rfl, .none rfl⟩
    | cons f rest =>
      have hok := congrArg (Except.map fun u => (t.branches.head?, u)) (Turtle.pop_of_cons hb)
      rw [after_of_ok (d := ⟨t, .pop⟩) hok, bracket_of_ok (d := ⟨t, .pop⟩) hok]
      exact ⟨rfl, .pop hb⟩
  | call c =>
    cases hs : c.symbol? with
    | none =>
      cases c with
      | push => exact .inr ⟨rfl, rfl, .push rfl⟩
      | reset | restart _ _ => exact .inl ⟨rfl, rfl, rfl, rfl⟩
      | update _ _ | advance _ => cases hs
    | some s =>
      have hbracket : (Operation.call c).bracket? = s.bracket? := by
        cases c with
        | push => cases hs
        | _ => exact congrArg (Option.bind · Symbol.bracket?) hs
      have hover : (Operation.call c).startsOver = decide (s = .reset) :=
        Call.startsOver_of_symbol hs
      obtain ⟨delta, herror, hok⟩ := Call.perform_of_symbol t hs
      rw [hover]
      by_cases hreset : s = .reset
      · subst hreset
        obtain ⟨r, hr⟩ := hok t.reset rfl
        have hperform : (Operation.call c).perform t = .ok (none, t.reset) := by
          rw [Operation.perform, hr, Except.map]
        rw [after_of_ok hperform, bracket_of_ok hperform, hbracket]
        exact .inl ⟨rfl, rfl, rfl, rfl⟩
      rw [decide_eq_false hreset]
      refine .inr ⟨rfl, ?_⟩
      cases hu : t.update s delta with
      | error e =>
        have hperform : (Operation.call c).perform t = .error e := by
          rw [Operation.perform, herror e hu, Except.map]
        rw [after_of_error hperform, bracket_of_error hperform]
        exact ⟨rfl, .none rfl⟩
      | ok u =>
        obtain ⟨r, hr⟩ := hok u hu
        have hperform : (Operation.call c).perform t = .ok (none, u) := by
          rw [Operation.perform, hr, Except.map]
        rw [after_of_ok hperform, bracket_of_ok hperform, hbracket]
        exact ⟨(Turtle.update_keeps hreset hu).1, Turtle.restacks_update hreset hu⟩

end Occurrence

end Operations

/-! ### Brackets of a history -/

namespace Occurrence

variable {p q : Occurrence} {before since between later history : List Occurrence} {f : Frame}
  {frames : List Frame} {n : Nat}

theorem brackets_append : brackets (history ++ since) = brackets history ++ brackets since :=
  List.filterMap_append

theorem brackets_cons_of_some {s : Symbol} (h : p.bracket? = some s) :
    brackets (p :: since) = s :: brackets since :=
  List.filterMap_cons_some h

theorem brackets_cons_of_none (h : p.bracket? = none) : brackets (p :: since) = brackets since :=
  List.filterMap_cons_none h

theorem unmatched_cons_of_covered (h : p.bracket? = some .push)
    (hcovered : Word.Covered 0 (brackets since)) :
    unmatched (p :: since) = p.before.frame :: unmatched since := by
  rw [unmatched, if_pos ⟨h, hcovered⟩]

theorem unmatched_cons_of_not
    (h : ¬(p.bracket? = some .push ∧ Word.Covered 0 (brackets since))) :
    unmatched (p :: since) = unmatched since := by
  rw [unmatched, if_neg h]

/-- What covers its own pops leaves the pushes before it as they are, matched or not. -/
theorem unmatched_append (h : Word.Covered 0 (brackets since)) :
    unmatched (history ++ since) = unmatched history ++ unmatched since := by
  induction history with
  | nil => rfl
  | cons p history ih =>
    have hiff := Word.covered_append_iff (n := 0) (w := brackets history) h
    rw [← brackets_append] at hiff
    by_cases hp : p.bracket? = some .push ∧ Word.Covered 0 (brackets history)
    · rw [List.cons_append, unmatched_cons_of_covered hp.1 (hiff.mpr hp.2),
        unmatched_cons_of_covered hp.1 hp.2, ih, List.cons_append]
    · rw [List.cons_append, unmatched_cons_of_not (by rwa [hiff]), unmatched_cons_of_not hp, ih]

/-- Where every push is matched, none is left, whether or not some pops match pushes before. -/
theorem unmatched_of_closes (h : Word.closes n (brackets history) = true) :
    unmatched history = [] := by
  induction history generalizing n with
  | nil => rfl
  | cons p history ih =>
    have hrest : ∃ m, Word.closes m (brackets history) = true := by
      cases hp : p.bracket? with
      | none => exact ⟨n, brackets_cons_of_none hp ▸ h⟩
      | some s => exact Word.exists_closes_tail (brackets_cons_of_some hp ▸ h)
    obtain ⟨m, hm⟩ := hrest
    rw [unmatched_cons_of_not ?_, ih hm]
    rintro ⟨hp, hcovered⟩
    rw [brackets_cons_of_some hp, Word.closes_iff] at h
    have hall := hcovered (brackets history).length
    rw [List.take_length] at hall
    simp at h
    omega

/-- A history that ends in a push and balanced brackets after it leaves that push last. -/
theorem unmatched_of_awaits (hp : p.bracket? = some .push)
    (hsince : Word.isBalanced (brackets since) = true) :
    unmatched (before ++ p :: since) = unmatched before ++ [p.before.frame] := by
  have hcovered := (Word.isBalanced_iff.mp hsince).1
  have hpush : Word.Covered 0 (brackets (p :: since)) := by
    rw [brackets_cons_of_some hp, Word.covered_cons (m := 1) (by simp)]
    exact hcovered.mono (Nat.zero_le 1)
  rw [unmatched_append hpush, unmatched_cons_of_covered hp hcovered, unmatched_of_closes hsince]

/-- Balanced brackets hold no push that is still unmatched, so at most one push awaits a pop. -/
theorem eq_of_awaits (hq : q.bracket? = some .push)
    (hsince : Word.isBalanced (brackets since) = true)
    (hlater : Word.isBalanced (brackets later) = true) (h : p :: since = between ++ q :: later) :
    p = q := by
  cases between with
  | nil =>
    cases h
    rfl
  | cons d between =>
    cases h
    have hnone := unmatched_of_closes hsince
    simp [unmatched_of_awaits hq hlater] at hnone

theorem AwaitsPop.unique (hp : AwaitsPop history p) (hq : AwaitsPop history q) : p = q := by
  obtain ⟨hpush, before, since, rfl, hsince⟩ := hp
  obtain ⟨hpush', before', since', h, hsince'⟩ := hq
  rcases List.append_eq_append_iff.mp h with ⟨between, -, h⟩ | ⟨between, -, h⟩
  · exact eq_of_awaits hpush' hsince hsince' h
  · exact (eq_of_awaits hpush hsince' hsince h).symm

theorem AwaitsPop.of_suffix (h : AwaitsPop since p) (hsuffix : since <:+ history) :
    AwaitsPop history p := by
  obtain ⟨hp, before, later, rfl, hlater⟩ := h
  obtain ⟨earlier, rfl⟩ := hsuffix
  exact ⟨hp, earlier ++ before, later, (List.append_assoc ..).symm, hlater⟩

theorem isBalanced_append (hbefore : Word.isBalanced (brackets before) = true)
    (hsince : Word.isBalanced (brackets since) = true) :
    Word.isBalanced (brackets (before ++ since)) = true := by
  rw [brackets_append]
  exact Word.closes_append hbefore hsince

namespace Leaves

theorem unmatched_eq (h : Leaves history frames) : unmatched history = frames.reverse := by
  induction h with
  | none h => exact unmatched_of_closes h
  | push h hp hsince ih => rw [unmatched_of_awaits hp hsince, ih, List.reverse_cons]

theorem append_balanced (h : Leaves history frames)
    (hsince : Word.isBalanced (brackets since) = true) : Leaves (history ++ since) frames := by
  cases h with
  | none h => exact .none (isBalanced_append h hsince)
  | push h hp hbetween =>
    rw [List.append_assoc, List.cons_append]
    exact .push h hp (isBalanced_append hbetween hsince)

/-- The frame on top is that of the push that a pop would match. -/
theorem top (h : Leaves history (f :: frames)) :
    ∃ p, AwaitsPop history p ∧ f = p.before.frame := by
  cases h with
  | push h hp hsince => exact ⟨_, ⟨hp, _, _, rfl, hsince⟩, rfl⟩

theorem pop (h : Leaves history (f :: frames)) (hq : q.bracket? = some .pop) :
    Leaves (history ++ [q]) frames := by
  cases h with
  | push h hp hbetween =>
    rw [List.append_assoc, List.cons_append]
    refine h.append_balanced ?_
    rw [brackets_cons_of_some hp, brackets_append, brackets_cons_of_some hq]
    exact Word.closes_append hbetween (n := 1) rfl

/-- An operation at which the turtle does not start over leaves the frames as the brackets say. -/
theorem step (h : Leaves history p.before.branches)
    (hrestacks : p.before.Restacks p.after p.bracket?) :
    Leaves (history ++ [p]) p.after.branches := by
  generalize hp : p.bracket? = b at hrestacks
  cases hrestacks with
  | none hbranches =>
    rw [hbranches]
    exact h.append_balanced (by rw [brackets_cons_of_none hp]; rfl)
  | push hbranches =>
    rw [hbranches]
    exact .push h hp rfl
  | pop hbranches => exact (hbranches ▸ h).pop hp

end Leaves

end Occurrence

/-! ### Many operations -/

namespace Turtle

variable {t u : Turtle} {r : Option Frame}

/-- The base is where the turtle last started over, and the frames above it are those that the
brackets since then leave. -/
theorem leaves_sinceStart (step : StepLength) (origin : Point) (heading : Float)
    (operations : List Operation) :
    let t := start step origin heading
    (t.afterOperations operations).base = t.startFrame operations ∧
      Occurrence.Leaves (t.sinceStart operations) (t.afterOperations operations).branches := by
  intro t
  induction operations using List.reverseRecOn with
  | nil => exact ⟨rfl, .none rfl⟩
  | append_singleton operations operation ih =>
    obtain ⟨hbase, hleaves⟩ := ih
    rw [afterOperations, Moment.final_concat, sinceStart, startFrame, history,
      Moment.history_concat, List.rtakeWhile_concat, List.rdropWhile_concat]
    rcases Occurrence.frames_cases ⟨t.afterOperations operations, operation⟩ with
      ⟨hover, -, hbase', hbranches⟩ | ⟨hgoes, hbase', hrestacks⟩
    · rw [if_neg (by simp [hover]), if_neg (by simp [hover]), hbranches, List.getLast?_concat]
      exact ⟨hbase', .none rfl⟩
    · rw [if_pos (by simp [hgoes]), if_pos (by simp [hgoes])]
      exact ⟨hbase'.trans hbase, hleaves.step hrestacks⟩

theorem frame_of_pop (h : Operation.pop.perform t = .ok (r, u)) : r = some u.frame := by
  cases hb : t.branches with
  | nil => simp [Operation.perform, pop_of_nil hb, Except.map] at h
  | cons f rest =>
    rw [Operation.perform, pop_of_cons hb, Except.map, hb, List.head?_cons] at h
    cases h
    rfl

/-- Whatever is done with a new turtle, failures included: in single steps its variables come to the
same as at once; the lowest frame on the stack is the one at which the turtle last started over or
was new, where the anchor is too, and the frames above are those of the pushes since then that no
pop has matched, in order. A pop that succeeds, called or by a symbol, matches a push, takes the
turtle back to the place and heading it had there, and if it is called gives this frame back. -/
theorem stack_follows_brackets (step : StepLength) (origin : Point) (heading : Float)
    (operations : List Operation) :
    let first := start step origin heading
    let t := first.afterOperations operations
    let v := first.parts.afterOperations operations
    v = t.parts ∧
    (∀ operation : Operation, operation.steps.run v = Steps.whole t (operation.perform t)) ∧
    v.stack = first.startFrame operations :: Occurrence.unmatched (first.sinceStart operations) ∧
    v.anchor = (first.startFrame operations).place ∧
    ∀ (operation : Operation) (r : Option Frame) (u : Turtle),
      operation.bracket? = some .pop → operation.perform t = .ok (r, u) →
      ∃ p, Occurrence.AwaitsPop (first.history operations) p ∧
        (∀ q, Occurrence.AwaitsPop (first.history operations) q → q = p) ∧
        u.frame = p.before.frame ∧ (operation = .pop → r = some p.before.frame) := by
  intro first t v
  obtain ⟨hbase, hleaves⟩ := leaves_sinceStart step origin heading operations
  have hparts : v = t.parts := Steps.afterOperations_parts operations
  have hstack : t.stack =
      first.startFrame operations :: Occurrence.unmatched (first.sinceStart operations) := by
    rw [stack, hbase, hleaves.unmatched_eq]
  rw [hparts]
  refine ⟨rfl, Steps.run_operation, hstack, congrArg Frame.place hbase, ?_⟩
  intro operation r u hpop hperform
  have hbracket := (Occurrence.bracket_of_ok (d := ⟨t, operation⟩) hperform).trans hpop
  have hcases := Occurrence.frames_cases ⟨t, operation⟩
  rw [hbracket, Occurrence.after_of_ok (d := ⟨t, operation⟩) hperform] at hcases
  rcases hcases with ⟨-, hnone, -⟩ | ⟨-, -, hrestacks⟩
  · cases hnone
  cases hrestacks with
  | pop hbranches =>
    obtain ⟨p, hp, hframe⟩ := (hbranches ▸ hleaves).top
    have hawaits := hp.of_suffix (List.rtakeWhile_suffix _ _)
    refine ⟨p, hawaits, fun q hq => hq.unique hawaits, hframe, ?_⟩
    rintro rfl
    rw [frame_of_pop hperform, hframe]

/-- A push that is called and one that is a symbol are both unmatched until a pop matches the
second, and one more pop after a reset fails and changes nothing. -/
example :
    (atOrigin.afterOperations [.call .push, .call (.update .skip 0.5), .call (.update .push 0.5),
      .call (.update .turnLeft 0.5), .pop]).stack = [atOrigin.frame, atOrigin.frame] ∧
    (atOrigin.afterOperations [.call .push, .call .reset, .pop]).stack = [atOrigin.frame] :=
  ⟨rfl, rfl⟩

end Turtle

end TurtleGrammar
