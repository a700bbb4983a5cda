import TurtleGrammar.Event

/-! Outcomes: a result, or an error, together with the events on the way to it. Events that were
reported before an error stay reported. -/

namespace TurtleGrammar

/-- A result, or an error, together with the events up to it. -/
structure Outcome (ε α : Type) where
  events : List Event
  result : Except ε α

namespace Outcome

variable {ε ε' α β : Type}

/-- The outcome of something that reports nothing. -/
def ofExcept (result : Except ε α) : Outcome ε α := ⟨[], result⟩

/-- An outcome that only reports. -/
def report (events : List Event) : Outcome ε Unit := ⟨events, .ok ()⟩

/-- The outcome with its error, if it is one, seen as another. -/
def mapError (f : ε → ε') (o : Outcome ε α) : Outcome ε' α := ⟨o.events, o.result.mapError f⟩

/-- Goes on with a result, after whose events come those of what follows. -/
def bind (o : Outcome ε α) (f : α → Outcome ε β) : Outcome ε β :=
  match o.result with
  | .error e => ⟨o.events, .error e⟩
  | .ok a => ⟨o.events ++ (f a).events, (f a).result⟩

instance : Monad (Outcome ε) where
  pure a := ⟨[], .ok a⟩
  bind := bind

theorem result_bind (o : Outcome ε α) (f : α → Outcome ε β) :
    (o >>= f).result = o.result >>= fun a => (f a).result := by
  show (bind o f).result = _
  unfold bind
  cases o.result <;> rfl

end Outcome

end TurtleGrammar
