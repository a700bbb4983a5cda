/-! How a computation ends: with an error that is as one predicate says, or with a result that is as
another says. Of computations one after the other it is enough to know this of each, of the later
ones for the results that the earlier ones can have. -/

namespace TurtleGrammar

/-- If a computation ends with an error, the error is `bad`, and else its result is `good`. -/
def Ends {ε α : Type} (bad : ε → Prop) (good : α → Prop) : Except ε α → Prop
  | .error e => bad e
  | .ok a => good a

namespace Ends

variable {ε ε' α β : Type} {P P' : ε → Prop} {Q Q' : α → Prop} {R : β → Prop} {x : Except ε α}

theorem bind {f : α → Except ε β} (hx : Ends P Q x) (hf : ∀ a, Q a → Ends P R (f a)) :
    Ends P R (x >>= f) := by
  cases x with
  | error e => exact hx
  | ok a => exact hf a hx

theorem mono (hx : Ends P Q x) (hbad : ∀ e, P e → P' e) (hgood : ∀ a, Q a → Q' a) :
    Ends P' Q' x := by
  cases x with
  | error e => exact hbad e hx
  | ok a => exact hgood a hx

theorem mapError {P : ε' → Prop} {f : ε → ε'} (hx : Ends (fun e => P (f e)) Q x) :
    Ends P Q (x.mapError f) := by
  cases x with
  | error e => exact hx
  | ok a => exact hx

theorem of_forall (h : ∀ e, P e) : Ends P (fun _ => True) x := by
  cases x with
  | error e => exact h e
  | ok a => exact True.intro

theorem with_eq (hx : Ends P Q x) : Ends P (fun a => Q a ∧ x = .ok a) x := by
  cases x with
  | error e => exact hx
  | ok a => exact ⟨hx, rfl⟩

end Ends

end TurtleGrammar
