import Mathlib.Data.List.Chain

/-! Histories. What is done one after another is kept as a list of moments, each with the state in
which it is done. How a state is left is a parameter, so that what is done may be a call on a turtle
as well as an act on a stage. -/

namespace TurtleGrammar

/-- Something that is done, together with the state in which it is done. -/
structure Moment (σ α : Type) where
  before : σ
  act : α

namespace Moment

variable {σ α : Type}

/-- The state after some acts, where each leaves the state that `after` says. -/
def final (after : Moment σ α → σ) (s : σ) (acts : List α) : σ :=
  acts.foldl (fun s a => after ⟨s, a⟩) s

/-- Some acts, each with the state in which it is done. -/
def history (after : Moment σ α → σ) (s : σ) : List α → List (Moment σ α)
  | [] => []
  | a :: acts => ⟨s, a⟩ :: history after (after ⟨s, a⟩) acts

variable {after : Moment σ α → σ} {s : σ} {a : α} {acts more : List α} {m : Moment σ α}

theorem final_cons : final after s (a :: acts) = final after (after ⟨s, a⟩) acts := rfl

theorem final_append : final after s (acts ++ more) = final after (final after s acts) more :=
  List.foldl_append

theorem final_concat : final after s (acts ++ [a]) = after ⟨final after s acts, a⟩ :=
  final_append

theorem history_cons :
    history after s (a :: acts) = ⟨s, a⟩ :: history after (after ⟨s, a⟩) acts := rfl

theorem history_append :
    history after s (acts ++ more) =
      history after s acts ++ history after (final after s acts) more := by
  induction acts generalizing s with
  | nil => rfl
  | cons a acts ih =>
    rw [List.cons_append, history_cons, ih, history_cons, List.cons_append, final_cons]

theorem history_concat :
    history after s (acts ++ [a]) = history after s acts ++ [⟨final after s acts, a⟩] :=
  history_append

/-- Each act is done in the state that the act before it left. -/
theorem isChain_history (s : σ) (acts : List α) :
    (history after s acts).IsChain fun m n => n.before = after m := by
  induction acts generalizing s with
  | nil => exact .nil
  | cons a acts ih =>
    refine List.isChain_cons.mpr ⟨fun n hn => ?_, ih _⟩
    cases acts with
    | nil => cases hn
    | cons b acts =>
      cases hn
      rfl

theorem act_mem_of_mem_history (h : m ∈ history after s acts) : m.act ∈ acts := by
  induction acts generalizing s with
  | nil => cases h
  | cons a acts ih =>
    rcases List.mem_cons.mp h with rfl | h
    · exact .head _
    · exact .tail _ (ih h)

/-- What is done in a history is done in a state to which some acts lead. -/
theorem exists_final_of_mem_history (h : m ∈ history after s acts) :
    ∃ done, m.before = final after s done := by
  induction acts generalizing s with
  | nil => cases h
  | cons a acts ih =>
    rcases List.mem_cons.mp h with rfl | h
    · exact ⟨[], rfl⟩
    · obtain ⟨done, hdone⟩ := ih h
      exact ⟨a :: done, hdone⟩

end Moment

end TurtleGrammar
