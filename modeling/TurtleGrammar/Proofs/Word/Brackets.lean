import Mathlib.Data.List.Basic
import TurtleGrammar.Word

/-! Brackets in a word. A pop of the word is covered if, up to it, the pops do not outnumber the
pushes by more than the frames that were there before. A word closes `n` frames exactly when all
its pops are covered by them and it pops `n` more times than it pushes, so words that close frames
can be put one after another and words that are balanced can be put in the place of symbols. -/

namespace TurtleGrammar.Word

/-- There are more pops than pushes. -/
def Overdrawn (w : Word) : Prop := List.count .push w < List.count .pop w

/-- The shortest start of the word with more pops than pushes is the one that ends in the symbol
number `i`. -/
def FirstOverdraft (w : Word) (i : Nat) : Prop :=
  i < w.length ∧ Overdrawn (w.take (i + 1)) ∧ ∀ j ≤ i, ¬Overdrawn (w.take j)

instance (w : Word) : Decidable (Overdrawn w) := inferInstanceAs (Decidable (_ < _))

instance (w : Word) (i : Nat) : Decidable (FirstOverdraft w i) :=
  inferInstanceAs (Decidable (_ ∧ _ ∧ _))

/-- No start of the word has more pops than the pushes in it and `n` frames together. -/
def Covered (n : Nat) (w : Word) : Prop :=
  ∀ j, List.count .pop (w.take j) ≤ n + List.count .push (w.take j)

instance (n : Nat) (w : Word) : Decidable (Covered n w) :=
  decidable_of_iff
    (∀ j ≤ w.length, List.count .pop (w.take j) ≤ n + List.count .push (w.take j)) <| by
      refine ⟨fun h j => ?_, fun h j _ => h j⟩
      by_cases hj : j ≤ w.length
      · exact h j hj
      · rw [List.take_of_length_le (Nat.le_of_not_le hj)]
        simpa using h w.length (Nat.le_refl _)

variable {m n : Nat} {s : Symbol} {v w : Word}

theorem covered_nil : Covered n [] := fun j => by simp

/-- The first symbol of a word may change how many frames cover the rest. -/
theorem covered_cons (h : m + List.count .pop [s] = n + List.count .push [s]) :
    Covered n (s :: w) ↔ Covered m w := by
  constructor
  · intro hc j
    have hj := hc (j + 1)
    rw [List.take_succ_cons, ← List.singleton_append, List.count_append, List.count_append] at hj
    omega
  · rintro hc (_ | j)
    · simp
    · have hj := hc j
      rw [List.take_succ_cons, ← List.singleton_append, List.count_append, List.count_append]
      omega

theorem not_covered_pop : ¬Covered 0 (.pop :: w) := fun h => by simpa using h 1

theorem Covered.singleton (h : Covered n (s :: w)) : Covered n [s] := by
  rintro (_ | j)
  · simp
  · simpa using h 1

theorem Covered.mono (h : Covered m w) (hmn : m ≤ n) : Covered n w :=
  fun j => Nat.le_trans (h j) (Nat.add_le_add_right hmn _)

theorem Covered.take (h : Covered n w) (i : Nat) : Covered n (w.take i) := by
  intro j
  rw [List.take_take]
  exact h _

/-- A word is covered up to a symbol and one further if it is covered up to the symbol and the
start one further is. -/
theorem Covered.take_succ {i : Nat} (h : Covered n (w.take i))
    (hi : List.count .pop (w.take (i + 1)) ≤ n + List.count .push (w.take (i + 1))) :
    Covered n (w.take (i + 1)) := by
  intro j
  rw [List.take_take]
  by_cases hj : j ≤ i
  · have := h j
    rw [List.take_take, Nat.min_eq_left hj] at this
    rwa [Nat.min_eq_left (by omega)]
  · rwa [Nat.min_eq_right (by omega)]

/-- A word that is covered by its own pushes needs no frame of the word before it. -/
theorem covered_append_iff (hv : Covered 0 v) : Covered n (w ++ v) ↔ Covered n w := by
  constructor
  · intro h
    have hstart := h.take w.length
    rwa [List.take_left] at hstart
  · intro hw j
    have h1 := hw j
    have h2 := hv (j - w.length)
    rw [List.take_append, List.count_append, List.count_append]
    omega

/-- With no frame before, a word is covered where no start of it is overdrawn. -/
theorem covered_zero_iff : Covered 0 w ↔ ∀ j, ¬Overdrawn (w.take j) := by
  simp [Covered, Overdrawn]

theorem covered_take_iff {i : Nat} : Covered 0 (w.take i) ↔ ∀ j ≤ i, ¬Overdrawn (w.take j) := by
  rw [covered_zero_iff]
  constructor
  · intro h j hj
    have := h j
    rwa [List.take_take, Nat.min_eq_left hj] at this
  · intro h j
    rw [List.take_take]
    exact h _ (Nat.min_le_right _ _)

theorem closes_plain (hpush : s ≠ .push) (hpop : s ≠ .pop) : closes n (s :: w) = closes n w := by
  cases s with
  | push => contradiction
  | pop => contradiction
  | _ => simp [closes]

/-- The scan that counts open brackets and the counts of all starts of a word agree. -/
theorem closes_iff :
    closes n w = true ↔ Covered n w ∧ List.count .pop w = n + List.count .push w := by
  induction w generalizing n with
  | nil => simp [closes, covered_nil, eq_comm]
  | cons s w ih =>
    by_cases hpush : s = .push
    · subst hpush
      rw [closes, ih, covered_cons (m := n + 1) (by simp)]
      simp only [List.count_cons, beq_iff_eq, reduceCtorEq, if_false, if_true]
      exact and_congr_right fun _ => by omega
    by_cases hpop : s = .pop
    · subst hpop
      cases n with
      | zero => simp [closes, not_covered_pop]
      | succ n =>
        rw [closes, ih, covered_cons (m := n) (by simp)]
        simp only [List.count_cons, beq_iff_eq, reduceCtorEq, if_false, if_true]
        exact and_congr_right fun _ => by omega
    · rw [closes_plain hpush hpop, ih, covered_cons (m := n) (by simp [hpush, hpop])]
      simp [hpush, hpop]

/-- What is left of a word that closes frames closes those that are there after its first symbol. -/
theorem closes_tail (h : m + List.count .pop [s] = n + List.count .push [s])
    (hw : closes n (s :: w) = true) : closes m w = true := by
  obtain ⟨hc, hcount⟩ := closes_iff.mp hw
  rw [← List.singleton_append, List.count_append, List.count_append] at hcount
  exact closes_iff.mpr ⟨(covered_cons h).mp hc, by omega⟩

theorem exists_closes_tail (h : closes n (s :: w) = true) : ∃ m, closes m w = true := by
  cases s with
  | push => exact ⟨n + 1, h⟩
  | pop =>
    cases n with
    | zero => simp [closes] at h
    | succ n => exact ⟨n, h⟩
  | _ => exact ⟨n, (closes_plain (by simp) (by simp)).symm.trans h⟩

theorem isBalanced_iff :
    isBalanced w = true ↔ Covered 0 w ∧ List.count .pop w = List.count .push w := by
  rw [isBalanced, closes_iff, Nat.zero_add]

/-- A word read after one that closes `m` frames closes its own `n` after them. -/
theorem closes_append (hv : closes m v = true) (hw : closes n w = true) :
    closes (m + n) (v ++ w) = true := by
  rw [closes_iff] at hv hw ⊢
  obtain ⟨hv, hveq⟩ := hv
  obtain ⟨hw, hweq⟩ := hw
  refine ⟨fun j => ?_, by rw [List.count_append, List.count_append]; omega⟩
  have h1 := hv j
  have h2 := hw (j - v.length)
  rw [List.take_append, List.count_append, List.count_append]
  by_cases hj : j ≤ v.length
  · rw [Nat.sub_eq_zero_of_le hj, List.take_zero]
    simp only [List.count_nil]
    omega
  · rw [List.take_of_length_le (by omega)]
    omega

/-- Balanced words put in the place of symbols other than brackets close no frame and open none. -/
theorem closes_flatMap {f : Symbol → Word} (hpush : f .push = [.push]) (hpop : f .pop = [.pop])
    (hf : ∀ s, s ≠ .push → s ≠ .pop → isBalanced (f s) = true) (hw : closes n w = true) :
    closes n (w.flatMap f) = true := by
  induction w generalizing n with
  | nil => exact hw
  | cons s w ih =>
    rw [List.flatMap_cons]
    by_cases hs : s = .push
    · subst hs
      rw [hpush]
      exact ih hw
    by_cases hs' : s = .pop
    · subst hs'
      rw [hpop]
      cases n with
      | zero => simp [closes] at hw
      | succ n => exact ih hw
    · rw [closes_plain hs hs'] at hw
      have := closes_append (hf s hs hs') (ih hw)
      rwa [Nat.zero_add] at this

end TurtleGrammar.Word
