import Mathlib.Data.FinEnum
import Mathlib.Data.Matrix.Mul
import TurtleGrammar.Proofs.Grammar.Rewriting
import TurtleGrammar.Proofs.Word.Kinds

/-! How a word grows. One generation multiplies the tally of a word, the counts of all symbols, by a
matrix of the rules, so some generations multiply it by a power of that matrix. What a word comes to
hold therefore depends on how often each symbol stands in it, and not on their order. -/

namespace TurtleGrammar

open scoped Matrix

/-! ### The alphabet is finite -/

instance : Finite Letter :=
  Finite.of_injective (fun l : Letter => l.char.val) fun ⟨_, _⟩ ⟨_, _⟩ h => by
    cases Char.ext h
    rfl

instance : Fintype Kind := ⟨Kind.all.toFinset, fun k => List.mem_toFinset.mpr k.mem_all⟩

theorem Symbol.eq_of_kind_of_label {a b : Symbol} (hkind : a.kind = b.kind)
    (hlabel : a.label? = b.label?) : a = b := by
  cases a <;> cases b <;> cases hkind <;> cases hlabel <;> rfl

noncomputable instance : Fintype Symbol :=
  have : Finite Symbol :=
    Finite.of_injective (fun s => (s.kind, s.label?)) fun _ _ h =>
      Symbol.eq_of_kind_of_label (congrArg Prod.fst h) (congrArg Prod.snd h)
  Fintype.ofFinite Symbol

/-! ### Tallies -/

namespace Word

variable {s : Symbol} {u v w : Word} {k : Kind}

/-- How often each symbol stands in a word. -/
def tally (w : Word) (s : Symbol) : Nat := List.count s w

theorem tally_nil : tally [] = 0 := rfl

theorem tally_append : tally (v ++ w) = v.tally + w.tally :=
  funext fun _ => List.count_append

theorem tally_singleton : tally [s] = Pi.single s 1 := by
  funext t
  rw [tally, List.count_singleton, Pi.single_apply]
  simp only [beq_iff_eq, eq_comm (a := s)]

theorem tally_cons : tally (s :: w) = Pi.single s 1 + w.tally := by
  rw [← List.singleton_append, tally_append, tally_singleton]

/-- The symbols of a kind are counted one by one. -/
theorem count_eq_sum_tally : w.count k = ∑ s with s.kind = k, w.tally s := by
  induction w with
  | nil => simp [tally_nil, Word.count]
  | cons s w ih =>
    simp [count_cons, tally_cons, Finset.sum_add_distrib, ← ih, Nat.add_comm]

theorem length_eq_sum_tally : w.length = ∑ s, w.tally s := by
  induction w with
  | nil => simp [tally_nil]
  | cons s w ih => simp [tally_cons, Finset.sum_add_distrib, ← ih, Nat.add_comm]

end Word

/-! ### Growth -/

namespace Rules

variable {rules : Rules} {s : Symbol} {u w : Word} {n : Nat}

/-- How often each symbol stands in what a symbol becomes in one generation: in its replacement or,
if it has no rule, once itself. -/
def growth (rules : Rules) : Matrix Symbol Symbol Nat :=
  .of fun s t =>
    match rules.replacement? s with
    | some r => List.count t r
    | none => if s = t then 1 else 0

theorem row_growth : rules.growth.row s = (rules.expand s).tally := by
  funext t
  rw [Matrix.row_apply, growth, Matrix.of_apply]
  cases h : rules.replacement? s with
  | none =>
    rw [expand_of_none h, Word.tally, List.count_singleton]
    simp only [beq_iff_eq]
  | some r => rw [expand_of_some h, Word.tally]

/-- One generation adds up the rows of the symbols of a word. -/
theorem tally_step : (rules.step w).tally = w.tally ᵥ* rules.growth := by
  induction w with
  | nil => rw [step, List.flatMap_nil, Word.tally_nil, Matrix.zero_vecMul]
  | cons s w ih =>
    calc (rules.step (s :: w)).tally
      _ = (rules.expand s).tally + (rules.step w).tally := Word.tally_append
      _ = Pi.single s 1 ᵥ* rules.growth + Word.tally w ᵥ* rules.growth := by
        rw [ih, Matrix.single_one_vecMul, row_growth]
      _ = Word.tally (s :: w) ᵥ* rules.growth := by
        rw [Word.tally_cons, Matrix.add_vecMul]

theorem tally_rewrite : (rules.rewrite n w).tally = w.tally ᵥ* rules.growth ^ n := by
  induction n generalizing w with
  | zero => rw [rewrite, pow_zero, Matrix.vecMul_one]
  | succ n ih => rw [rewrite, ih, tally_step, Matrix.vecMul_vecMul, pow_succ']

/-- Some generations multiply the tally of a word by a power of the growth of the rules, and this
tells how many symbols of each kind there are, and how many in all. Words that hold the same symbols
in any order therefore come to hold the same symbols. -/
theorem tally_of_generations (rules : Rules) (n : Nat) (w : Word) :
    ∃ v, rules.generations n w = .ok v ∧ v.tally = w.tally ᵥ* rules.growth ^ n ∧
      (∀ k, v.count k = ∑ s with s.kind = k, (w.tally ᵥ* rules.growth ^ n) s) ∧
      v.length = ∑ s, (w.tally ᵥ* rules.growth ^ n) s ∧
      ∀ u : Word, u.tally = w.tally → ∃ v', rules.generations n u = .ok v' ∧
        v'.tally = v.tally ∧ (∀ k, v'.count k = v.count k) ∧ v'.length = v.length := by
  refine ⟨_, generations_of_nat, tally_rewrite, fun k => ?_, ?_, fun u hu => ?_⟩
  · rw [Word.count_eq_sum_tally, tally_rewrite]
  · rw [Word.length_eq_sum_tally, tally_rewrite]
  · have htally : (rules.rewrite n u).tally = (rules.rewrite n w).tally := by
      rw [tally_rewrite, tally_rewrite, hu]
    refine ⟨_, generations_of_nat, htally, fun k => ?_, ?_⟩
    · rw [Word.count_eq_sum_tally, Word.count_eq_sum_tally, htally]
    · rw [Word.length_eq_sum_tally, Word.length_eq_sum_tally, htally]

/-- A line that doubles with a branch between its halves, and turns that vanish. -/
def pruned : Rules :=
  let line : Symbol := .forward (.ofAlpha 'F' rfl)
  ofList [(line, [line, .push, .turnLeft, line, .pop]), (.turnLeft, []), (.push, [.push, .skip])]

/-- Two words with their symbols in another order grow into words that differ, but not in what they
hold. -/
theorem pruned_grows_alike :
    let line : Symbol := .forward (.ofAlpha 'F' rfl)
    ∃ v v', pruned.generations 3 [line, .push, .turnLeft] = .ok v ∧
      pruned.generations 3 [.turnLeft, .push, line] = .ok v' ∧ v' ≠ v ∧
      Word.tally [.turnLeft, .push, line] = Word.tally [line, .push, .turnLeft] ∧
      v'.tally = v.tally ∧ v.count .forward = 8 ∧ v'.length = v.length := by
  intro line
  have htally : Word.tally [.turnLeft, .push, line] = Word.tally [line, .push, .turnLeft] :=
    funext (List.reverse_perm [line, .push, .turnLeft]).count_eq
  obtain ⟨v, hv, -, -, -, halike⟩ := tally_of_generations pruned 3 [line, .push, .turnLeft]
  obtain ⟨v', hv', hsame, -, hlength⟩ := halike _ htally
  have hread : ((pruned.generations 3 [line, .push, .turnLeft]).toOption.any fun v =>
      v.count .forward == 8 && (pruned.generations 3 [.turnLeft, .push, line]).toOption.any
        (· ≠ v)) = true := by decide
  simp only [Nat.cast_ofNat] at hv hv'
  simp only [hv, hv', Except.toOption, Option.any_some, Bool.and_eq_true, beq_iff_eq,
    decide_eq_true_eq] at hread
  exact ⟨v, v', hv, hv', hread.2, htally, hsame, hread.1, hlength⟩

end Rules

end TurtleGrammar
