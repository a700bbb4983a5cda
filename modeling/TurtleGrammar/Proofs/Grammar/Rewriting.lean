import TurtleGrammar.Proofs.Grammar.Reading
import TurtleGrammar.Proofs.Word.Brackets

/-! What rewriting does and what it keeps. Each symbol of a word grows into a tree of its own, and
the word some generations later is what stands at the ends of these trees. A property of symbols
that the first word and all replacements have is kept, and so is, where brackets have no rule, the
balance of the first word and all replacements. -/

namespace TurtleGrammar.Rules

variable {rules : Rules} {s : Symbol} {r w : Word}

theorem expand_of_none (h : rules.replacement? s = none) : rules.expand s = [s] := by
  rw [expand, h, Option.getD_none]

theorem expand_of_some (h : rules.replacement? s = some r) : rules.expand s = r := by
  rw [expand, h, Option.getD_some]

section Derivation

/-- What stands at the ends of the tree that a symbol grows into. From each symbol of the tree grow
the symbols of its replacement, or the symbol alone if it has no rule, and where a replacement is
empty the tree ends with nothing. -/
def leaves (rules : Rules) : Nat → Symbol → Word
  | 0, s => [s]
  | k + 1, s =>
    match rules.replacement? s with
    | some r => r.flatMap (rules.leaves k)
    | none => [s].flatMap (rules.leaves k)

variable {m n : Nat} {u v : Word}

theorem leaves_succ : rules.leaves (n + 1) s = (rules.expand s).flatMap (rules.leaves n) := by
  rw [leaves]
  cases h : rules.replacement? s with
  | none => rw [expand_of_none h]
  | some r => rw [expand_of_some h]

/-- The generations of a word one after another come to the trees of its symbols one after another:
the first generation of the word is the first level of all trees. -/
theorem rewrite_eq_leaves : rules.rewrite n w = w.flatMap (rules.leaves n) := by
  induction n generalizing w with
  | zero => simp [rewrite, leaves]
  | succ n ih =>
    calc rules.rewrite (n + 1) w
      _ = (rules.step w).flatMap (rules.leaves n) := by rw [rewrite, ih]
      _ = w.flatMap fun s => (rules.expand s).flatMap (rules.leaves n) := by
        rw [step, List.flatMap_assoc]
      _ = w.flatMap (rules.leaves (n + 1)) := by
        exact List.flatMap_congr fun s _ => leaves_succ.symm

theorem rewrite_append : rules.rewrite n (u ++ v) = rules.rewrite n u ++ rules.rewrite n v := by
  simp only [rewrite_eq_leaves, List.flatMap_append]

theorem rewrite_add : rules.rewrite (m + n) w = rules.rewrite n (rules.rewrite m w) := by
  induction m generalizing w with
  | zero => rw [Nat.zero_add, rewrite]
  | succ m ih => rw [Nat.succ_add, rewrite, ih, rewrite]

theorem generations_of_nat : rules.generations n w = .ok (rules.rewrite n w) := by
  rw [generations, if_neg (Int.not_lt.mpr (Int.natCast_nonneg n)), Int.toNat_natCast]

/-- A word some generations later holds, for each of its symbols in order, what the symbol has grown
into by itself. So two words one after the other can be rewritten apart, and some generations after
others are as many as there are of both. -/
theorem generations_from_symbols (rules : Rules) (m n : Nat) (u v w : Word) :
    rules.generations n w = .ok (w.flatMap (rules.leaves n)) ∧
    rules.generations n (u ++ v) =
      (do pure ((← rules.generations n u) ++ (← rules.generations n v))) ∧
    (rules.generations m w >>= rules.generations n) =
      rules.generations ((m + n : Nat) : Int) w := by
  simp only [generations_of_nat]
  refine ⟨?_, ?_, ?_⟩
  · rw [rewrite_eq_leaves]
  · rw [rewrite_append]
    rfl
  · rw [rewrite_add]
    exact generations_of_nat

/-- What replaces a symbol is not looked at again in the same generation, and a symbol with an empty
replacement vanishes. -/
example :
    (ofList [(.push, [.pop, .push]), (.pop, [])]).generations 2 [.push, .skip, .pop] =
      .ok [.pop, .push, .skip] := by decide

end Derivation

section Symbols

variable {P : Symbol → Prop}
  (hr : ∀ key r, rules.replacement? key = some r → ∀ s ∈ r, P s)
include hr

theorem forall_mem_step (hw : ∀ s ∈ w, P s) : ∀ s ∈ rules.step w, P s := by
  intro s hs
  obtain ⟨a, ha, hs⟩ := List.mem_flatMap.mp hs
  cases h : rules.replacement? a with
  | none =>
    rw [expand_of_none h, List.mem_singleton] at hs
    exact hs ▸ hw a ha
  | some r =>
    rw [expand_of_some h] at hs
    exact hr a r h s hs

theorem forall_mem_rewrite (hw : ∀ s ∈ w, P s) (n : Nat) : ∀ s ∈ rules.rewrite n w, P s := by
  induction n generalizing w with
  | zero => exact hw
  | succ n ih => exact ih (forall_mem_step hr hw)

end Symbols

section Balance

variable (hpush : rules.replacement? .push = none) (hpop : rules.replacement? .pop = none)
  (hr : ∀ key r, rules.replacement? key = some r → r.isBalanced = true)
include hpush hpop hr

theorem isBalanced_step (hw : w.isBalanced = true) : (rules.step w).isBalanced = true := by
  refine Word.closes_flatMap (expand_of_none hpush) (expand_of_none hpop) (fun s hs hs' => ?_) hw
  cases h : rules.replacement? s with
  | none =>
    rw [expand_of_none h, Word.isBalanced, Word.closes_plain hs hs']
    rfl
  | some r =>
    rw [expand_of_some h]
    exact hr s r h

theorem isBalanced_rewrite (hw : w.isBalanced = true) (n : Nat) :
    (rules.rewrite n w).isBalanced = true := by
  induction n generalizing w with
  | zero => exact hw
  | succ n ih => exact ih (isBalanced_step hpush hpop hr hw)

end Balance

end TurtleGrammar.Rules

namespace TurtleGrammar.LSystem

variable {name initial rules : Text} {n : Int} {delta : Float} {s : LSystem}

/-- Tokens are rewritten to tokens, so a system constructed from texts has nothing else in its
word. -/
theorem isToken_of_construct (h : (construct name initial rules n delta).result = .ok s) :
    ∀ a ∈ s.word.toList, a.IsToken := by
  obtain ⟨-, w, r, hparse, hrules, rfl⟩ := construct_eq_ok.mp h
  exact Rules.forall_mem_rewrite (fun _ _ h => (Rules.of_parse hrules h).2)
    (Word.isToken_of_parse hparse) _

theorem reset_not_mem_construct (h : (construct name initial rules n delta).result = .ok s) :
    .reset ∉ s.word.toList :=
  fun hmem => (isToken_of_construct h _ hmem).ne_reset rfl

theorem cursor_of_construct (h : (construct name initial rules n delta).result = .ok s) :
    s.cursor = 0 := by
  obtain ⟨-, w, r, -, -, rfl⟩ := construct_eq_ok.mp h
  rfl

end TurtleGrammar.LSystem
