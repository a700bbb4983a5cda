import TurtleGrammar.Proofs.Grammar.RulePrinting
import TurtleGrammar.Proofs.Grammar.Rewriting
import TurtleGrammar.Proofs.Stage.Sharing

/-! The words of systems that are constructed from texts. They hold nothing but tokens, so they can
be written and read back, and a reset that a system gives always stands for the end of its word. As
no replacement that is read is empty, no symbol vanishes, and a word is as long as all before it. -/

namespace TurtleGrammar

/-! ### Rules without empty replacements -/

namespace Rules

variable {rules : Rules} {w : Word} {m n : Nat}

theorem ne_nil_of_parse {text : Text} (h : (Rules.parse text).result = .ok rules) :
    ∀ key r, rules.replacement? key = some r → r ≠ [] := by
  intro key r hr
  obtain ⟨-, -, hne, -⟩ := isWritable_of_parse h _ (mem_of_replacement hr)
  exact hne

section NoVanishing

variable (hr : ∀ key r, rules.replacement? key = some r → r ≠ [])
include hr

theorem expand_ne_nil (s : Symbol) : rules.expand s ≠ [] := by
  cases h : rules.replacement? s with
  | none =>
    rw [expand_of_none h]
    exact List.cons_ne_nil s []
  | some r =>
    rw [expand_of_some h]
    exact hr s r h

theorem length_le_length_step (w : Word) : w.length ≤ (rules.step w).length := by
  induction w with
  | nil => exact Nat.le_refl 0
  | cons s w ih =>
    have hs := List.length_pos_of_ne_nil (expand_ne_nil hr s)
    calc (s :: w).length
      _ ≤ (rules.expand s).length + (rules.step w).length := by
        rw [List.length_cons]
        omega
      _ = (rules.step (s :: w)).length := List.length_append.symm

theorem length_le_length_rewrite (n : Nat) (w : Word) : w.length ≤ (rules.rewrite n w).length := by
  induction n generalizing w with
  | zero => exact Nat.le_refl _
  | succ n ih => exact Nat.le_trans (length_le_length_step hr w) (ih _)

theorem length_rewrite_mono (h : m ≤ n) (w : Word) :
    (rules.rewrite m w).length ≤ (rules.rewrite n w).length := by
  obtain ⟨k, rfl⟩ := Nat.exists_eq_add_of_le h
  rw [rewrite_add]
  exact length_le_length_rewrite hr k _

end NoVanishing

theorem rewrite_nil : rules.rewrite n [] = [] := by rw [rewrite_eq_leaves, List.flatMap_nil]

theorem rewrite_eq_nil_iff (hr : ∀ key r, rules.replacement? key = some r → r ≠ []) :
    rules.rewrite n w = [] ↔ w = [] := by
  constructor
  · intro h
    have hlength := length_le_length_rewrite hr n w
    rw [h] at hlength
    exact List.length_eq_zero_iff.mp (Nat.le_zero.mp hlength)
  · rintro rfl
    exact rewrite_nil

end Rules

/-! ### Words that are read -/

theorem Word.eq_nil_iff_of_parse {text : Text} {line column : Int} {w : Word}
    (h : Word.parse text line column = .ok w) : w = [] ↔ text.IsBlank := by
  rw [Word.eq_nil_iff_of_writtenIn (Word.parse_eq_ok_iff.mp h), Text.nonblanks_eq_nil_iff]

/-! ### Systems -/

namespace LSystem

variable {s : LSystem}

/-- A system constructed from texts that are read has a word of tokens, without a reset, which is
written and read back as it is. With more generations the word is no shorter, and it is empty just
when the first text is blank. So of the symbols that the system gives, those that are resets are
given at the end of the word, and no others. -/
theorem constructed_word_is_read (name initial rules : Text) (delta : Float) {w : Word} {r : Rules}
    (hw : Word.parse initial 1 1 = .ok w) (hr : (Rules.parse rules).result = .ok r) (n : Nat) :
    ∃ s, (construct name initial rules n delta).result = .ok s ∧
      (∀ a ∈ s.word.toList, a.IsToken) ∧ .reset ∉ s.word.toList ∧
      (∀ line column,
        Word.parse (Text.ofString (Word.text s.word.toList)) line column = .ok s.word.toList) ∧
      (∀ (m : Nat) (t : LSystem), n ≤ m → (construct name initial rules m delta).result = .ok t →
        s.word.size ≤ t.word.size) ∧
      (s.word.size = 0 ↔ initial.IsBlank) ∧
      ∀ k, (advance^[k] s).cursor = k % (s.word.size + 1) ∧
        ((advance^[k] s).peek = .reset ↔ (advance^[k] s).cursor = s.word.size) := by
  have hne := Rules.ne_nil_of_parse hr
  have hconstruct (m : Nat) : (construct name initial rules m delta).result =
      .ok ⟨⟨name, w, r, m, delta⟩, (r.rewrite m w).toArray, 0, Nat.zero_le _⟩ :=
    construct_eq_ok.mpr ⟨Int.natCast_nonneg m, w, r, hw, hr, rfl⟩
  have htokens := isToken_of_construct (hconstruct n)
  have hreset := reset_not_mem_construct (hconstruct n)
  refine ⟨_, hconstruct n, htokens, hreset, fun line column => ?_, fun m t hm ht => ?_, ?_,
    fun k => ⟨?_, ?_⟩⟩
  · exact Word.parse_text fun s hs => Symbol.isToken_iff.mp (htokens s hs)
  · cases ht.symm.trans (hconstruct m)
    simpa using Rules.length_rewrite_mono hne hm w
  · rw [List.size_toArray, List.length_eq_zero_iff, Rules.rewrite_eq_nil_iff hne,
      Word.eq_nil_iff_of_parse hw]
  · rw [cursor_iterate, length_round, Nat.zero_add]
  · rw [peek_eq_reset_iff (by rwa [word_iterate]), word_iterate]

/-- Rules on three lines, with a blank line among them, of which the last changes the first. -/
def shootRules : Text := "X => F [+X]\n\nF=>FF\nX => F[+X] -X"

/-- A shoot with an open bracket, in its second generation. -/
def shoot : Outcome Refusal LSystem := construct "shoot" " X\t[ f" shootRules (2 : Nat) 0.5

theorem shoot_is_read :
    ∃ s, shoot.result = .ok s ∧ s.word.size = 22 ∧
      Word.parse (Text.ofString (Word.text s.word.toList)) 1 1 = .ok s.word.toList ∧
      ∀ k, (advance^[k] s).peek = .reset ↔ (advance^[k] s).cursor = s.word.size := by
  have hw : Word.parse " X\t[ f" 1 1 = .ok [.forward (.ofAlpha 'X' rfl), .push, .skip] := by decide
  have hread : (Rules.parse shootRules).result.isOk = true := by decide
  have hsize : shoot.result.toOption.any (·.word.size == 22) = true := by decide
  cases hr : (Rules.parse shootRules).result with
  | error e =>
    rw [hr] at hread
    cases hread
  | ok r =>
    obtain ⟨s, hs, -, -, htext, -, -, hrounds⟩ :=
      constructed_word_is_read "shoot" " X\t[ f" shootRules 0.5 hw hr 2
    have hshoot : shoot.result = .ok s := hs
    rw [hshoot] at hsize
    exact ⟨s, hshoot, by simpa [Except.toOption] using hsize, htext 1 1, fun k => (hrounds k).2⟩

end LSystem

end TurtleGrammar
