import Mathlib.Logic.Function.Iterate
import TurtleGrammar.Proofs.Grammar.Rewriting
import TurtleGrammar.Proofs.Playback.Ticks
import TurtleGrammar.Proofs.Turtle.Alike

/-! Balanced grammars. If a grammar rewrites letters only, and its first word and its replacements
are balanced, so is the word of every generation. A new turtle that plays such a word keeps as many
frames as the rest of the word closes, in every pass, so it never lacks one. -/

namespace TurtleGrammar

namespace Playback

/-- The playback after one more tick, which leaves it as it was if it fails. -/
def attempt (p : Playback) : Playback :=
  match p.tick with
  | .ok (_, q) => q
  | .error _ => p

/-- The word is balanced and has no reset, and the rest of it closes the frames of the turtle. -/
structure Balanced (p : Playback) : Prop where
  plain : .reset ∉ p.system.word.toList
  whole : Word.isBalanced p.system.word.toList = true
  closes : p.system.rest.closes p.turtle.branches.length = true

variable {p q : Playback} {d : Option Segment}

theorem balanced_start {s : LSystem} (hcursor : s.cursor = 0) (hplain : .reset ∉ s.word.toList)
    (hwhole : Word.isBalanced s.word.toList = true) (step : StepLength) (origin : Point)
    (heading : Float) : Balanced ⟨Turtle.start step origin heading, s⟩ where
  plain := hplain
  whole := hwhole
  closes := by
    rw [LSystem.rest_of_start hcursor]
    exact hwhole

/-- A tick changes neither the word nor its balance. -/
theorem Balanced.next (h : p.Balanced) {u : Turtle}
    (hcloses : p.system.advance.rest.closes u.branches.length = true) :
    Balanced ⟨u, p.system.advance⟩ where
  plain := by
    rw [LSystem.advance_word]
    exact h.plain
  whole := by
    rw [LSystem.advance_word]
    exact h.whole
  closes := hcloses

/-- A tick of a balanced playback takes a symbol that the frames cover. -/
theorem Balanced.tick (h : p.Balanced) :
    p.tick = .error .noDirection ∨ ∃ d q, p.tick = .ok (d, q) ∧ q.Balanced := by
  cases hr : p.system.rest with
  | nil =>
    -- The reset drops all branches, and the rest is the whole word again.
    obtain ⟨d, ht, -⟩ := tick_of_ok (u := p.turtle.reset) (p := p)
      (by rw [LSystem.peek_of_nil hr]; rfl)
    refine .inr ⟨d, _, ht, h.next ?_⟩
    rw [LSystem.rest_advance_of_nil hr]
    exact h.whole
  | cons s w =>
    have hpeek := LSystem.peek_of_cons hr
    have hmem : s ∈ p.system.word.toList :=
      List.mem_of_mem_drop (show s ∈ p.system.rest by simp [hr])
    have hs : s ≠ .reset := fun he => h.plain (he ▸ hmem)
    have hcloses := h.closes
    rw [hr] at hcloses
    have hc := (Word.closes_iff.mp hcloses).1
    rcases (Turtle.Alike.refl (Nat.le_refl _)).update hs hc.singleton
      p.system.definition.delta with ⟨he, -⟩ | ⟨u, _, _, hu, -⟩
    · exact .inl (tick_of_error (hpeek ▸ he))
    · obtain ⟨d, ht, -⟩ := tick_of_ok (hpeek ▸ hu)
      obtain ⟨-, -, -, hlength⟩ := Turtle.update_keeps hs hu
      refine .inr ⟨d, _, ht, h.next ?_⟩
      rw [LSystem.rest_advance_of_cons hr]
      exact Word.closes_tail hlength hcloses

theorem Balanced.attempt (h : p.Balanced) : p.attempt.Balanced := by
  rw [Playback.attempt]
  rcases h.tick with he | ⟨d, q, ht, hq⟩
  · rw [he]
    exact h
  · rw [ht]
    exact hq

theorem Balanced.iterate (h : p.Balanced) (n : Nat) : (Playback.attempt^[n] p).Balanced := by
  induction n generalizing p with
  | zero => exact h
  | succ n ih => exact ih h.attempt

theorem Balanced.depth_eq (h : p.Balanced)
    (hcursor : p.system.cursor = 0 ∨ p.system.cursor = p.system.word.size) :
    p.turtle.depth = 1 := by
  have hcloses := h.closes
  rw [Word.closes_iff] at hcloses
  rcases hcursor with hstart | hend
  · rw [LSystem.rest_of_start hstart] at hcloses
    have := (Word.isBalanced_iff.mp h.whole).2
    rw [Turtle.depth]
    omega
  · rw [LSystem.rest_eq_nil_iff.mpr hend] at hcloses
    have := hcloses.2
    simp only [List.count_nil] at this
    rw [Turtle.depth]
    omega

/-- A system constructed from balanced texts, with a new turtle. -/
theorem balanced_construct {name initial rules : Text} {n : Int} {delta : Float} {s : LSystem}
    (hs : (LSystem.construct name initial rules n delta).result = .ok s)
    (hw : s.definition.initial.isBalanced = true)
    (hr : ∀ key r, s.definition.rules.replacement? key = some r → r.isBalanced = true)
    (step : StepLength) (origin : Point) (heading : Float) :
    Balanced ⟨Turtle.start step origin heading, s⟩ := by
  have hplain := LSystem.reset_not_mem_construct hs
  obtain ⟨-, w, r, hparse, hrules, rfl⟩ := LSystem.construct_eq_ok.mp hs
  obtain ⟨hpush, hpop⟩ := Rules.replacement_bracket hrules
  exact balanced_start rfl hplain (Rules.isBalanced_rewrite hpush hpop hr hw _) step origin heading

/-- Rules that are read leave brackets alone. Rules that do, and replace by balanced words, keep the
balance of a word in every generation. So a new turtle that alone plays a system constructed from
balanced texts never lacks a frame, in however many ticks, and at either end of the word only its
base frame is left. -/
theorem balanced_grammar_never_underflows :
    (∀ (text : Text) (rules : Rules), (Rules.parse text).result = .ok rules →
      rules.replacement? .push = none ∧ rules.replacement? .pop = none) ∧
    (∀ (rules : Rules) (w : Word),
      rules.replacement? .push = none → rules.replacement? .pop = none → w.isBalanced = true →
      (∀ key r, rules.replacement? key = some r → r.isBalanced = true) →
      ∀ n : Int, 0 ≤ n → ∃ v, rules.generations n w = .ok v ∧ v.isBalanced = true) ∧
    ∀ (name initial rules : Text) (n : Int) (delta : Float) (s : LSystem),
      (LSystem.construct name initial rules n delta).result = .ok s →
      s.definition.initial.isBalanced = true →
      (∀ key r, s.definition.rules.replacement? key = some r → r.isBalanced = true) →
      ∀ (step : StepLength) (origin : Point) (heading : Float) (ticks : Nat),
        let p := attempt^[ticks] ⟨Turtle.start step origin heading, s⟩
        p.tick ≠ .error .underflow ∧
        (p.system.cursor = 0 ∨ p.system.cursor = p.system.word.size → p.turtle.depth = 1) := by
  refine ⟨fun _ _ h => Rules.replacement_bracket h, ?_, ?_⟩
  · intro rules w hpush hpop hw hr n hn
    exact ⟨_, Rules.generations_eq_ok.mpr ⟨hn, rfl⟩, Rules.isBalanced_rewrite hpush hpop hr hw _⟩
  · intro name initial rules n delta s hs hw hr step origin heading ticks
    have hlater := (balanced_construct hs hw hr step origin heading).iterate ticks
    refine ⟨fun he => ?_, hlater.depth_eq⟩
    rcases hlater.tick with hd | ⟨d, q, ht, -⟩
    · cases he.symm.trans hd
    · cases he.symm.trans ht

/-- A twig that puts out a branch between its halves, in its second generation. -/
def twig : Outcome Refusal LSystem :=
  LSystem.construct (Text.ofString "twig") (Text.ofString "F") (Text.ofString "F => F[+F]F") 2 0.5

theorem twig_never_underflows :
    ∃ s, twig.result = .ok s ∧ s.word.size = 21 ∧
      ∀ ticks : Nat, (attempt^[ticks] ⟨Turtle.atOrigin, s⟩).tick ≠ .error .underflow := by
  have hread : twig.result.toOption.any (fun s => s.definition.initial.isBalanced &&
      s.definition.rules.entries.all (fun entry => Word.isBalanced entry.2) &&
      s.word.size == 21) = true := by decide
  cases hs : twig.result with
  | error e => simp [hs, Except.toOption] at hread
  | ok s =>
    simp only [hs, Except.toOption, Option.any_some, Bool.and_eq_true, List.all_eq_true,
      beq_iff_eq] at hread
    obtain ⟨⟨hw, hr⟩, hsize⟩ := hread
    refine ⟨s, rfl, hsize, fun ticks => ?_⟩
    exact (balanced_grammar_never_underflows.2.2 _ _ _ _ _ s hs hw
      (fun key r h => hr (key, r) (Rules.mem_of_replacement h)) _ _ _ ticks).1

end Playback

end TurtleGrammar
