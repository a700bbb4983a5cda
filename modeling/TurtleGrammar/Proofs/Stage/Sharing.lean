import Mathlib.Data.List.Forall2
import Mathlib.Data.List.Induction
import Mathlib.Logic.Function.Iterate
import TurtleGrammar.Proofs.Stage.Acts

/-! A system that many share. Whoever takes its symbols, and whatever else happens in between, they
are given out in the order of the word, each once in every round, and after the last of them comes
the reset. -/

namespace TurtleGrammar

/-! ### The rounds of a system -/

namespace LSystem

/-- What a system gives in one round. -/
def round (s : LSystem) : Word := s.word.toList ++ [.reset]

variable {s : LSystem} {n : Nat}

theorem length_round : s.round.length = s.word.size + 1 := by
  rw [round, List.length_append, Array.length_toList, List.length_singleton]

theorem round_cursor : s.round[s.cursor]? = some s.peek := by
  rw [round, peek]
  by_cases h : s.cursor < s.word.size
  · rw [List.getElem?_append_left (by simpa using h), Array.getElem?_toList,
      Array.getElem?_eq_getElem h, Option.getD_some]
  · have hend : s.cursor = s.word.size := Nat.le_antisymm s.cursor_le (Nat.le_of_not_lt h)
    rw [hend, List.getElem?_append_right (by simp), Array.length_toList, Nat.sub_self,
      Array.getElem?_eq_none (Nat.le_refl _)]
    rfl

theorem cursor_advance : s.advance.cursor = (s.cursor + 1) % s.round.length := by
  have hle := s.cursor_le
  rw [advance, length_round]
  split
  · rw [Nat.mod_eq_of_lt (by omega)]
  · rw [show s.cursor = s.word.size by omega, Nat.mod_self]

theorem word_iterate : (advance^[n] s).word = s.word := by
  induction n with
  | zero => rfl
  | succ n ih => rw [Function.iterate_succ_apply', advance_word, ih]

theorem definition_iterate : (advance^[n] s).definition = s.definition := by
  induction n with
  | zero => rfl
  | succ n ih => rw [Function.iterate_succ_apply', advance_definition, ih]

theorem round_iterate : (advance^[n] s).round = s.round := by
  rw [round, word_iterate, round]

theorem cursor_iterate : (advance^[n] s).cursor = (s.cursor + n) % s.round.length := by
  induction n with
  | zero =>
    have hlt : s.cursor < s.round.length := by
      rw [length_round]
      exact Nat.lt_succ_of_le s.cursor_le
    exact (Nat.mod_eq_of_lt hlt).symm
  | succ n ih =>
    rw [Function.iterate_succ_apply', cursor_advance, round_iterate, ih, Nat.mod_add_mod,
      Nat.add_assoc]

theorem round_peek_iterate :
    s.round[(s.cursor + n) % s.round.length]? = some (advance^[n] s).peek := by
  rw [← cursor_iterate, ← round_iterate (n := n), round_cursor]

end LSystem

/-! ### The acts on a shared system -/

namespace Stage

open LSystem (advance)

variable {stage : Stage} {k : Nat} {s : LSystem} {acts : List Act}

/-- After some acts a system has gone on by as many symbols as were taken from it, and each of them
went to whoever took it. -/
theorem serves_acts (hs : stage.systems[k]? = some s) (acts : List Act) :
    (stage.afterActs acts).systems[k]? = some (advance^[(stage.takings k acts).length] s) ∧
      ∀ i (hi : i < (stage.takings k acts).length),
        (stage.takings k acts)[i].Receives (advance^[i] s).peek s.definition.delta := by
  induction acts using List.reverseRecOn with
  | nil => exact ⟨hs, fun i hi => absurd hi (Nat.not_lt_zero i)⟩
  | append_singleton acts act ih =>
    obtain ⟨hsystem, hreceives⟩ := ih
    rw [afterActs, Moment.final_concat]
    rcases Scene.serves (x := ⟨stage.afterActs acts, act⟩) hsystem with
      ⟨htakes, hafter, hnext⟩ | ⟨hspares, hafter⟩
    · have htakings : stage.takings k (acts ++ [act]) =
          stage.takings k acts ++ [⟨stage.afterActs acts, act⟩] := by
        rw [takings_concat, List.filter_cons, if_pos htakes, List.filter_nil]
      refine ⟨?_, fun i hi => ?_⟩
      · rw [hafter, htakings, List.length_append, List.length_singleton,
          Function.iterate_succ_apply']
      · simp only [htakings, List.length_append, List.length_singleton] at hi
        rcases Nat.lt_succ_iff_lt_or_eq.mp hi with hi | rfl
        · simpa only [htakings, List.getElem_append_left hi] using hreceives i hi
        · rw [LSystem.definition_iterate] at hnext
          simpa only [htakings, List.getElem_concat_length] using hnext
    · have htakings : stage.takings k (acts ++ [act]) = stage.takings k acts := by
        rw [takings_concat, List.filter_cons, if_neg (by simp [hspares]), List.filter_nil,
          List.append_nil]
      rw [htakings]
      exact ⟨hafter, hreceives⟩

theorem receives_takings_iff (hs : stage.systems[k]? = some s) {i : Nat}
    (hi : i < (stage.takings k acts).length) {a : Symbol} :
    (stage.takings k acts)[i].Receives a s.definition.delta ↔
      s.round[(s.cursor + i) % s.round.length]? = some a := by
  have hreceives := (serves_acts hs acts).2 i hi
  rw [LSystem.round_peek_iterate, Option.some.injEq]
  constructor
  · exact Scene.eq_of_receives hreceives
  · rintro rfl
    exact hreceives

/-- In a round that is complete each symbol went to one act, in the order of the word. -/
theorem receives_round (hs : stage.systems[k]? = some s) {n : Nat}
    (hstart : s.cursor ≤ n * s.round.length)
    (hstop : (n + 1) * s.round.length ≤ s.cursor + (stage.takings k acts).length) :
    List.Forall₂ (fun x a => x.Receives a s.definition.delta)
      (((stage.takings k acts).drop (n * s.round.length - s.cursor)).take s.round.length)
      s.round := by
  rw [Nat.succ_mul] at hstop
  refine List.forall₂_of_length_eq_of_get ?_ fun i hi hi' => ?_
  · rw [List.length_take, List.length_drop]
    omega
  · have hplace : s.cursor + (n * s.round.length - s.cursor + i) = i + n * s.round.length := by
      omega
    simp only [List.get_eq_getElem, List.getElem_take, List.getElem_drop]
    rw [receives_takings_iff hs, hplace, Nat.add_mul_mod_self_right, Nat.mod_eq_of_lt hi',
      List.getElem?_eq_getElem hi']

/-- Whoever takes the symbols of a shared system and whatever fails in between, the system keeps its
word and stays in it, the symbols are given out one after another as the rounds go, a look shows the
one that is next, nothing but a taking moves the cursor, and in a complete round each symbol goes to
one act. -/
theorem shared_system_serves_in_turn (hs : stage.systems[k]? = some s) (acts : List Act) :
    let takings := stage.takings k acts
    (∃ s', (stage.afterActs acts).systems[k]? = some s' ∧ s'.word = s.word ∧
      s'.definition = s.definition ∧ s'.cursor ≤ s.word.size ∧
      s'.cursor = (s.cursor + takings.length) % s.round.length) ∧
    (∀ i (hi : i < takings.length) (a : Symbol),
      takings[i].Receives a s.definition.delta ↔
        s.round[(s.cursor + i) % s.round.length]? = some a) ∧
    (∃ a, Scene.answer? ⟨stage.afterActs acts, .look k⟩ = some (.shown a) ∧
      s.round[(s.cursor + takings.length) % s.round.length]? = some a ∧
      ∀ next, Scene.takes ⟨stage.afterActs acts, next⟩ k = true →
        Scene.Receives ⟨stage.afterActs acts, next⟩ a s.definition.delta) ∧
    (∀ x ∈ stage.scenes acts,
      (x.takes k = false → x.after.systems[k]? = x.before.systems[k]?) ∧
      ((∃ j, x.act = .look j) ∨ (∃ e, x.answer? = some (.failed e)) → x.after = x.before)) ∧
    ∀ n, s.cursor ≤ n * s.round.length →
      (n + 1) * s.round.length ≤ s.cursor + takings.length →
      List.Forall₂ (fun x a => x.Receives a s.definition.delta)
        ((takings.drop (n * s.round.length - s.cursor)).take s.round.length) s.round := by
  intro takings
  obtain ⟨hsystem, -⟩ := serves_acts hs acts
  refine ⟨⟨_, hsystem, LSystem.word_iterate, LSystem.definition_iterate, ?_,
    LSystem.cursor_iterate⟩, fun i hi a => receives_takings_iff hs hi,
    ⟨_, Scene.answer_of_look rfl hsystem, LSystem.round_peek_iterate, fun next hnext => ?_⟩,
    fun x hx => ⟨fun hspares => ?_, ?_⟩, fun n => receives_round hs⟩
  · exact Nat.le_trans (LSystem.cursor_le _)
      (Nat.le_of_eq (congrArg Array.size LSystem.word_iterate))
  · rcases Scene.serves (x := ⟨stage.afterActs acts, next⟩) hsystem with
      ⟨-, -, hreceives⟩ | ⟨hspares, -⟩
    · rwa [LSystem.definition_iterate] at hreceives
    · cases hnext.symm.trans hspares
  · obtain ⟨done, hdone⟩ : ∃ done, x.before = stage.afterActs done :=
      Moment.exists_final_of_mem_history hx
    have hbefore := (serves_acts hs done).1
    rw [← hdone] at hbefore
    rcases Scene.serves hbefore with ⟨htakes, -⟩ | ⟨-, hafter⟩
    · cases htakes.symm.trans hspares
    · rw [hafter, hbefore]
  · rintro (⟨j, hlook⟩ | ⟨e, hfailed⟩)
    · exact Scene.after_of_look hlook
    · exact Scene.after_of_failed hfailed

/-- The system of `f]`, its first symbol taken. -/
def surplus : LSystem :=
  { definition :=
      { name := [], initial := [.skip, .pop], rules := Rules.empty, generations := 0, delta := 0.5 }
    word := #[.skip, .pop]
    cursor := 1
    cursor_le := by decide }

/-- Two turtles on one system, the second of them with a frame pushed and played by a player. -/
def pair : Stage :=
  { systems := [surplus]
    turtles := [Turtle.atOrigin, Turtle.atOrigin.push]
    players := [⟨1, 0, ⟨0.0, 0.0⟩, 0.0⟩] }

/-- The first turtle cannot pop, the second can, and neither can in the next round. -/
def quarrel : List Act :=
  [.tick 0 0, .look 0, .play 0, .take 0, .tick 0 0, .tick 0 0, .play 0, .take 0, .take 0]

theorem round_shared_by_pair :
    pair.systems[0]? = some surplus ∧ (pair.takings 0 quarrel).length = 5 ∧
    (∃ s', (pair.afterActs quarrel).systems[0]? = some s' ∧ s'.cursor = 0) ∧
    List.Forall₂ (fun x a => x.Receives a 0.5) ((pair.takings 0 quarrel).drop 2)
      [.skip, .pop, .reset] := by
  have hlength : (pair.takings 0 quarrel).length = 5 := by decide
  obtain ⟨⟨s', hs', -, -, -, hcursor⟩, -, -, -, hround⟩ :=
    shared_system_serves_in_turn (show pair.systems[0]? = some surplus from rfl) quarrel
  refine ⟨rfl, hlength, ⟨s', hs', ?_⟩, ?_⟩
  · rw [hcursor, hlength]
    rfl
  · have h := hround 1 (by decide) (by rw [hlength]; decide)
    rwa [List.take_of_length_le (by rw [List.length_drop, hlength]; decide)] at h

end Stage

end TurtleGrammar
