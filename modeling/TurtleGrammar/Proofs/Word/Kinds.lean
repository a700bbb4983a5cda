import Mathlib.Algebra.BigOperators.Group.List.Basic
import Mathlib.Algebra.GroupWithZero.Nat
import TurtleGrammar.Word

/-! The kinds of the symbols in a word. Every symbol is of one kind, so the counts of the kinds that
occur come to the length of the word, and a kind that does not occur is not among them. -/

namespace TurtleGrammar.Word

variable {s : Symbol} {w : Word} {k : Kind}

theorem count_cons : Word.count (s :: w) k = w.count k + if s.kind = k then 1 else 0 := by
  simp [Word.count, List.countP_cons]

/-- A symbol that is the only one of its kind is counted with its kind. -/
theorem count_kind (h : ∀ a : Symbol, a.kind = s.kind → a = s) :
    w.count s.kind = List.count s w := by
  rw [Word.count, List.count_eq_countP]
  refine List.countP_congr fun a _ => ?_
  have hiff : a.kind = s.kind ↔ a = s := ⟨h a, congrArg Symbol.kind⟩
  simp [hiff]

theorem count_push : w.count .push = List.count .push w :=
  count_kind (s := .push) fun a ha => by
    cases a with
    | push => rfl
    | _ => cases ha

theorem count_pop : w.count .pop = List.count .pop w :=
  count_kind (s := .pop) fun a ha => by
    cases a with
    | pop => rfl
    | _ => cases ha

/-! ### The kinds that occur -/

theorem sum_filter_pos (counts : List (Kind × Nat)) :
    ((counts.filter (0 < ·.2)).map Prod.snd).sum = (counts.map Prod.snd).sum := by
  induction counts with
  | nil => rfl
  | cons entry counts ih =>
    by_cases h : 0 < entry.2
    · simp [h, ih]
    · have hzero : entry.2 = 0 := by omega
      simp [hzero, ih]

theorem sum_counts : (Kind.all.map fun k => w.count k).sum = w.length := by
  induction w with
  | nil => rfl
  | cons s w ih =>
    have hone : (Kind.all.map fun k => if s.kind = k then 1 else 0).sum = 1 := by
      cases s.kind <;> rfl
    simp only [count_cons, List.sum_map_add]
    rw [ih, hone, List.length_cons]

/-- The counts of the kinds that occur come to the length of the word. -/
theorem sum_kindCounts : (w.kindCounts.map Prod.snd).sum = w.length := by
  rw [kindCounts, sum_filter_pos, List.map_map]
  exact sum_counts

theorem lookup_filter_pos {f : Kind → Nat} {kinds : List Kind} (hf : 0 < f k) (h : k ∈ kinds) :
    ((kinds.map fun k => (k, f k)).filter (0 < ·.2)).lookup k = some (f k) := by
  induction kinds with
  | nil => cases h
  | cons a kinds ih =>
    by_cases ha : k = a
    · subst ha
      simp [hf]
    · have hrest := ih ((List.mem_cons.mp h).resolve_left ha)
      have hne : (k == a) = false := beq_false_of_ne ha
      by_cases hpos : 0 < f a <;> simp [hpos, List.lookup_cons, hne, hrest]

theorem lookup_filter_zero {f : Kind → Nat} {kinds : List Kind} (hf : f k = 0) :
    ((kinds.map fun k => (k, f k)).filter (0 < ·.2)).lookup k = none := by
  rw [List.lookup_eq_none_iff]
  intro entry hentry
  obtain ⟨hmem, hpos⟩ := List.mem_filter.mp hentry
  obtain ⟨a, -, rfl⟩ := List.mem_map.mp hmem
  have hne : k ≠ a := by
    rintro rfl
    simp [hf] at hpos
  exact bne_iff_ne.mpr hne

/-- A kind that is not among those that occur has the count zero. -/
theorem lookup_kindCounts : (w.kindCounts.lookup k).getD 0 = w.count k := by
  rcases Nat.eq_zero_or_pos (w.count k) with hzero | hpos
  · rw [kindCounts, lookup_filter_zero hzero, Option.getD_none, hzero]
  · rw [kindCounts, lookup_filter_pos hpos k.mem_all, Option.getD_some]

end TurtleGrammar.Word
