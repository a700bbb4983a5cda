import TurtleGrammar.Json.Writer
import TurtleGrammar.Proofs.Json.Numerals

/-! Words and numbers read back. Integers come back as integers unless they are too long, in which
case they are refused, and every floating-point number comes back as the same one. -/

namespace TurtleGrammar.Json

variable {text rest : List Char} {c : Char} {result : Except Fault Value}

/-- A text is a word or a numeral with its sign, and this is the value of it, if it has one. -/
inductive Spells : List Char → Except Fault Value → Prop
  | word {w : List Char × Value} (h : w ∈ words) : Spells w.1 (.ok w.2)
  | numeral {l : Literal} (proper : l.IsProper) :
    Spells (Number.Fixed.sign l.negative ++ l.chars) l.value

/-! ### Reading -/

/-- No word has a digit in the first two places. -/
theorem words_start :
    ∀ w ∈ words, 2 ≤ w.1.length ∧ ∀ d ∈ w.1.take 2, Text.isDigit d = false := by
  simp [words, Text.isDigit]

/-- No word starts with a digit or with a sign and a digit. -/
theorem readWord_of_digit {negative : Bool} (hc : Text.isDigit c = true) :
    readWord? (Number.Fixed.sign negative ++ c :: rest) = none := by
  rw [readWord?, Option.map_eq_none_iff, List.find?_eq_none]
  intro w hw hprefix
  obtain ⟨after, hafter⟩ := List.isPrefixOf_iff_prefix.mp hprefix
  obtain ⟨hlength, hstart⟩ := words_start w hw
  have hmem : c ∈ (w.1 ++ after).take 2 := by
    rw [hafter]
    cases negative <;> simp [Number.Fixed.sign]
  rw [List.take_append_of_le_length hlength] at hmem
  cases hc.symm.trans (hstart c hmem)

/-- No word is the start of another one. -/
theorem words_apart : words.Pairwise fun a b => ¬a.1 <+: b.1 ∧ ¬b.1 <+: a.1 := by
  simp [words]

/-- Among words of which none is the start of another, the one that a text starts with is found. -/
theorem find_word {table : List (List Char × Value)} {w : List Char × Value}
    (htable : table.Pairwise fun a b => ¬a.1 <+: b.1 ∧ ¬b.1 <+: a.1) (hw : w ∈ table)
    (rest : List Char) :
    table.find? (fun a => a.1.isPrefixOf (w.1 ++ rest)) = some w := by
  induction table with
  | nil => cases hw
  | cons first table ih =>
    obtain ⟨hfirst, htable⟩ := List.pairwise_cons.mp htable
    rcases List.mem_cons.mp hw with rfl | hw
    · exact List.find?_cons_of_pos (List.isPrefixOf_iff_prefix.mpr (List.prefix_append _ _))
    · rw [List.find?_cons_of_neg, ih htable hw]
      intro hprefix
      obtain ⟨hnot, hnot'⟩ := hfirst w hw
      rcases List.prefix_or_prefix_of_prefix (List.isPrefixOf_iff_prefix.mp hprefix)
        (List.prefix_append _ _) with h | h
      · exact hnot h
      · exact hnot' h

theorem Spells.readScalar (h : Spells text result) (hrest : FollowsValue rest) :
    Json.readScalar (text ++ rest) = result.map fun v => (v, rest) := by
  cases h with
  | @word w hw =>
    have hfind := find_word words_apart hw rest
    have hread : readWord? (w.1 ++ rest) = some (w.2, rest) := by
      rw [readWord?, Option.map_eq_some_iff]
      exact ⟨w, hfind, by simp⟩
    rw [Json.readScalar, hread]
    rfl
  | @numeral l proper =>
    obtain ⟨c, more, hchars, hc⟩ := Literal.exists_chars_cons proper
    have hword : readWord? (Number.Fixed.sign l.negative ++ (l.chars ++ rest)) = none := by
      rw [hchars]
      exact readWord_of_digit hc
    rw [List.append_assoc, Json.readScalar, hword]
    simp only [Literal.read_chars proper hrest]
    cases l.value <;> rfl

/-! ### Characters -/

/-- The characters that words and numerals start with. -/
def isStart (c : Char) : Bool := Text.isDigit c || ['-', 'n', 't', 'f', 'N', 'I'].contains c

theorem Spells.exists_cons (h : Spells text result) :
    ∃ c more, text = c :: more ∧ isStart c = true := by
  cases h with
  | @word w hw =>
    have hall : ∀ w ∈ words, ∃ c more, w.1 = c :: more ∧ isStart c = true := by
      simp [words, isStart]
    exact hall w hw
  | @numeral l proper =>
    obtain ⟨c, more, hchars, hc⟩ := Literal.exists_chars_cons proper
    rw [hchars]
    cases l.negative with
    | true => exact ⟨'-', c :: more, rfl, rfl⟩
    | false => exact ⟨c, more, rfl, by simp [isStart, hc]⟩

/-- No part of a word or of a numeral is a carriage return. -/
theorem Spells.return_not_mem (h : Spells text result) : '\r' ∉ text := by
  have hdigits : ∀ digits : List Char, (∀ c ∈ digits, Text.isDigit c = true) → '\r' ∉ digits :=
    fun digits hall hmem => by cases hall _ hmem
  cases h with
  | @word w hw =>
    have hall : ∀ w ∈ words, '\r' ∉ w.1 := by simp [words]
    exact hall w hw
  | @numeral l proper =>
    have hsign : '\r' ∉ Number.Fixed.sign l.negative := by
      cases l.negative <;> simp [Number.Fixed.sign]
    have hfraction : '\r' ∉ Literal.fractionChars l.fraction := by
      rw [Literal.fractionChars]
      split
      · simp
      · simp [hdigits _ proper.fraction]
    have hexponent : '\r' ∉ Literal.exponentChars l.exponent := by
      cases l.exponent with
      | none => simp [Literal.exponentChars]
      | some e =>
        have hdigits := hdigits _ fun c (hc : c ∈ Nat.toDigits 10 e.natAbs) =>
          Text.isDigit_of_mem_toDigits hc
        simp only [Literal.exponentChars, Option.elim_some, Number.Shortest.exponentText]
        split <;> simp [hdigits, List.mem_replicate]
    simp [Literal.chars, hsign, hdigits _ proper.whole, hfraction, hexponent]

/-! ### Integers -/

theorem toList_toString_int (i : Int) :
    (toString i).toList = Number.Fixed.sign (decide (i < 0)) ++ Nat.toDigits 10 i.natAbs := by
  cases i with
  | ofNat n => exact Nat.toList_repr
  | negSucc n =>
    have htext : toString (Int.negSucc n) = "-" ++ Nat.repr (n + 1) := rfl
    simp [htext, Number.Fixed.sign, Int.negSucc_lt_zero]

/-- The numeral of an integer. -/
def integerLiteral (i : Int) : Literal := ⟨decide (i < 0), Nat.toDigits 10 i.natAbs, [], none⟩

/-- An integer is spelled by its digits. -/
theorem spells_int (i : Int) : Spells (toString i).toList (integerLiteral i).value := by
  have hproper : (integerLiteral i).IsProper := by
    refine ⟨?_, fun c => Text.isDigit_of_mem_toDigits, by simp [integerLiteral]⟩
    by_cases hzero : i.natAbs = 0
    · refine .inl ?_
      rw [integerLiteral, hzero, Nat.toDigits_zero]
    · exact .inr (Text.exists_toDigits_cons hzero)
  have hchars : (integerLiteral i).chars = Nat.toDigits 10 i.natAbs := List.append_nil _
  rw [toList_toString_int, ← hchars]
  exact .numeral hproper

/-- An integer that is too long is refused for the number of its digits. -/
theorem value_integerLiteral (i : Int) :
    (integerLiteral i).value =
      if i.natAbs < 10 ^ Number.maxDigits then .ok (.int i)
      else .error (.tooManyDigits (Nat.toDigits 10 i.natAbs).length) := by
  have hinteger :
      ((integerLiteral i).fraction.isEmpty && (integerLiteral i).exponent.isNone) = true := rfl
  have hlength : (integerLiteral i).whole.length ≤ Number.maxDigits ↔
      i.natAbs < 10 ^ Number.maxDigits := Nat.length_toDigits_le_iff (by decide) (by decide)
  have hsign : (if i < 0 then -(i.natAbs : Int) else i.natAbs) = i := by
    split <;> omega
  rw [Literal.value, if_pos hinteger]
  simp only [hlength]
  simp only [integerLiteral, Text.ofDigits_toDigits, decide_eq_true_eq, hsign]

/-! ### Words and floating-point numbers -/

theorem spells_null : Spells "null".toList (.ok .null) := .word (.head _)

theorem spells_bool (b : Bool) : Spells (if b then "true" else "false").toList (.ok (.bool b)) := by
  cases b with
  | true => exact .word (.tail _ (.head _))
  | false => exact .word (.tail _ (.tail _ (.head _)))

theorem spells_notANumber : Spells spelling.nan (.ok (.float Number.Binary64.notANumber)) :=
  .word (.tail _ (.tail _ (.tail _ (.head _))))

theorem spells_infinity (negative : Bool) :
    Spells (Number.Fixed.sign negative ++ spelling.infinity)
      (.ok (.float (Number.Binary64.infinity negative))) := by
  cases negative with
  | false => exact .word (.tail _ (.tail _ (.tail _ (.tail _ (.head _)))))
  | true => exact .word (.tail _ (.tail _ (.tail _ (.tail _ (.tail _ (.head _))))))

theorem spells_zero (negative : Bool) :
    Spells (Number.Fixed.sign negative ++ "0.0".toList)
      (.ok (.float (Number.Binary64.signed negative 0))) := by
  let l : Literal := ⟨negative, ['0'], ['0'], none⟩
  have hzero : ∀ x ∈ ['0'], Text.isDigit x = true := List.forall_mem_singleton.mpr rfl
  have hvalue : l.value = .ok (.float (Number.Binary64.signed negative 0)) :=
    congrArg (fun x => Except.ok (Value.float x)) Number.Shortest.ofDecimal_zero
  exact hvalue ▸ .numeral (l := l) ⟨.inl rfl, hzero, hzero⟩

open Number in
/-- The shortest numeral of a positive number of units spells the number of these units. -/
theorem spells_units {negative : Bool} {units : Nat} (hunits : units ≠ 0)
    (hfinite : Binary64.nearestBits units 1 < Binary64.overflowBits) :
    Spells (Fixed.sign negative ++ Shortest.layOut (Shortest.significant (Shortest.find units)).1
        (Shortest.significant (Shortest.find units)).2)
      (.ok (.float (Binary64.signed negative (Binary64.nearestBits units 1)))) := by
  have hbits := Shortest.Decimal.readsAs_iff.mp (Shortest.find_readsAs units)
  have hpos : 0 < Binary64.nearestBits units 1 := Binary64.nearestBits_pos (by rwa [Nat.div_one])
  have hfind : (Shortest.find units).digits ≠ 0 := fun hzero =>
    hpos.ne' (hbits.symm.trans (Shortest.Decimal.bits_zero hzero))
  obtain ⟨c, digits, hdigits, hc, hall, hvalue⟩ := Shortest.significant_spec hfind
  generalize (Shortest.significant (Shortest.find units)).2 = point at *
  have hlaid := Literal.bits_laidOut negative point (List.cons_ne_nil c digits)
  rw [hvalue, hbits] at hlaid
  have hspells := Spells.numeral
    (Literal.isProper_laidOut negative point hc hall)
  rwa [Literal.value_laidOut (List.cons_ne_nil c digits), Literal.laidOut_negative,
    ← Literal.layOut_eq_chars (List.cons_ne_nil c digits),
    Shortest.ofDecimal_eq (hlaid ▸ hpos.ne') (hlaid ▸ hfinite), hlaid, ← hdigits] at hspells

/-- Every floating-point number is spelled by what it is written as. -/
theorem spells_float (x : Float) : Spells (Number.Shortest.write spelling x) (.ok (.float x)) := by
  rcases Number.Binary64.ofFloat_cases x with ⟨hcase, hx⟩ | ⟨negative, hcase, hx⟩ |
    ⟨negative, units, hcase, hfinite, hx⟩
  · rw [Number.Shortest.write, hcase, hx]
    exact spells_notANumber
  · rw [Number.Shortest.write, hcase, hx]
    exact spells_infinity negative
  · by_cases hunits : units = 0
    · subst hunits
      rw [Number.Shortest.write, hcase, hx, Number.Binary64.nearestBits_of_small (by decide)]
      exact spells_zero negative
    · rw [Number.Shortest.write_of_finite hcase hunits, hx]
      exact spells_units hunits hfinite

end TurtleGrammar.Json
