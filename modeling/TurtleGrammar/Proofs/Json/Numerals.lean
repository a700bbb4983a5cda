import TurtleGrammar.Json.Reader
import TurtleGrammar.Proofs.Number.Shortest

/-! Numerals read back. The reader takes a numeral apart as it was put together, up to the comma or
the line break behind it. The digits of a floating-point number are laid out as a numeral of the same
value. -/

namespace TurtleGrammar.Json

/-- A text goes on as it does behind a value in a document. -/
def FollowsValue (rest : List Char) : Prop := ∃ c after, rest = c :: after ∧ (c = ',' ∨ c = '\n')

/-- A text does not start with a digit. -/
def EndsDigits (rest : List Char) : Prop := ∀ c ∈ rest.head?, Text.isDigit c = false

variable {digits rest : List Char} {c : Char}

theorem FollowsValue.endsDigits (h : FollowsValue rest) : EndsDigits rest := by
  rintro c hc
  obtain ⟨c', after, rfl, rfl | rfl⟩ := h <;> cases hc <;> rfl

theorem spanDigits_append (hdigits : ∀ c ∈ digits, Text.isDigit c = true) (hrest : EndsDigits rest) :
    spanDigits (digits ++ rest) = (digits, rest) := by
  rw [spanDigits, List.span_eq_takeWhile_dropWhile, List.takeWhile_append_of_pos hdigits,
    List.dropWhile_append_of_pos hdigits]
  cases rest with
  | nil => simp
  | cons c rest => simp [hrest c rfl]

theorem signedDigits_exponentText (hrest : EndsDigits rest) (e : Int) :
    signedDigits? (Number.Shortest.exponentText e ++ rest) = some (e, rest) := by
  let padding := List.replicate (2 - (Nat.toDigits 10 e.natAbs).length) '0'
  let digits := padding ++ Nat.toDigits 10 e.natAbs
  have hdigits : ∀ c ∈ digits, Text.isDigit c = true := by
    refine List.forall_mem_append.mpr ⟨fun c hc => ?_, fun c => Text.isDigit_of_mem_toDigits⟩
    rw [List.eq_of_mem_replicate hc]
    rfl
  have hspan := spanDigits_append hdigits hrest
  have hvalue : Text.ofDigits digits = e.natAbs := by
    rw [Text.ofDigits_zeros_append, Text.ofDigits_toDigits]
  have hne : digits.isEmpty = false := by simp [digits, Nat.toDigits_ne_nil]
  have htext : Number.Shortest.exponentText e ++ rest =
      (if e < 0 then '-' else '+') :: (digits ++ rest) := rfl
  rw [htext]
  by_cases he : e < 0
  · have habs : -(e.natAbs : Int) = e := by omega
    simp only [if_pos he, signedDigits?, hspan, hne, hvalue, habs, Bool.false_eq_true, if_false,
      if_true]
  · have habs : (e.natAbs : Int) = e := by omega
    simp only [if_neg he, signedDigits?, hspan, hne, hvalue, habs, Bool.false_eq_true, if_false]

namespace Literal

/-- The characters of a fraction with the point before it. -/
def fractionChars (fraction : List Char) : List Char :=
  if fraction.isEmpty then [] else '.' :: fraction

/-- The characters of an exponent with the letter before it. -/
def exponentChars (exponent : Option Int) : List Char :=
  exponent.elim [] fun e => 'e' :: Number.Shortest.exponentText e

/-- The characters of a numeral without its sign. -/
def chars (l : Literal) : List Char :=
  l.whole ++ (fractionChars l.fraction ++ exponentChars l.exponent)

/-- The digits of a numeral are digits, and it starts with a zero only if that stands alone before
the point. -/
structure IsProper (l : Literal) : Prop where
  start : l.whole = ['0'] ∨ ∃ c rest, l.whole = c :: rest ∧ c ≠ '0'
  whole : ∀ c ∈ l.whole, Text.isDigit c = true
  fraction : ∀ c ∈ l.fraction, Text.isDigit c = true

variable {l : Literal} {exponent : Option Int} {fraction : List Char}

theorem exponentPart_exponentChars (hrest : FollowsValue rest) :
    exponentPart? (exponentChars exponent ++ rest) = exponent.map fun e => (e, rest) := by
  cases exponent with
  | none => obtain ⟨c, after, rfl, rfl | rfl⟩ := hrest <;> rfl
  | some e => exact signedDigits_exponentText hrest.endsDigits e

theorem endsDigits_exponentChars (exponent : Option Int) (hrest : FollowsValue rest) :
    EndsDigits (exponentChars exponent ++ rest) := by
  cases exponent with
  | none => exact hrest.endsDigits
  | some e =>
    rintro c hc
    cases hc
    rfl

theorem fractionPart_fractionChars (hfraction : ∀ c ∈ fraction, Text.isDigit c = true)
    (hrest : EndsDigits rest) (hpoint : rest.head? ≠ some '.') :
    fractionPart (fractionChars fraction ++ rest) = (fraction, rest) := by
  cases fraction with
  | nil =>
    show fractionPart rest = _
    rw [fractionPart.eq_2]
    rintro after rfl
    exact hpoint rfl
  | cons d more =>
    show fractionPart ('.' :: (d :: more ++ rest)) = _
    rw [fractionPart, spanDigits_append hfraction hrest]
    rfl

theorem endsDigits_fractionChars (fraction : List Char) (hrest : EndsDigits rest) :
    EndsDigits (fractionChars fraction ++ rest) := by
  cases fraction with
  | nil => exact hrest
  | cons d more =>
    rintro c hc
    cases hc
    rfl

theorem integerPart_whole (h : l.IsProper) (hrest : EndsDigits rest) :
    integerPart? (l.whole ++ rest) = some (l.whole, rest) := by
  rcases h.start with hzero | ⟨d, more, hwhole, hd⟩
  · rw [hzero]
    rfl
  · have hspan := spanDigits_append h.whole hrest
    rw [hwhole] at hspan ⊢
    rw [integerPart?.eq_2]
    · simp only [hspan, List.isEmpty_cons, Bool.false_eq_true, if_false]
    · rintro after hzero
      exact hd (List.cons.inj hzero).1

/-- A numeral is read as it was put together. -/
theorem readUnsigned_chars (h : l.IsProper) (hrest : FollowsValue rest) :
    readUnsigned? l.negative (l.chars ++ rest) = some (l, rest) := by
  have hexponent := endsDigits_exponentChars l.exponent hrest
  have hpoint : (exponentChars l.exponent ++ rest).head? ≠ some '.' := by
    cases l.exponent with
    | none => obtain ⟨c, after, rfl, rfl | rfl⟩ := hrest <;> simp [exponentChars]
    | some e => simp [exponentChars]
  have hwhole := integerPart_whole h (endsDigits_fractionChars l.fraction hexponent)
  have hfraction := fractionPart_fractionChars h.fraction hexponent hpoint
  rw [chars, List.append_assoc, List.append_assoc, readUnsigned?]
  simp only [hwhole, hfraction, exponentPart_exponentChars hrest, Option.bind_eq_bind,
    Option.bind_some]
  cases l with
  | mk negative whole fraction exponent => cases exponent <;> rfl

/-- A numeral starts with a digit. -/
theorem exists_chars_cons (h : l.IsProper) :
    ∃ c rest, l.chars = c :: rest ∧ Text.isDigit c = true := by
  obtain ⟨c, more, hc⟩ : ∃ c more, l.whole = c :: more := by
    rcases h.start with hzero | ⟨c, more, hwhole, -⟩
    · exact ⟨'0', [], hzero⟩
    · exact ⟨c, more, hwhole⟩
  exact ⟨c, _, by rw [chars, hc, List.cons_append], h.whole c (by simp [hc])⟩

theorem read_chars (h : l.IsProper) (hrest : FollowsValue rest) :
    read? (Number.Fixed.sign l.negative ++ (l.chars ++ rest)) = some (l, rest) := by
  have hread := readUnsigned_chars h hrest
  cases hnegative : l.negative with
  | true => rwa [hnegative] at hread
  | false =>
    obtain ⟨c, more, hchars, hc⟩ := exists_chars_cons h
    rw [hnegative, hchars] at hread
    rw [hchars]
    show read? (c :: (more ++ rest)) = _
    rw [read?.eq_2]
    · exact hread
    · rintro after hafter
      cases hafter
      cases hc

end Literal

/-! ### Digits with a point -/

namespace Literal

variable {negative : Bool} {point : Int}

/-- The decimal fraction that a numeral writes. -/
def decimal (l : Literal) : Number.Shortest.Decimal :=
  ⟨Text.ofDigits (l.whole ++ l.fraction), l.exponent.getD 0 - l.fraction.length⟩

/-- The numeral of some digits with the point at its place. -/
def laidOut (negative : Bool) (digits : List Char) (point : Int) : Literal :=
  if -4 < point ∧ point ≤ 0 then
    ⟨negative, ['0'], List.replicate (-point).toNat '0' ++ digits, none⟩
  else if 0 < point ∧ point ≤ 16 then
    let after := digits.drop point.toNat
    ⟨negative, digits.take point.toNat ++ List.replicate (point.toNat - digits.length) '0',
      if after.isEmpty then ['0'] else after, none⟩
  else ⟨negative, digits.take 1, digits.drop 1, some (point - 1)⟩

theorem layOut_eq_chars (hdigits : digits ≠ []) :
    Number.Shortest.layOut digits point = (laidOut negative digits point).chars := by
  rw [Number.Shortest.layOut, laidOut]
  split
  · simp [chars, fractionChars, exponentChars, hdigits]
  · split
    · simp only [chars, fractionChars, exponentChars]
      split <;> simp_all
    · simp [chars, fractionChars, exponentChars]

theorem laidOut_negative : (laidOut negative digits point).negative = negative := by
  rw [laidOut]
  split
  · rfl
  · split <;> rfl

/-- A numeral with a point or an exponent is a floating-point number. -/
theorem value_laidOut (hdigits : digits ≠ []) :
    (laidOut negative digits point).value = .ok (.float (Number.Binary64.ofDecimal negative
      (laidOut negative digits point).decimal.digits
      (laidOut negative digits point).decimal.exponent)) := by
  have hfloat : ((laidOut negative digits point).fraction.isEmpty &&
      (laidOut negative digits point).exponent.isNone) = false := by
    rw [laidOut]
    split
    · simp [hdigits]
    · split
      · simp only
        split <;> simp_all
      · simp
  rw [value, if_neg (by simp [hfloat]), laidOut_negative]
  rfl

theorem isProper_laidOut (negative : Bool) (point : Int) (hc : c ≠ '0')
    (hdigits : ∀ x ∈ c :: digits, Text.isDigit x = true) :
    (laidOut negative (c :: digits) point).IsProper := by
  have hzeros : ∀ k, ∀ x ∈ List.replicate k '0', Text.isDigit x = true := fun k x hx => by
    rw [List.eq_of_mem_replicate hx]
    rfl
  have hzero : ∀ x ∈ ['0'], Text.isDigit x = true := List.forall_mem_singleton.mpr rfl
  have htake : ∀ k, ∀ x ∈ (c :: digits).take k, Text.isDigit x = true := fun k x hx =>
    hdigits x (List.mem_of_mem_take hx)
  have hdrop : ∀ k, ∀ x ∈ (c :: digits).drop k, Text.isDigit x = true := fun k x hx =>
    hdigits x (List.mem_of_mem_drop hx)
  rw [laidOut]
  split
  · exact ⟨.inl rfl, hzero, List.forall_mem_append.mpr ⟨hzeros _, hdigits⟩⟩
  · split
    · next hpoint =>
      obtain ⟨k, hk⟩ : ∃ k, point.toNat = k + 1 := ⟨point.toNat - 1, by omega⟩
      refine ⟨.inr ⟨c, _, by rw [hk, List.take_succ_cons, List.cons_append], hc⟩,
        List.forall_mem_append.mpr ⟨htake _, hzeros _⟩, ?_⟩
      dsimp only
      split
      · exact hzero
      · exact hdrop _
    · exact ⟨.inr ⟨c, [], rfl, hc⟩, htake 1, hdrop 1⟩

/-- The point stands where it belongs. -/
theorem bits_laidOut (negative : Bool) (point : Int) (hdigits : digits ≠ []) :
    (laidOut negative digits point).decimal.bits =
      Number.Shortest.Decimal.bits ⟨Text.ofDigits digits, point - digits.length⟩ := by
  have hpos := List.length_pos_of_ne_nil hdigits
  rw [laidOut]
  split
  · next hpoint =>
    rw [decimal]
    congr 2
    · show Text.ofDigits (List.replicate 1 '0' ++ (List.replicate _ '0' ++ digits)) = _
      rw [Text.ofDigits_zeros_append, Text.ofDigits_zeros_append]
    · simp only [List.length_append, List.length_replicate, Option.getD_none]
      omega
  · split
    · next hpoint =>
      by_cases hlength : digits.length ≤ point.toNat
      · -- the digits are all before the point, and zeros stand in for those that are not there
        have hafter : digits.drop point.toNat = [] := List.drop_eq_nil_of_le hlength
        have hdecimal : Text.ofDigits
            ((digits ++ List.replicate (point.toNat - digits.length) '0') ++ List.replicate 1 '0') =
            Text.ofDigits digits * 10 ^ (point.toNat - digits.length + 1) := by
          rw [Text.ofDigits_append_zeros, Text.ofDigits_append_zeros, Nat.mul_assoc, ← Nat.pow_add]
        simp only [decimal, hafter, List.isEmpty_nil, if_true, List.take_of_length_le hlength]
        show Number.Shortest.Decimal.bits ⟨Text.ofDigits (_ ++ List.replicate 1 '0'), _⟩ = _
        rw [hdecimal, Number.Shortest.Decimal.bits_shift]
        congr 2
        simp
        omega
      · have hafter : (digits.drop point.toNat).isEmpty = false := by
          rw [List.isEmpty_eq_false_iff]
          exact List.drop_eq_nil_iff.not.mpr hlength
        have hpadding : point.toNat - digits.length = 0 := by omega
        simp only [decimal, hafter, hpadding, Bool.false_eq_true, if_false, List.replicate_zero,
          List.append_nil, List.take_append_drop, List.length_drop, Option.getD_none]
        congr 2
        omega
    · simp only [decimal, List.take_append_drop, List.length_drop, Option.getD_some]
      congr 2
      omega

end Literal

end TurtleGrammar.Json
