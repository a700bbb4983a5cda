import Mathlib.Data.List.TakeDrop
import Mathlib.Data.List.TakeWhile
import TurtleGrammar.Json.Reader
import TurtleGrammar.Proofs.Outcome.Ends

/-! The one text that is JSON and is not read: one in which more digits than are read stand side by
side. Each part of the reader leaves an end of the text it was given, so the digits that it finds
too many are digits of the whole text. -/

namespace TurtleGrammar.Json

/-- Somewhere in a text `n` digits stand side by side. -/
def HasDigits (n : Nat) (text : List Char) : Prop :=
  ∃ digits, digits <:+: text ∧ digits.length = n ∧ ∀ c ∈ digits, Text.isDigit c = true

/-- A fault that has its reason in a text: too many digits are found only where they are. -/
def Fault.IsIn (text : List Char) : Fault → Prop
  | .malformed .. => True
  | .tooManyDigits n => Number.maxDigits < n ∧ HasDigits n text

/-- What reads a text leaves an end of it, or finds a fault that has its reason in it. -/
def Reads {α : Type} (text : List Char) (x : Except Fault (α × List Char)) : Prop :=
  Ends (Fault.IsIn text) (fun r => r.2 <:+ text) x

variable {α β : Type} {text rest : List Char} {c : Char} {a : α}

theorem HasDigits.of_suffix {n : Nat} (h : HasDigits n rest) (hs : rest <:+ text) :
    HasDigits n text := by
  obtain ⟨digits, hin, hlength, hdigits⟩ := h
  exact ⟨digits, hin.trans hs.isInfix, hlength, hdigits⟩

theorem Fault.IsIn.of_suffix {fault : Fault} (h : fault.IsIn rest) (hs : rest <:+ text) :
    fault.IsIn text := by
  cases fault with
  | malformed => trivial
  | tooManyDigits n => exact ⟨h.1, h.2.of_suffix hs⟩

namespace Reads

theorem of_suffix {x : Except Fault (α × List Char)} (h : Reads rest x) (hs : rest <:+ text) :
    Reads text x :=
  Ends.mono h (fun _ hf => hf.of_suffix hs) fun _ hr => hr.trans hs

theorem bind {x : Except Fault (α × List Char)} {f : α × List Char → Except Fault (β × List Char)}
    (hx : Reads text x) (hf : ∀ a rest, Reads rest (f (a, rest))) : Reads text (x >>= f) :=
  Ends.bind hx fun r hr => (hf r.1 r.2).of_suffix hr

theorem ok (hs : rest <:+ text) : Reads text (.ok (a, rest)) := hs

theorem malformed {cause : Cause} :
    Reads (α := α) text (.error (.malformed cause rest)) := trivial

end Reads

theorem skipSpace_suffix (text : List Char) : skipSpace text <:+ text :=
  List.dropWhile_suffix _

/-! ### Strings -/

theorem suffix_of_secondUnit {unit : Option Nat} (h : secondUnit? text = some (unit, rest)) :
    rest <:+ text := by
  unfold secondUnit? at h
  split at h
  · cases h
    exact ⟨['\\', 'u', _, _, _, _], rfl⟩
  · cases h

theorem reads_pairUp (unit : Nat) (text : List Char) : Reads text (pairUp unit text) := by
  unfold pairUp
  split
  · split
    · exact .malformed
    · next h =>
      split
      · exact .ok (suffix_of_secondUnit h)
      · exact .ok List.suffix_rfl
    · exact .ok List.suffix_rfl
  · exact .ok List.suffix_rfl

theorem reads_readEscape (opening text : List Char) : Reads text (readEscape opening text) := by
  unfold readEscape
  split
  · exact .malformed
  · split
    · exact (reads_pairUp _ _).of_suffix ⟨['u', _, _, _, _], rfl⟩
    · exact .malformed
  · exact .malformed
  · split
    · exact .ok (List.suffix_cons _ _)
    · exact .malformed

theorem reads_readNext (opening text : List Char) : Reads text (readNext opening text) := by
  unfold readNext
  split
  · exact .malformed
  · exact .ok (List.suffix_cons _ _)
  · refine Reads.bind ((reads_readEscape _ _).of_suffix (List.suffix_cons _ _)) fun c rest => ?_
    exact .ok List.suffix_rfl
  · split
    · exact .malformed
    · exact .ok (List.suffix_cons _ _)

theorem reads_readString (opening : List Char) (fuel : Nat) (done : Text) (text : List Char) :
    Reads text (readString opening fuel done text) := by
  induction fuel generalizing done text with
  | zero => exact .malformed
  | succ fuel ih =>
    refine Reads.bind (reads_readNext opening text) fun next rest => ?_
    cases next with
    | some c => exact ih _ rest
    | none => exact .ok List.suffix_rfl

/-! ### Numbers -/

theorem spanDigits_eq {digits : List Char} (h : spanDigits text = (digits, rest)) :
    text = digits ++ rest ∧ ∀ c ∈ digits, Text.isDigit c = true := by
  rw [spanDigits, List.span_eq_takeWhile_dropWhile] at h
  cases h
  exact ⟨List.takeWhile_append_dropWhile.symm, fun c hc => List.mem_takeWhile_imp hc⟩

theorem integerPart_eq {digits : List Char} (h : integerPart? text = some (digits, rest)) :
    text = digits ++ rest ∧ ∀ c ∈ digits, Text.isDigit c = true := by
  unfold integerPart? at h
  split at h
  · cases h
    exact ⟨rfl, List.forall_mem_singleton.mpr rfl⟩
  · simp only at h
    split at h
    · cases h
    · cases h
      exact spanDigits_eq rfl

theorem suffix_of_fractionPart (text : List Char) : (fractionPart text).2 <:+ text := by
  unfold fractionPart
  split
  · next rest =>
    simp only
    split
    · exact List.suffix_rfl
    · refine List.IsSuffix.trans ?_ (List.suffix_cons '.' rest)
      exact ⟨_, (spanDigits_eq rfl).1.symm⟩
  · exact List.suffix_rfl

theorem suffix_of_signedDigits {n : Int} (h : signedDigits? text = some (n, rest)) :
    rest <:+ text := by
  have hdigits : ∀ (unsigned : List Char) (i : Int),
      (if (spanDigits unsigned).1.isEmpty then none
        else some (i, (spanDigits unsigned).2)) = some (n, rest) → rest <:+ unsigned := by
    intro unsigned i hi
    split at hi
    · cases hi
    · cases hi
      exact ⟨_, (spanDigits_eq rfl).1.symm⟩
  simp only [signedDigits?] at h
  split at h
  · exact (hdigits _ _ h).trans (List.suffix_cons _ _)
  · exact (hdigits _ _ h).trans (List.suffix_cons _ _)
  · exact hdigits _ _ h

theorem suffix_of_exponentPart {n : Int} (h : exponentPart? text = some (n, rest)) :
    rest <:+ text := by
  unfold exponentPart? at h
  split at h
  · exact (suffix_of_signedDigits h).trans (List.suffix_cons _ _)
  · exact (suffix_of_signedDigits h).trans (List.suffix_cons _ _)
  · cases h

theorem readUnsigned_eq {negative : Bool} {l : Literal}
    (h : Literal.readUnsigned? negative text = some (l, rest)) :
    rest <:+ text ∧ l.whole <:+: text ∧ ∀ c ∈ l.whole, Text.isDigit c = true := by
  rw [Literal.readUnsigned?, Option.bind_eq_bind, Option.bind_eq_some_iff] at h
  obtain ⟨⟨whole, after⟩, hwhole, h⟩ := h
  obtain ⟨htext, hdigits⟩ := integerPart_eq hwhole
  have hafter : (fractionPart after).2 <:+ text :=
    (suffix_of_fractionPart after).trans ⟨whole, htext.symm⟩
  have hin : whole <:+: text := ⟨[], after, htext.symm⟩
  simp only at h
  split at h
  · next hexponent =>
    cases h
    exact ⟨(suffix_of_exponentPart hexponent).trans hafter, hin, hdigits⟩
  · cases h
    exact ⟨hafter, hin, hdigits⟩

theorem literal_read_eq {l : Literal} (h : Literal.read? text = some (l, rest)) :
    rest <:+ text ∧ l.whole <:+: text ∧ ∀ c ∈ l.whole, Text.isDigit c = true := by
  unfold Literal.read? at h
  split at h
  · next unsigned =>
    obtain ⟨hrest, hwhole, hdigits⟩ := readUnsigned_eq h
    have hs := List.suffix_cons '-' unsigned
    exact ⟨hrest.trans hs, hwhole.trans hs.isInfix, hdigits⟩
  · exact readUnsigned_eq h

theorem literal_value_ends (l : Literal) :
    Ends (fun fault => fault = .tooManyDigits l.whole.length ∧ Number.maxDigits < l.whole.length)
      (fun _ => True) l.value := by
  unfold Literal.value
  split
  · split
    · trivial
    · next h => exact ⟨rfl, Nat.lt_of_not_le h⟩
  · trivial

/-! ### Values -/

theorem reads_readScalar (text : List Char) : Reads text (readScalar text) := by
  unfold readScalar
  split
  · next read h =>
    obtain ⟨⟨word, value⟩, -, rfl⟩ := Option.map_eq_some_iff.mp h
    exact .ok (List.drop_suffix _ _)
  · split
    · next l rest h =>
      obtain ⟨hrest, hwhole, hdigits⟩ := literal_read_eq h
      refine Ends.bind (Ends.mono (literal_value_ends l) ?_ fun _ h => h) fun _ _ => hrest
      rintro _ ⟨rfl, hmany⟩
      exact ⟨hmany, l.whole, hwhole, rfl, hdigits⟩
    · exact .malformed

theorem suffix_of_skipSpace (h : skipSpace text = c :: rest) : rest <:+ text :=
  (List.suffix_cons c rest).trans (h ▸ skipSpace_suffix text)

theorem reads_parts (fuel : Nat) :
    (∀ text, Reads text (readValue fuel text)) ∧
      (∀ done text, Reads text (readItems fuel done text)) ∧
        ∀ done text, Reads text (readMembers fuel done text) := by
  induction fuel with
  | zero => exact ⟨fun _ => .malformed, fun _ _ => .malformed, fun _ _ => .malformed⟩
  | succ fuel ih =>
    obtain ⟨hvalue, hitems, hmembers⟩ := ih
    refine ⟨fun text => ?_, fun done text => ?_, fun done text => ?_⟩
    · unfold readValue
      split
      · refine Reads.bind ((reads_readString _ _ _ _).of_suffix (List.suffix_cons _ _)) ?_
        exact fun s rest => .ok List.suffix_rfl
      · refine Reads.of_suffix ?_ (List.suffix_cons _ _)
        split
        · next h => exact .ok (suffix_of_skipSpace h)
        · exact (hitems _ _).of_suffix (skipSpace_suffix _)
      · refine Reads.of_suffix ?_ (List.suffix_cons _ _)
        split
        · next h => exact .ok (suffix_of_skipSpace h)
        · exact (hmembers _ _).of_suffix (skipSpace_suffix _)
      · exact reads_readScalar text
    · unfold readItems
      refine Reads.bind (hvalue text) fun v rest => ?_
      simp only
      split
      · next h => exact .ok (suffix_of_skipSpace h)
      · next h =>
        exact ((hitems _ _).of_suffix (skipSpace_suffix _)).of_suffix (suffix_of_skipSpace h)
      · exact .malformed
    · unfold readMembers
      split
      · refine Reads.of_suffix ?_ (List.suffix_cons _ _)
        refine Reads.bind (reads_readString _ _ _ _) fun name rest => ?_
        simp only
        split
        · next h =>
          refine Reads.of_suffix ?_ (suffix_of_skipSpace h)
          refine Reads.bind ((hvalue _).of_suffix (skipSpace_suffix _)) fun v rest => ?_
          simp only
          split
          · next h => exact .ok (suffix_of_skipSpace h)
          · next h =>
            exact ((hmembers _ _).of_suffix (skipSpace_suffix _)).of_suffix (suffix_of_skipSpace h)
          · exact .malformed
        · exact .malformed
      · exact .malformed

/-- Too many digits are found only in a text that has them side by side. -/
theorem hasDigits_of_read {n : Nat} (h : read text = .error (.tooManyDigits n)) :
    Number.maxDigits < n ∧ HasDigits n text := by
  unfold read at h
  split at h
  · cases h
  · have hvalue := (reads_parts (2 * text.length + 2)).1 (skipSpace text)
    split at h
    · next fault hfault =>
      rw [hfault] at hvalue
      have hin : fault.IsIn text := Fault.IsIn.of_suffix hvalue (skipSpace_suffix text)
      cases fault with
      | malformed => cases h
      | tooManyDigits =>
        cases h
        exact hin
    · split at h <;> cases h

end TurtleGrammar.Json
