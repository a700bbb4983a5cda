import TurtleGrammar.Json.Reader
import TurtleGrammar.Json.Writer
import TurtleGrammar.Proofs.Text.Surrogates

/-! Strings read back. Each character of a string without surrogates is read from the escape, or the
character itself, that it is written as. -/

namespace TurtleGrammar

namespace Text

/-- The characters that a text is shown as. -/
def shownChars (t : Text) : List Char := t.map CodePoint.shown

variable {s t : Text} {p : CodePoint}

theorem shownChars_nil : shownChars [] = [] := rfl

@[simp] theorem shownChars_append : shownChars (s ++ t) = shownChars s ++ shownChars t :=
  List.map_append

@[simp] theorem shownChars_ofChars (chars : List Char) : shownChars (ofChars chars) = chars := by
  rw [shownChars, ofChars, List.map_map]
  exact List.map_id _

@[simp] theorem shownChars_ofString (s : String) : shownChars (ofString s) = s.toList :=
  shownChars_ofChars s.toList

theorem exists_scalar_of_surrogates (h : surrogates (p :: t) = []) :
    (∃ c, p = .scalar c) ∧ surrogates t = [] := by
  cases p with
  | scalar c => exact ⟨⟨c, rfl⟩, h⟩
  | surrogate x => cases h

end Text

namespace Json

variable {opening rest : List Char} {c d : Char}

/-- The digits of a control character give back its code point. -/
theorem codeUnit_hexadecimal :
    ∀ n < 0x20,
      Text.hexadecimal 4 n = ['0', '0', Nat.digitChar (n / 16), Nat.digitChar (n % 16)] ∧
        codeUnit? '0' '0' (Nat.digitChar (n / 16)) (Nat.digitChar (n % 16)) = some n := by
  decide

/-- A character is read from what it is written as. -/
theorem readNext_escapeChar :
    readNext opening (escapeChar c ++ d :: rest) = .ok (some (.scalar c), d :: rest) := by
  by_cases hshort : c ∈ ['"', '\\', '\n', '\r', '\t', '\x08', '\x0c']
  · simp only [List.mem_cons, List.not_mem_nil, or_false] at hshort
    rcases hshort with rfl | rfl | rfl | rfl | rfl | rfl | rfl <;> rfl
  simp only [List.mem_cons, List.not_mem_nil, or_false, not_or] at hshort
  obtain ⟨hquote, hslash, hfeed, hreturn, htab, hback, hform⟩ := hshort
  by_cases hcontrol : c.toNat < 0x20
  · obtain ⟨hdigits, hunit⟩ := codeUnit_hexadecimal c.toNat hcontrol
    generalize Nat.digitChar (c.toNat / 16) = high at hdigits hunit
    generalize Nat.digitChar (c.toNat % 16) = low at hdigits hunit
    have hescape : escapeChar c = ['\\', 'u', '0', '0', high, low] := by
      simp [escapeChar, hquote, hslash, hfeed, hreturn, htab, hback, hform, hcontrol, hdigits]
    have hhigh : isHigh c.toNat = false := by
      rw [isHigh, Bool.and_eq_false_iff]
      exact .inl (decide_eq_false (by omega))
    have hpoint : Text.CodePoint.ofUnit c.toNat = .scalar c := by
      rw [Text.CodePoint.ofUnit, dif_neg (by omega), Char.ofNat_toNat]
    rw [hescape]
    show (readEscape opening ('u' :: '0' :: '0' :: high :: low :: d :: rest) >>= fun r =>
      pure (some r.1, r.2)) = _
    simp only [readEscape, hunit, pairUp, hhigh, hpoint]
    rfl
  · have hself : escapeChar c = [c] := by
      simp [escapeChar, hquote, hslash, hfeed, hreturn, htab, hback, hform, hcontrol]
    rw [hself, List.singleton_append, readNext.eq_4]
    · rw [if_neg hcontrol]
    · exact hquote
    · exact hslash

/-- The characters between the quotes of a string. -/
def innerChars (s : Text) : List Char := Text.shownChars (s.flatMap escapeCodePoint)

/-- The characters of a string with its quotes. -/
def stringChars (s : Text) : List Char := '"' :: (innerChars s ++ ['"'])

@[simp] theorem shownChars_stringText (s : Text) :
    Text.shownChars (stringText s) = stringChars s := by
  simp [Text.shownChars, stringText, stringChars, innerChars, Text.CodePoint.shown]

variable {s done : Text} {fuel : Nat}

theorem stringChars_append : stringChars s ++ rest = '"' :: (innerChars s ++ '"' :: rest) := by
  simp [stringChars]

theorem innerChars_scalar : innerChars (.scalar c :: s) = escapeChar c ++ innerChars s := by
  simp [innerChars, escapeCodePoint]

/-- A string is read on up to the quote at its end. -/
theorem readString_innerChars (hs : Text.surrogates s = []) (hfuel : s.length < fuel) :
    readString opening fuel done (innerChars s ++ '"' :: rest) = .ok (done.reverse ++ s, rest) := by
  induction s generalizing fuel done with
  | nil =>
    obtain ⟨fuel, rfl⟩ := Nat.exists_eq_succ_of_ne_zero (by omega : fuel ≠ 0)
    rw [List.append_nil]
    rfl
  | cons p s ih =>
    obtain ⟨fuel, rfl⟩ := Nat.exists_eq_succ_of_ne_zero (by omega : fuel ≠ 0)
    obtain ⟨⟨c, rfl⟩, hs⟩ := Text.exists_scalar_of_surrogates hs
    obtain ⟨d, after, hafter⟩ : ∃ d after, innerChars s ++ '"' :: rest = d :: after :=
      List.exists_cons_of_ne_nil (by simp)
    have hread : readString opening fuel (.scalar c :: done) (innerChars s ++ '"' :: rest) =
        .ok ((.scalar c :: done).reverse ++ s, rest) := ih hs (by simpa using hfuel)
    rw [hafter] at hread
    rw [innerChars_scalar, List.append_assoc, hafter, readString, readNext_escapeChar]
    show readString opening fuel (.scalar c :: done) (d :: after) = _
    rw [hread, List.reverse_cons, List.append_assoc]
    rfl

theorem length_le_innerChars (hs : Text.surrogates s = []) : s.length ≤ (innerChars s).length := by
  induction s with
  | nil => exact Nat.le_refl 0
  | cons p s ih =>
    obtain ⟨⟨c, rfl⟩, hs⟩ := Text.exists_scalar_of_surrogates hs
    have hpos : 0 < (escapeChar c).length := by
      unfold escapeChar
      repeat' split
      all_goals simp
    have := ih hs
    rw [innerChars_scalar, List.length_append, List.length_cons]
    omega

end Json

end TurtleGrammar
