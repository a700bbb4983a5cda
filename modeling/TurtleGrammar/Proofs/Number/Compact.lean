import TurtleGrammar.Proofs.Number.Decimals
import TurtleGrammar.Proofs.Text.Digits

/-! Compact numerals are exact. The numeral of a finite floating-point number is read as its exact
value rounded to the decimals asked for, in the one form that such a value has. -/

namespace TurtleGrammar.Number

/-! ### The values of decimal numerals -/

namespace Decimal

/-- The number that digits write, if there is a digit and nothing else. -/
def digits? (digits : List Char) : Option Nat :=
  if digits ≠ [] ∧ digits.all Text.isDigit then some (Text.ofDigits digits) else none

/-- The value of a numeral without a sign: digits, or digits and a point and digits. -/
def unsigned? (numeral : List Char) : Option ℚ :=
  match numeral.dropWhile Text.isDigit with
  | [] => (digits? numeral).map fun whole => whole
  | '.' :: fraction =>
    (digits? (numeral.takeWhile Text.isDigit)).bind fun whole =>
      (digits? fraction).map fun part => whole + part / 10 ^ fraction.length
  | _ => none

/-- The value of a decimal numeral, which may have a minus in front. -/
def value? : List Char → Option ℚ
  | '-' :: numeral => (unsigned? numeral).map fun v => -v
  | numeral => unsigned? numeral

variable {whole fraction : List Char}

theorem digits?_eq_some (hne : whole ≠ []) (h : ∀ c ∈ whole, Text.isDigit c) :
    digits? whole = some (Text.ofDigits whole) :=
  if_pos ⟨hne, List.all_eq_true.mpr h⟩

theorem unsigned?_whole (hne : whole ≠ []) (h : ∀ c ∈ whole, Text.isDigit c) :
    unsigned? whole = some (Text.ofDigits whole : ℚ) := by
  rw [unsigned?, List.dropWhile_eq_nil_iff.mpr h, digits?_eq_some hne h]
  rfl

theorem unsigned?_fraction (hwhole : whole ≠ []) (h : ∀ c ∈ whole, Text.isDigit c)
    (hfraction : fraction ≠ []) (h' : ∀ c ∈ fraction, Text.isDigit c) :
    unsigned? (whole ++ '.' :: fraction) =
      some (Text.ofDigits whole + Text.ofDigits fraction / 10 ^ fraction.length : ℚ) := by
  have hpoint : Text.isDigit '.' = false := by decide
  have htake : (whole ++ '.' :: fraction).takeWhile Text.isDigit = whole := by
    rw [List.takeWhile_append_of_pos h, List.takeWhile_cons, hpoint]
    simp
  have hdrop : (whole ++ '.' :: fraction).dropWhile Text.isDigit = '.' :: fraction := by
    rw [List.dropWhile_append_of_pos h, List.dropWhile_cons, hpoint]
    rfl
  simp only [unsigned?, hdrop, htake, digits?_eq_some hwhole h, digits?_eq_some hfraction h']
  rfl

end Decimal

namespace Fixed

variable {places n : Nat}

/-! ### The digits on both sides of the point -/

theorem split_before (places n : Nat) :
    (split places n).1 = Nat.toDigits 10 (n / 10 ^ places) := rfl

theorem split_after_length (places n : Nat) : (split places n).2.length = places := by
  rw [split, Nat.pow_eq]
  split
  · next h => rw [h]; rfl
  · next h =>
    have hlength : (Nat.toDigits 10 (n % 10 ^ places)).length ≤ places :=
      (Nat.length_toDigits_le_iff (by decide) (Nat.pos_of_ne_zero h)).mpr
        (Nat.mod_lt _ (Nat.pow_pos (by decide)))
    rw [List.length_append, List.length_replicate]
    omega

theorem isDigit_of_mem_split_after {c : Char} (h : c ∈ (split places n).2) : Text.isDigit c := by
  rw [split] at h
  split at h
  · cases h
  · rcases List.mem_append.mp h with h | h
    · rw [List.eq_of_mem_replicate h]
      decide
    · exact Text.isDigit_of_mem_toDigits h

theorem ofDigits_split_after (places n : Nat) :
    Text.ofDigits (split places n).2 = n % 10 ^ places := by
  rw [split, Nat.pow_eq]
  split
  · next h => rw [h, Nat.pow_zero, Nat.mod_one]; rfl
  · rw [Text.ofDigits_zeros_append, Text.ofDigits_toDigits]

end Fixed

namespace Compact

variable {places : Nat} {numeral front digits : List Char}

/-! ### The form of a compact numeral -/

/-- The digits behind the point, and no point without them. -/
def fraction (digits : List Char) : List Char := if digits = [] then [] else '.' :: digits

/-- The compact numeral, without a sign, of so many units of the last decimal. -/
def unsigned (places n : Nat) : List Char :=
  (Fixed.split places n).1 ++ fraction ((Fixed.split places n).2.rdropWhile (· == '0'))

/-- The compact numeral of a whole number of units of the last decimal. -/
def ofCount (places : Nat) (count : Int) : List Char :=
  Fixed.sign (count < 0) ++ unsigned places count.natAbs

theorem trim_eq (h : '.' ∈ numeral) :
    trim numeral = (numeral.rdropWhile (· == '0')).rdropWhile (· == '.') := by
  rw [trim, List.contains_iff_mem.mpr h, if_pos rfl, List.rdropWhile, List.rdropWhile,
    List.reverse_reverse]

theorem rdropWhile_zeros (l : List Char) (k : Nat) :
    (l ++ List.replicate k '0').rdropWhile (· == '0') = l.rdropWhile (· == '0') := by
  induction k with
  | zero => rw [List.replicate_zero, List.append_nil]
  | succ k ih =>
    rw [List.replicate_succ', ← List.append_assoc, List.rdropWhile_concat_pos _ _ _ (by rfl), ih]

theorem rdropWhile_concat_of_ne {c d : Char} (h : d ≠ c) (l : List Char) :
    (l ++ [d]).rdropWhile (· == c) = l ++ [d] :=
  List.rdropWhile_concat_neg (· == c) l d (by simpa using h)

theorem ne_point {c : Char} (h : Text.isDigit c) : c ≠ '.' := by
  rintro rfl
  revert h
  decide

/-- Cutting keeps what stands before the point, and the digits behind it without the zeros at the
end. -/
theorem trim_append {last : Char} (hlast : Text.isDigit last) (h : ∀ c ∈ digits, Text.isDigit c) :
    trim (front ++ [last] ++ '.' :: digits) =
      front ++ [last] ++ fraction (digits.rdropWhile (· == '0')) := by
  obtain ⟨k, hk⟩ := Text.exists_append_zeros digits
  have hzeros : (front ++ [last] ++ '.' :: digits).rdropWhile (· == '0') =
      (front ++ [last] ++ '.' :: digits.rdropWhile (· == '0')).rdropWhile (· == '0') := by
    rw [← rdropWhile_zeros (front ++ [last] ++ '.' :: digits.rdropWhile (· == '0')) k,
      List.append_assoc _ _ (List.replicate k '0'), List.cons_append, ← hk]
  rw [trim_eq (by simp), hzeros]
  rcases List.eq_nil_or_concat (digits.rdropWhile (· == '0')) with hnil | ⟨most, c, hc⟩
  · rw [hnil, fraction, if_pos rfl, List.append_nil, rdropWhile_concat_of_ne (by decide),
      List.rdropWhile_concat_pos (· == '.') _ _ (by rfl),
      rdropWhile_concat_of_ne (ne_point hlast)]
  · have hnonzero : c ≠ '0' := by
      have hne : digits.rdropWhile (· == '0') ≠ [] := by simp [hc]
      simpa [hc] using List.rdropWhile_last_not (· == '0') digits hne
    have hdigit : Text.isDigit c :=
      h c ((List.rdropWhile_prefix (· == '0') digits).subset (by simp [hc]))
    rw [hc, fraction, if_neg (by simp), List.concat_eq_append, ← List.cons_append,
      ← List.append_assoc, rdropWhile_concat_of_ne hnonzero,
      rdropWhile_concat_of_ne (ne_point hdigit)]

theorem trim_of_not_mem (h : '.' ∉ numeral) : trim numeral = numeral := by
  rw [trim, if_neg (by simpa using h)]

theorem sign_ne_point (negative : Bool) : '.' ∉ Fixed.sign negative := by
  cases negative <;> decide

/-- What is left of the numeral with a fixed number of decimals. -/
theorem trim_fixed (places n : Nat) (negative : Bool) :
    trim (Fixed.sign negative ++ (Fixed.split places n).1 ++
      if (Fixed.split places n).2.isEmpty then [] else '.' :: (Fixed.split places n).2) =
    Fixed.sign negative ++ unsigned places n := by
  have hbefore : ∀ c ∈ (Fixed.split places n).1, Text.isDigit c := fun c hc =>
    Text.isDigit_of_mem_toDigits hc
  rw [unsigned]
  by_cases hafter : (Fixed.split places n).2 = []
  · have hmem : '.' ∉ Fixed.sign negative ++ (Fixed.split places n).1 := by
      rw [List.mem_append, not_or]
      exact ⟨sign_ne_point negative, fun h => ne_point (hbefore _ h) rfl⟩
    rw [hafter, List.isEmpty_nil, if_pos rfl, List.append_nil, trim_of_not_mem hmem,
      List.rdropWhile_nil, fraction, if_pos rfl, List.append_nil]
  · obtain ⟨most, last, hlast⟩ := (List.eq_nil_or_concat (Fixed.split places n).1).resolve_left
      (List.ne_nil_of_length_pos Nat.length_toDigits_pos)
    rw [List.concat_eq_append] at hlast
    have hdigit : Text.isDigit last := hbefore last (by simp [hlast])
    rw [if_neg (by simpa using hafter), hlast, ← List.append_assoc,
      trim_append hdigit fun c => Fixed.isDigit_of_mem_split_after]
    simp only [List.append_assoc]

theorem unsigned_zero (places : Nat) : unsigned places 0 = ['0'] := by
  have hzeros : (Fixed.split places 0).2.rdropWhile (· == '0') = [] := by
    rw [List.rdropWhile_eq_nil_iff]
    intro c hc
    rw [Fixed.split] at hc
    split at hc
    · cases hc
    · rcases List.mem_append.mp hc with hc | hc
      · simpa using List.eq_of_mem_replicate hc
      · simpa using hc
  rw [unsigned, hzeros, Fixed.split_before, Nat.zero_div]
  rfl

theorem ofCount_zero (places : Nat) : ofCount places 0 = ['0'] := by
  rw [ofCount, Int.natAbs_zero, unsigned_zero]
  rfl

/-- A compact numeral without a sign is read as so many units of the last decimal. -/
theorem unsigned?_unsigned (places n : Nat) :
    Decimal.unsigned? (unsigned places n) = some (n / 10 ^ places : ℚ) := by
  have hbefore : ∀ c ∈ (Fixed.split places n).1, Text.isDigit c := fun c hc =>
    Text.isDigit_of_mem_toDigits hc
  have hne : (Fixed.split places n).1 ≠ [] := List.ne_nil_of_length_pos Nat.length_toDigits_pos
  have hwhole : Text.ofDigits (Fixed.split places n).1 = n / 10 ^ places := by
    rw [Fixed.split_before, Text.ofDigits_toDigits]
  have hpow : (10 : ℚ) ^ places ≠ 0 := by positivity
  have hn : (n : ℚ) = 10 ^ places * (n / 10 ^ places : Nat) + (n % 10 ^ places : Nat) := by
    exact_mod_cast (Nat.div_add_mod n (10 ^ places)).symm
  obtain ⟨k, hk⟩ := Text.exists_append_zeros (Fixed.split places n).2
  have hpart := Fixed.ofDigits_split_after places n
  have hlength := Fixed.split_after_length places n
  rw [hk, Text.ofDigits_append_zeros] at hpart
  rw [hk, List.length_append, List.length_replicate] at hlength
  have hdigits : ∀ c ∈ (Fixed.split places n).2.rdropWhile (· == '0'), Text.isDigit c := fun c hc =>
    Fixed.isDigit_of_mem_split_after ((List.rdropWhile_prefix _ _).subset hc)
  rw [unsigned]
  generalize (Fixed.split places n).2.rdropWhile (· == '0') = digits at *
  by_cases hnil : digits = []
  · subst hnil
    have hzero : n % 10 ^ places = 0 := by rw [← hpart]; exact Nat.zero_mul _
    rw [fraction, if_pos rfl, List.append_nil, Decimal.unsigned?_whole hne hbefore, hwhole, hn,
      hzero, Nat.cast_zero, add_zero, mul_div_cancel_left₀ _ hpow]
  · have hk0 : (10 : ℚ) ^ k ≠ 0 := by positivity
    have hvalue : ((n % 10 ^ places : Nat) : ℚ) / 10 ^ places =
        Text.ofDigits digits / 10 ^ digits.length := by
      rw [← hpart, ← hlength, pow_add, Nat.cast_mul, Nat.cast_pow, Nat.cast_ofNat,
        mul_div_mul_right _ _ hk0]
    rw [fraction, if_neg hnil, Decimal.unsigned?_fraction hne hbefore hnil hdigits, hwhole, hn,
      add_div, mul_div_cancel_left₀ _ hpow, hvalue]

theorem sign_append_unsigned_ne {n : Nat} (hn : n ≠ 0) (negative : Bool) :
    Fixed.sign negative ++ unsigned places n ≠ ['-', '0'] := by
  intro h
  have hread := unsigned?_unsigned places n
  cases negative with
  | false =>
    rw [show unsigned places n = ['-', '0'] from h] at hread
    cases hread
  | true =>
    rw [show unsigned places n = ['0'] from List.cons.inj h |>.2] at hread
    have hzero : (n / 10 ^ places : ℚ) = 0 := (Option.some.inj hread).symm
    have hpow : (10 : ℚ) ^ places ≠ 0 := by positivity
    exact hn (by exact_mod_cast (div_eq_zero_iff.mp hzero).resolve_right hpow)

/-- The compact numeral of a finite number is that of its rounded value. -/
theorem write_of_finite {x : Float} {negative : Bool} {units : Nat}
    (hx : Binary64.ofFloat x = .finite negative units) :
    write places x = ofCount places (Binary64.counted negative (Fixed.shown places units)) := by
  have htrim : trim (Fixed.write places x) =
      Fixed.sign negative ++ unsigned places (Fixed.shown places units) := by
    rw [Fixed.write, hx]
    exact trim_fixed places _ negative
  rw [write, htrim, ofCount]
  generalize Fixed.shown places units = n
  by_cases hzero : n = 0
  · rw [hzero, unsigned_zero]
    cases negative <;> simp [Fixed.sign, Binary64.counted, unsigned_zero]
  · have hsign : decide (Binary64.counted negative n < 0) = negative := by
      cases negative <;> simp [Binary64.counted, Nat.pos_of_ne_zero hzero]
    have habs : (Binary64.counted negative n).natAbs = n := by
      cases negative <;> simp [Binary64.counted]
    rw [if_neg (sign_append_unsigned_ne hzero negative), hsign, habs]

/-! ### Numbers that are not finite -/

theorem write_nan {x : Float} (hx : Binary64.ofFloat x = .nan) : write places x = "nan".toList := by
  rw [write, Fixed.write, hx]
  rfl

theorem write_infinite {x : Float} {negative : Bool}
    (hx : Binary64.ofFloat x = .infinite negative) :
    write places x = if negative then "-inf".toList else "inf".toList := by
  rw [write, Fixed.write, hx]
  cases negative <;> rfl

theorem isDigit_or_mem_of_mem_ofCount {count : Int} {c : Char} (h : c ∈ ofCount places count) :
    Text.isDigit c ∨ c ∈ ['-', '.'] := by
  rw [ofCount, unsigned, fraction, List.mem_append, List.mem_append] at h
  rcases h with h | h | h
  · refine .inr ?_
    rw [Fixed.sign] at h
    split at h
    · simp [List.mem_singleton.mp h]
    · cases h
  · exact .inl (Text.isDigit_of_mem_toDigits h)
  · split at h
    · cases h
    · rcases List.mem_cons.mp h with rfl | h
      · exact .inr (by decide)
      · exact .inl (Fixed.isDigit_of_mem_split_after ((List.rdropWhile_prefix _ _).subset h))

/-- What a compact numeral is made of besides digits: the sign, the point, and the letters of the
words for what is not finite. -/
def marks : List Char := ['-', '.', 'i', 'n', 'f', 'a']

theorem isDigit_or_mem_marks {x : Float} {c : Char} (h : c ∈ write places x) :
    Text.isDigit c ∨ c ∈ marks := by
  cases hx : Binary64.ofFloat x with
  | nan =>
    have hword : "nan".toList ⊆ marks := by decide
    rw [write_nan hx] at h
    exact .inr (hword h)
  | infinite negative =>
    have hword : (if negative then "-inf".toList else "inf".toList) ⊆ marks := by
      cases negative <;> decide
    rw [write_infinite hx] at h
    exact .inr (hword h)
  | finite negative units =>
    have hmarks : ['-', '.'] ⊆ marks := by decide
    rw [write_of_finite hx] at h
    exact (isDigit_or_mem_of_mem_ofCount h).imp_right fun h => hmarks h

theorem value?_of_unsigned? {v : ℚ} (h : Decimal.unsigned? numeral = some v) :
    Decimal.value? numeral = some v := by
  unfold Decimal.value?
  split
  · cases h
  · exact h

theorem value?_ofCount (places : Nat) (count : Int) :
    Decimal.value? (ofCount places count) = some (count / 10 ^ places : ℚ) := by
  have hread := unsigned?_unsigned places count.natAbs
  by_cases h : count < 0
  · have habs : ((count.natAbs : Nat) : ℚ) = -count := by
      rw [Nat.cast_natAbs, abs_of_neg h, Int.cast_neg]
    rw [ofCount, decide_eq_true h]
    show (Decimal.unsigned? (unsigned places count.natAbs)).map (fun v => -v) = _
    rw [hread, habs, neg_div, Option.map_some, neg_neg]
  · have habs : ((count.natAbs : Nat) : ℚ) = count := by
      rw [Nat.cast_natAbs, abs_of_nonneg (not_lt.mp h)]
    rw [ofCount, decide_eq_false h, ← habs]
    exact value?_of_unsigned? hread

/-- A numeral has the compact form. -/
structure IsCompact (places : Nat) (numeral : List Char) : Prop where
  nonempty : numeral ≠ []
  not_negative_zero : numeral ≠ ['-', '0']
  no_point_at_end : numeral.getLast? ≠ some '.'
  no_zero_at_end : '.' ∈ numeral → numeral.getLast? ≠ some '0'
  places_behind_point : (numeral.dropWhile (· ≠ '.')).tail.length ≤ places

theorem isCompact_append {last : Char} (hfront : '.' ∉ front) (hlast : Text.isDigit last)
    (h : ∀ c ∈ digits, Text.isDigit c) (hlength : digits.length ≤ places)
    (hne : front ++ [last] ++ fraction (digits.rdropWhile (· == '0')) ≠ ['-', '0']) :
    IsCompact places (front ++ [last] ++ fraction (digits.rdropWhile (· == '0'))) := by
  have hpoint : ∀ c ∈ front ++ [last], c ≠ '.' := by
    intro c hc
    rcases List.mem_append.mp hc with hc | hc
    · exact fun heq => hfront (heq ▸ hc)
    · exact ne_point (List.mem_singleton.mp hc ▸ hlast)
  rcases List.eq_nil_or_concat (digits.rdropWhile (· == '0')) with hnil | ⟨most, c, hc⟩
  · rw [hnil, fraction, if_pos rfl, List.append_nil] at hne ⊢
    have hdrop : (front ++ [last]).dropWhile (· ≠ '.') = [] :=
      List.dropWhile_eq_nil_iff.mpr fun c hc => decide_eq_true (hpoint c hc)
    exact {
      nonempty := by simp
      not_negative_zero := hne
      no_point_at_end := by simpa using ne_point hlast
      no_zero_at_end := fun hmem => absurd rfl (hpoint '.' hmem)
      places_behind_point := by rw [hdrop]; exact Nat.zero_le _ }
  · have hlead := List.rdropWhile_prefix (· == '0') digits
    have hmost : most ++ [c] = digits.rdropWhile (· == '0') := by rw [hc, List.concat_eq_append]
    have hnonzero : c ≠ '0' := by
      have hne : digits.rdropWhile (· == '0') ≠ [] := by simp [hc]
      simpa [hc] using List.rdropWhile_last_not (· == '0') digits hne
    have hdigit : Text.isDigit c := h c (hlead.subset (by simp [hc]))
    rw [← hmost] at hne hlead ⊢
    rw [fraction, if_neg (by simp)] at hne ⊢
    have hlastChar : (front ++ [last] ++ '.' :: (most ++ [c])).getLast? = some c := by
      rw [← List.cons_append, ← List.append_assoc, List.getLast?_concat]
    have hdrop : (front ++ [last] ++ '.' :: (most ++ [c])).dropWhile (· ≠ '.') =
        '.' :: (most ++ [c]) := by
      rw [List.dropWhile_append_of_pos fun c hc => decide_eq_true (hpoint c hc)]
      rfl
    exact {
      nonempty := by simp
      not_negative_zero := hne
      no_point_at_end := by rw [hlastChar]; simpa using ne_point hdigit
      no_zero_at_end := fun _ => by rw [hlastChar]; simpa using hnonzero
      places_behind_point := by rw [hdrop]; exact Nat.le_trans hlead.length_le hlength }

theorem isCompact_ofCount (places : Nat) (count : Int) :
    IsCompact places (ofCount places count) := by
  have hne : ofCount places count ≠ ['-', '0'] := by
    by_cases h : count = 0
    · rw [h, ofCount_zero]
      decide
    · exact sign_append_unsigned_ne (Int.natAbs_ne_zero.mpr h) _
  obtain ⟨most, last, hbefore⟩ :=
    (List.eq_nil_or_concat (Fixed.split places count.natAbs).1).resolve_left
      (List.ne_nil_of_length_pos Nat.length_toDigits_pos)
  have hdigit : ∀ c ∈ most ++ [last], Text.isDigit c := fun c hc =>
    Text.isDigit_of_mem_toDigits (n := count.natAbs / 10 ^ places)
      (by rwa [← Fixed.split_before, hbefore, List.concat_eq_append])
  have hfront : '.' ∉ Fixed.sign (count < 0) ++ most := by
    rw [List.mem_append, not_or]
    exact ⟨sign_ne_point _, fun h => ne_point (hdigit _ (List.mem_append_left _ h)) rfl⟩
  rw [ofCount, unsigned, hbefore, List.concat_eq_append, ← List.append_assoc,
    ← List.append_assoc] at hne ⊢
  exact isCompact_append hfront (hdigit last (by simp))
    (fun c => Fixed.isDigit_of_mem_split_after) (Fixed.split_after_length _ _).le hne

/-! ### Exactness -/

/-- The compact numeral with a number of decimals that numerals can have. -/
def write? (precision : Int) (x : Float) : Except Fixed.PlacesError (List Char) :=
  (Fixed.places? precision).map fun places => write places x

/-- What the compact numeral of a number comes to: the number is finite, the numeral is read as its
exact value rounded, and its form is compact. -/
structure Shows (places : Nat) (x : Float) (numeral : List Char) (r : ℚ) : Prop where
  written : write? places x = .ok numeral
  rounded : ∃ v, (Binary64.ofFloat x).value? = some v ∧ RoundsTo places v r
  read : Decimal.value? numeral = some r
  compact : IsCompact places numeral

variable {x y : Float}

theorem write?_eq_ok (h : places < 2 ^ 31) : write? places x = .ok (write places x) := by
  have hplaces : Fixed.places? places = .ok places := by
    rw [Fixed.places?, if_neg (by omega), if_neg (by rw [Nat.pow_eq]; omega),
      if_neg (by rw [Nat.pow_eq]; omega), Int.toNat_natCast]
  rw [write?, hplaces]
  rfl

/-- What is written of a finite number, if numerals can have so many decimals. -/
theorem write?_of_finite {negative : Bool} {units : Nat} (hplaces : places < 2 ^ 31)
    (hx : Binary64.ofFloat x = .finite negative units) :
    write? places x =
      .ok (ofCount places (Binary64.counted negative (Fixed.shown places units))) := by
  rw [write?_eq_ok hplaces, write_of_finite hx]

/-- A number whose digits cannot be counted is written as zero. -/
theorem write?_of_overflows {negative : Bool} {units : Nat} (hplaces : places < 2 ^ 31)
    (hx : Binary64.ofFloat x = .finite negative units)
    (hover : Fixed.overflows places units = true) : write? places x = .ok ['0'] := by
  have hshown : Binary64.counted negative (Fixed.shown places units) = 0 := by
    rw [Fixed.shown, if_pos hover]
    cases negative <;> rfl
  rw [write?_of_finite hplaces hx, hshown, ofCount_zero]

theorem Shows.places_lt {numeral : List Char} {r : ℚ} (h : Shows places x numeral r) :
    places < 2 ^ 31 := by
  have hwritten := h.written
  by_contra hle
  rw [write?, Fixed.places?, if_neg (by omega), Nat.pow_eq, Nat.pow_eq] at hwritten
  split at hwritten
  · cases hwritten
  · rw [if_pos (by omega)] at hwritten
    cases hwritten

theorem Shows.eq_ofCount {numeral : List Char} {r : ℚ} (h : Shows places x numeral r) :
    ∃ count : Int, numeral = ofCount places count ∧ r = count / 10 ^ places := by
  obtain ⟨v, hv, -⟩ := h.rounded
  obtain ⟨negative, units, hx, -⟩ := Binary64.exists_of_value? hv
  have hwritten := h.written
  rw [write?_of_finite h.places_lt hx] at hwritten
  cases hwritten
  exact ⟨_, rfl, Option.some.inj (h.read.symm.trans (value?_ofCount _ _))⟩

theorem shows_of_finite {negative : Bool} {units : Nat} (hplaces : places ≤ 2 ^ 31 - 310)
    (hx : Binary64.ofFloat x = .finite negative units) :
    Shows places x (ofCount places (Binary64.counted negative (Fixed.scaled places units)))
      (Binary64.counted negative (Fixed.scaled places units) / 10 ^ places) := by
  have hbelow : places < 2 ^ 31 := by omega
  have hwritten := write?_of_finite hbelow hx
  rw [Fixed.shown_of_places_le hplaces hx] at hwritten
  exact {
    written := hwritten
    rounded := ⟨_, by rw [hx]; rfl, _, scaled_isNearest places negative units, rfl⟩
    read := value?_ofCount _ _
    compact := isCompact_ofCount _ _ }

/-- The numeral of a finite number is there, is read as the rounded value and is compact. Two
numerals are the same when the rounded values are, and the rounded values keep the order of the
numbers. -/
theorem compact_numeral_exact (hplaces : places ≤ 2 ^ 31 - 310) :
    (∀ x : Float, x.isFinite → ∃ numeral r, Shows places x numeral r) ∧
    ∀ x y numeral numeral' r r', Shows places x numeral r → Shows places y numeral' r' →
      (numeral = numeral' ↔ r = r') ∧ (x ≤ y → r ≤ r') := by
  constructor
  · intro x hx
    obtain ⟨negative, units, hunits⟩ := Binary64.isFinite_iff.mp hx
    exact ⟨_, _, shows_of_finite hplaces hunits⟩
  · intro x y numeral numeral' r r' h h'
    refine ⟨⟨?_, ?_⟩, ?_⟩
    · rintro rfl
      exact Option.some.inj (h.read.symm.trans h'.read)
    · intro heq
      obtain ⟨count, hnumeral, hr⟩ := h.eq_ofCount
      obtain ⟨count', hnumeral', hr'⟩ := h'.eq_ofCount
      have hpow : (10 : ℚ) ^ places ≠ 0 := by positivity
      have hcount : (count : ℚ) = count' :=
        (div_left_inj' hpow).mp (hr.symm.trans (heq.trans hr'))
      rw [hnumeral, hnumeral', show count = count' by exact_mod_cast hcount]
    · intro hle
      obtain ⟨v, hv, hrounds⟩ := h.rounded
      obtain ⟨w, hw, hrounds'⟩ := h'.rounded
      exact hrounds.mono hrounds' (Binary64.value_le_of_le hv hw hle)

/-- An eighth is written with two decimals as 0.12, and a negative number that rounds to zero
without its sign. -/
theorem eighth_shown :
    (∃ r, Shows 2 0.125 ['0', '.', '1', '2'] r) ∧ ∃ r, Shows 2 (-0.004) ['0'] r := by
  have hplaces : 2 ≤ 2 ^ 31 - 310 := by decide
  obtain ⟨numeral, r, h⟩ := (compact_numeral_exact hplaces).1 0.125 (by decide +kernel)
  obtain ⟨numeral', r', h'⟩ := (compact_numeral_exact hplaces).1 (-0.004) (by decide +kernel)
  have hwritten : write? 2 0.125 = .ok ['0', '.', '1', '2'] := by decide +kernel
  have hwritten' : write? 2 (-0.004) = .ok ['0'] := by decide +kernel
  cases hwritten.symm.trans h.written
  cases hwritten'.symm.trans h'.written
  exact ⟨⟨r, h⟩, ⟨r', h'⟩⟩

/-- A finite number has no numeral with 2 to the power 31 decimals. With 309 decimals less the
largest number is written as zero, and with one less one and a half is. -/
theorem decimals_too_many :
    (∃ precision : Int, 0 ≤ precision ∧ ∃ x : Float, x.isFinite ∧
      ∀ numeral, write? precision x ≠ .ok numeral) ∧
    write? (2 ^ 31 - 309) 1.7976931348623157e308 = .ok ['0'] ∧
    write? (2 ^ 31 - 1) 1.5 = .ok ['0'] := by
  have hlargest : Binary64.ofFloat 1.7976931348623157e308 =
      .finite false ((2 ^ 53 - 1) * 2 ^ 2045) := by decide +kernel
  have hhalf : Binary64.ofFloat 1.5 = .finite false (3 * 2 ^ 1073) := by decide +kernel
  refine ⟨⟨2 ^ 31, by decide, 1.0, by decide +kernel, fun _ h => nomatch h⟩, ?_, ?_⟩
  · exact write?_of_overflows (by decide) hlargest (by decide +kernel)
  · exact write?_of_overflows (by decide) hhalf (by decide +kernel)

end Compact

end TurtleGrammar.Number
