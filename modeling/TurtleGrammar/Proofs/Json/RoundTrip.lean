import TurtleGrammar.Proofs.Json.Printing
import TurtleGrammar.Proofs.Json.Readable
import TurtleGrammar.Proofs.Json.Scalars
import TurtleGrammar.Proofs.Text.Lines

/-! Documents read back. The reader takes each value as far as it was written, so the value that a
document holds is the one that is read from it. -/

namespace TurtleGrammar.Json

variable {level out fuel : Nat} {v : Value} {c : Char} {rest more : List Char}

/-! ### The first character -/

/-- The characters that a value can start with. -/
def isOpening (c : Char) : Bool := isStart c || ['"', '[', '\x7b'].contains c

theorem exists_valueChars_cons (level : Nat) (v : Value) :
    ∃ c more, valueChars level v = c :: more ∧ isOpening c = true := by
  have hscalar : ∀ {text result}, Spells text result →
      ∃ c more, text = c :: more ∧ isOpening c = true := by
    intro text result hspells
    obtain ⟨c, more, htext, hc⟩ := hspells.exists_cons
    exact ⟨c, more, htext, by rw [isOpening, hc, Bool.true_or]⟩
  cases v with
  | null => exact hscalar spells_null
  | bool b => exact hscalar (spells_bool b)
  | int i => exact hscalar (spells_int i)
  | float x => exact hscalar (spells_float x)
  | string s => exact ⟨'"', _, rfl, rfl⟩
  | array items => cases items <;> exact ⟨'[', _, by rw [valueChars], rfl⟩
  | object members => cases members <;> exact ⟨'\x7b', _, by rw [valueChars], rfl⟩

theorem ne_of_isOpening (hc : isOpening c = true) {d : Char} (hd : isOpening d = false) : c ≠ d := by
  rintro rfl
  cases hc.symm.trans hd

theorem skipSpace_breakLine : skipSpace (breakLine level ++ rest) = skipSpace rest := by
  refine List.dropWhile_append_of_pos fun c hc => ?_
  rcases List.mem_cons.mp hc with rfl | hc
  · rfl
  · rw [List.eq_of_mem_replicate hc]
    rfl

theorem skipSpace_of_isOpening (hc : isOpening c = true) : skipSpace (c :: more) = c :: more := by
  refine List.dropWhile_cons_of_neg ?_
  simp [isSpace, ne_of_isOpening hc (show isOpening ' ' = false from rfl),
    ne_of_isOpening hc (show isOpening '\t' = false from rfl),
    ne_of_isOpening hc (show isOpening '\n' = false from rfl),
    ne_of_isOpening hc (show isOpening '\r' = false from rfl)]

/-- No part of a value is taken for blanks before it. -/
theorem skipSpace_valueChars (v : Value) :
    skipSpace (valueChars level v ++ rest) = valueChars level v ++ rest := by
  obtain ⟨c, more, hchars, hc⟩ := exists_valueChars_cons level v
  rw [hchars, List.cons_append, skipSpace_of_isOpening hc]

/-! ### Steps of the reader -/

section Steps

variable {text after : List Char} {name : Text} {items : List Value} {done : List (Text × Value)}

theorem readValue_of_spells {result : Except Fault Value} (h : Spells text result)
    (hrest : FollowsValue rest) :
    readValue (fuel + 1) (text ++ rest) = result.map fun v => (v, rest) := by
  have hread := h.readScalar hrest
  obtain ⟨c, more, rfl, hc⟩ := h.exists_cons
  have hne : ∀ d, isStart d = false → c ≠ d := fun d hd he => by
    rw [he] at hc
    cases hc.symm.trans hd
  rw [List.cons_append] at hread ⊢
  rw [readValue.eq_5, hread]
  · exact fun rest h => hne '"' rfl (List.cons.inj h).1
  · exact fun rest h => hne '[' rfl (List.cons.inj h).1
  · exact fun rest h => hne '\x7b' rfl (List.cons.inj h).1

theorem readString_stringChars {s : Text} {opening : List Char} (hs : Text.surrogates s = [])
    (hfuel : (stringChars s).length ≤ fuel) :
    readString opening fuel [] (innerChars s ++ '"' :: rest) = .ok (s, rest) := by
  have hlength := length_le_innerChars hs
  rw [stringChars, List.length_cons, List.length_append] at hfuel
  exact readString_innerChars hs (by omega)

/-- An array that has an item is read on from there. -/
theorem readValue_array (v : Value) :
    readValue (fuel + 1) ('[' :: (breakLine out ++ (valueChars level v ++ rest))) =
      readItems fuel [] (valueChars level v ++ rest) := by
  obtain ⟨c, more, hchars, hc⟩ := exists_valueChars_cons level v
  rw [readValue.eq_3, skipSpace_breakLine, skipSpace_valueChars v, hchars, List.cons_append]
  split
  · next h => cases hc.symm.trans (congrArg isOpening (List.cons.inj h).1)
  · rfl

/-- An object that has a member is read on from its name. -/
theorem readValue_object :
    readValue (fuel + 1) ('\x7b' :: (breakLine out ++ (stringChars name ++ rest))) =
      readMembers fuel [] (stringChars name ++ rest) := by
  rw [readValue.eq_4, skipSpace_breakLine, stringChars_append]
  rfl

theorem readItems_last (hv : readValue fuel text = .ok (v, after))
    (hskip : skipSpace after = ']' :: rest) :
    readItems (fuel + 1) items text = .ok (.array (items.reverse ++ [v]), rest) := by
  rw [readItems, hv, ← List.reverse_cons]
  simp only [bind, Except.bind, hskip]
  rfl

theorem readItems_more (hv : readValue fuel text = .ok (v, after))
    (hskip : skipSpace after = ',' :: rest) :
    readItems (fuel + 1) items text = readItems fuel (v :: items) (skipSpace rest) := by
  rw [readItems, hv]
  simp only [bind, Except.bind, hskip]

/-- A member is read to its end. A new name puts it behind those that were read before. -/
theorem readMembers_eq (hname : Text.surrogates name = [])
    (hfuel : (stringChars name).length ≤ fuel) (hnew : name ∉ done.map Prod.fst)
    (hv : readValue fuel (skipSpace (' ' :: text)) = .ok (v, after)) :
    readMembers (fuel + 1) done (stringChars name ++ ':' :: ' ' :: text) =
      match skipSpace after with
      | '\x7d' :: rest => .ok (.object (done ++ [(name, v)]), rest)
      | ',' :: rest => readMembers fuel (done ++ [(name, v)]) (skipSpace rest)
      | rest => .error (.malformed .expectingComma rest) := by
  rw [← Value.put_of_new hnew, stringChars_append, readMembers.eq_2,
    readString_stringChars hname hfuel]
  show (do let r ← readValue fuel (skipSpace (' ' :: text)); _) = _
  rw [hv]
  rfl

end Steps

/-! ### Values -/

/-- Behind an item stands a comma or a line break. -/
theorem followsValue_itemChars (items : List Value) :
    FollowsValue (itemChars level items ++ (breakLine out ++ rest)) := by
  cases items with
  | nil => exact ⟨'\n', _, rfl, .inr rfl⟩
  | cons v items => exact ⟨',', _, by rw [itemChars, List.cons_append], .inl rfl⟩

/-- Behind a member stands a comma or a line break. -/
theorem followsValue_memberChars (members : List (Text × Value)) :
    FollowsValue (memberChars level members ++ (breakLine out ++ rest)) := by
  cases members with
  | nil => exact ⟨'\n', _, rfl, .inr rfl⟩
  | cons member members => exact ⟨',', _, by rw [memberChars, List.cons_append], .inl rfl⟩

mutual

/-- A value is read to its end from what it is written as. -/
theorem readValue_valueChars {level fuel : Nat} {v : Value} {rest : List Char} (hplain : v.IsPlain)
    (hv : v.IsReadable) (hrest : FollowsValue rest)
    (hfuel : 2 * (valueChars level v).length ≤ fuel) :
    readValue fuel (valueChars level v ++ rest) = .ok (v, rest) := by
  obtain ⟨c, more, hcons, -⟩ := exists_valueChars_cons level v
  have hpos : 2 ≤ fuel := by
    rw [hcons, List.length_cons] at hfuel
    omega
  obtain ⟨fuel, rfl⟩ := Nat.exists_eq_add_of_le' hpos
  cases v with
  | null => exact readValue_of_spells spells_null hrest
  | bool b => exact readValue_of_spells (spells_bool b) hrest
  | int i =>
    have hvalue : (integerLiteral i).value = .ok (.int i) := by
      rw [value_integerLiteral, if_pos (show i.natAbs < 10 ^ Number.maxDigits from hv)]
    exact readValue_of_spells (hvalue ▸ spells_int i) hrest
  | float x => exact readValue_of_spells (spells_float x) hrest
  | string s =>
    rw [valueChars] at hfuel ⊢
    rw [stringChars_append, readValue.eq_2, readString_stringChars hplain (by omega)]
    rfl
  | array items =>
    cases items with
    | nil => rfl
    | cons v items =>
      simp only [valueChars, List.length_cons, List.length_append] at hfuel
      have hread : readValue fuel (valueChars (level + 1) v ++
          (itemChars (level + 1) items ++ (breakLine level ++ ']' :: rest))) =
          .ok (v, itemChars (level + 1) items ++ (breakLine level ++ ']' :: rest)) :=
        readValue_valueChars hplain.1 hv.1 (followsValue_itemChars items) (by omega)
      have hitems := readItems_itemChars [] hplain.2 hv.2 hread (by omega)
      simpa [valueChars, readValue_array] using hitems
  | object members =>
    cases members with
    | nil => rfl
    | cons member members =>
      obtain ⟨name, v⟩ := member
      obtain ⟨hname, hplain, hplains⟩ := hplain
      obtain ⟨hnames, hv, hvs⟩ := hv
      simp only [valueChars, List.length_cons, List.length_append] at hfuel
      have hread : readValue fuel (valueChars (level + 1) v ++
          (memberChars (level + 1) members ++ (breakLine level ++ '\x7d' :: rest))) =
          .ok (v, memberChars (level + 1) members ++ (breakLine level ++ '\x7d' :: rest)) :=
        readValue_valueChars hplain hv (followsValue_memberChars members) (by omega)
      have hmembers := readMembers_memberChars [] hname (by omega) hplains hvs
        (by simpa using hnames) hread (by omega)
      simpa [valueChars, readValue_object] using hmembers

/-- The items of an array are read on to its end when the first of them was read. -/
theorem readItems_itemChars {level out fuel : Nat} {v : Value} {items : List Value}
    {text rest : List Char} (done : List Value) (hplain : PlainItems items)
    (hitems : ReadableItems items)
    (hv : readValue fuel text = .ok (v, itemChars level items ++ (breakLine out ++ ']' :: rest)))
    (hfuel : 2 * (itemChars level items).length ≤ fuel) :
    readItems (fuel + 1) done text = .ok (.array (done.reverse ++ v :: items), rest) := by
  cases items with
  | nil =>
    refine readItems_last hv ?_
    rw [itemChars, List.nil_append, skipSpace_breakLine]
    rfl
  | cons w items =>
    simp only [itemChars, List.length_cons, List.length_append] at hfuel
    obtain ⟨fuel, rfl⟩ := Nat.exists_eq_add_of_le' (show 1 ≤ fuel by omega)
    have hread : readValue fuel (valueChars level w ++
        (itemChars level items ++ (breakLine out ++ ']' :: rest))) =
        .ok (w, itemChars level items ++ (breakLine out ++ ']' :: rest)) :=
      readValue_valueChars hplain.1 hitems.1 (followsValue_itemChars items) (by omega)
    have hmore := readItems_itemChars (v :: done) hplain.2 hitems.2 hread (by omega)
    rw [itemChars] at hv
    rw [readItems_more hv rfl]
    simpa [skipSpace_breakLine, skipSpace_valueChars] using hmore

/-- The members of an object are read on to its end when the value of the first of them was read. -/
theorem readMembers_memberChars {level out fuel : Nat} {name : Text} {v : Value}
    {members : List (Text × Value)} {rest : List Char} (done : List (Text × Value))
    (hname : Text.surrogates name = []) (hlength : (stringChars name).length ≤ fuel)
    (hplain : PlainMembers members) (hmembers : ReadableMembers members)
    (hnames : (done.map Prod.fst ++ name :: members.map Prod.fst).Nodup)
    (hread :
      readValue fuel (valueChars level v ++
          (memberChars level members ++ (breakLine out ++ '\x7d' :: rest))) =
        .ok (v, memberChars level members ++ (breakLine out ++ '\x7d' :: rest)))
    (hfuel : 2 * (memberChars level members).length ≤ fuel) :
    readMembers (fuel + 1) done
        (stringChars name ++ ':' :: ' ' :: (valueChars level v ++
          (memberChars level members ++ (breakLine out ++ '\x7d' :: rest)))) =
      .ok (.object (done ++ (name, v) :: members), rest) := by
  have hnew : name ∉ done.map Prod.fst := fun hmem =>
    (List.nodup_append.mp hnames).2.2 name hmem name (.head _) rfl
  rw [← skipSpace_valueChars v] at hread
  rw [readMembers_eq hname hlength hnew hread]
  cases members with
  | nil =>
    rw [memberChars, List.nil_append, skipSpace_breakLine]
    rfl
  | cons member members =>
    obtain ⟨next, w⟩ := member
    obtain ⟨hnext, hplain, hplains⟩ := hplain
    obtain ⟨hw, hws⟩ := hmembers
    simp only [memberChars, List.length_cons, List.length_append] at hfuel
    obtain ⟨fuel, rfl⟩ := Nat.exists_eq_add_of_le' (show 1 ≤ fuel by omega)
    have hread : readValue fuel (valueChars level w ++
        (memberChars level members ++ (breakLine out ++ '\x7d' :: rest))) =
        .ok (w, memberChars level members ++ (breakLine out ++ '\x7d' :: rest)) :=
      readValue_valueChars hplain hw (followsValue_memberChars members) (by omega)
    have hmore := readMembers_memberChars (done ++ [(name, v)]) hnext (by omega) hplains hws
      (by simpa using hnames) hread (by omega)
    have hcomma : ∀ more, skipSpace (',' :: more) = ',' :: more := fun _ => rfl
    have hquote : ∀ more, skipSpace (stringChars next ++ more) = stringChars next ++ more :=
      fun _ => rfl
    simpa [memberChars, hcomma, skipSpace_breakLine, hquote] using hmore

end

/-! ### Documents -/

theorem return_not_mem_breakLine : '\r' ∉ breakLine level := by
  simp [breakLine, List.mem_replicate]

theorem return_not_mem_escapeChar (c : Char) : '\r' ∉ escapeChar c := by
  have hcontrol : ∀ n < 0x20, '\r' ∉ Text.hexadecimal 4 n := by decide
  by_cases hc : c = '\r'
  · subst hc
    decide
  · unfold escapeChar
    repeat' split
    all_goals simp_all [Ne.symm hc]

theorem return_not_mem_stringChars (s : Text) : '\r' ∉ stringChars s := by
  have hinner : '\r' ∉ innerChars s := by
    intro hmem
    obtain ⟨p, hp, hshown⟩ := List.mem_map.mp hmem
    obtain ⟨q, -, hpq⟩ := List.mem_flatMap.mp hp
    cases q with
    | scalar c =>
      obtain ⟨d, hd, rfl⟩ := List.mem_map.mp hpq
      cases (show d = '\r' from hshown)
      exact return_not_mem_escapeChar c hd
    | surrogate x =>
      rw [List.mem_singleton.mp hpq] at hshown
      cases hshown
  simp [stringChars, hinner]

mutual

/-- What a value is written as has no carriage return, which would be replaced in reading. -/
theorem return_not_mem_valueChars (level : Nat) (v : Value) : '\r' ∉ valueChars level v := by
  cases v with
  | null => exact spells_null.return_not_mem
  | bool b => exact (spells_bool b).return_not_mem
  | int i => exact (spells_int i).return_not_mem
  | float x => exact (spells_float x).return_not_mem
  | string s => exact return_not_mem_stringChars s
  | array items =>
    cases items with
    | nil => simp [valueChars]
    | cons v items =>
      simp [valueChars, return_not_mem_breakLine, return_not_mem_valueChars _ v,
        return_not_mem_itemChars _ items]
  | object members =>
    cases members with
    | nil => simp [valueChars]
    | cons member members =>
      obtain ⟨name, v⟩ := member
      simp [valueChars, return_not_mem_breakLine, return_not_mem_stringChars,
        return_not_mem_valueChars _ v, return_not_mem_memberChars _ members]

theorem return_not_mem_itemChars (level : Nat) (items : List Value) :
    '\r' ∉ itemChars level items := by
  cases items with
  | nil => simp [itemChars]
  | cons v items =>
    simp [itemChars, return_not_mem_breakLine, return_not_mem_valueChars level v,
      return_not_mem_itemChars level items]

theorem return_not_mem_memberChars (level : Nat) (members : List (Text × Value)) :
    '\r' ∉ memberChars level members := by
  cases members with
  | nil => simp [memberChars]
  | cons member members =>
    obtain ⟨name, v⟩ := member
    simp [memberChars, return_not_mem_breakLine, return_not_mem_stringChars,
      return_not_mem_valueChars level v, return_not_mem_memberChars level members]

end

/-- The characters of a document are read as those of its value and a line break. -/
theorem read_document_of_value (result : Except Fault Value)
    (h : readValue (2 * (document v).chars.length + 2) (valueChars 0 v ++ ['\n']) =
      result.map fun w => (w, ['\n'])) :
    read (Text.unifyBreaks (document v).chars) =
      result.mapError (Fault.place (document v).chars) := by
  have hreturn : '\r' ∉ (document v).chars := by
    simp [chars_document, return_not_mem_valueChars]
  rw [Text.unifyBreaks_eq_self hreturn]
  rw [chars_document] at h ⊢
  obtain ⟨c, more, hcons, hc⟩ := exists_valueChars_cons 0 v
  have hmark : (valueChars 0 v ++ ['\n']).head? ≠ some '\uFEFF' := by
    rw [hcons]
    exact fun h => ne_of_isOpening hc rfl (Option.some.inj h)
  rw [read, if_neg hmark, skipSpace_valueChars v, h]
  cases result <;> rfl

/-- The value of a document is read from it. -/
theorem read_document (hplain : v.IsPlain) (hv : v.IsReadable) :
    read (Text.unifyBreaks (document v).chars) = .ok v := by
  refine read_document_of_value (.ok v) (readValue_valueChars hplain hv ?_ ?_)
  · exact ⟨'\n', [], rfl, .inr rfl⟩
  · rw [chars_document, List.length_append]
    omega

/-- An integer that is too long is written and then refused. -/
theorem read_document_of_long {i : Int} (hi : 10 ^ Number.maxDigits ≤ i.natAbs) :
    read (Text.unifyBreaks (document (.int i)).chars) =
      .error (.tooManyDigits (Nat.toDigits 10 i.natAbs).length) := by
  have hvalue : (integerLiteral i).value =
      .error (.tooManyDigits (Nat.toDigits 10 i.natAbs).length) := by
    rw [value_integerLiteral, if_neg (Nat.not_lt.mpr hi)]
  refine read_document_of_value (.error (.tooManyDigits _)) ?_
  exact readValue_of_spells (hvalue ▸ spells_int i) ⟨'\n', [], rfl, .inr rfl⟩

end TurtleGrammar.Json
