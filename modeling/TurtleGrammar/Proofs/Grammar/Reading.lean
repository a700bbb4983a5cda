import TurtleGrammar.LSystem

/-! What the reading of a grammar gives. A word that is read holds tokens only, the rules that are
read rewrite letters to such words, and a system that is constructed is the one of the definition
that its texts give, at the start of its word. -/

namespace TurtleGrammar

/-! ### Results in sequence -/

theorem bind_eq_ok {ε α β : Type} {x : Except ε α} {f : α → Except ε β} {b : β} :
    (x >>= f) = .ok b ↔ ∃ a, x = .ok a ∧ f a = .ok b := by
  cases x <;> simp [bind, Except.bind]

theorem bind_eq_error {ε α β : Type} {x : Except ε α} {f : α → Except ε β} {e : ε} :
    (x >>= f) = .error e ↔ x = .error e ∨ ∃ a, x = .ok a ∧ f a = .error e := by
  cases x <;> simp [bind, Except.bind]

theorem mapError_eq_ok {ε ε' α : Type} {f : ε → ε'} {x : Except ε α} {a : α} :
    x.mapError f = .ok a ↔ x = .ok a := by
  cases x with
  | error e => exact ⟨nofun, nofun⟩
  | ok b =>
    constructor
    · rintro ⟨⟩
      rfl
    · rintro ⟨⟩
      rfl

theorem mem_of_mapM {ε α β : Type} {f : α → Except ε β} {l : List α} {ys : List β} {y : β}
    (h : l.mapM f = .ok ys) (hy : y ∈ ys) : ∃ x ∈ l, f x = .ok y := by
  induction l generalizing ys with
  | nil =>
    cases h
    cases hy
  | cons x l ih =>
    rw [List.mapM_cons] at h
    obtain ⟨z, hz, h⟩ := bind_eq_ok.mp h
    obtain ⟨zs, hzs, h⟩ := bind_eq_ok.mp h
    cases h
    rcases List.mem_cons.mp hy with rfl | hy
    · exact ⟨x, List.mem_cons_self, hz⟩
    · obtain ⟨x', hx', hy'⟩ := ih hzs hy
      exact ⟨x', List.mem_cons_of_mem _ hx', hy'⟩

/-! ### Words -/

/-- A symbol that some character writes. -/
def Symbol.IsToken (s : Symbol) : Prop := ∃ c, Symbol.ofChar? c = some s

theorem Symbol.IsToken.ne_reset {s : Symbol} (h : s.IsToken) : s ≠ .reset := by
  rintro rfl
  obtain ⟨c, hc⟩ := h
  simp only [ofChar?] at hc
  repeat' split at hc
  all_goals cases hc

theorem Word.isToken_of_parse {text : Text} {line column : Int} {w : Word}
    (h : Word.parse text line column = .ok w) : ∀ s ∈ w, s.IsToken := by
  intro s hs
  obtain ⟨⟨c, i⟩, -, hc⟩ := mem_of_mapM h hs
  simp only at hc
  split at hc
  next s' hs' =>
    cases hc
    cases c with
    | scalar c => exact ⟨c, hs'⟩
    | surrogate u => cases hs'
  next => cases hc

/-! ### Rules -/

theorem Rules.mem_put {key : Symbol} {replacement : Word} {entries : List (Symbol × Word)}
    {entry : Symbol × Word} (h : entry ∈ put key replacement entries) :
    entry = (key, replacement) ∨ entry ∈ entries := by
  induction entries with
  | nil => exact .inl (List.mem_singleton.mp h)
  | cons first rest ih =>
    obtain ⟨k, r⟩ := first
    rw [put] at h
    split at h
    next hk =>
      subst hk
      rcases List.mem_cons.mp h with rfl | h
      · exact .inl rfl
      · exact .inr (List.mem_cons_of_mem _ h)
    next =>
      rcases List.mem_cons.mp h with rfl | h
      · exact .inr List.mem_cons_self
      · exact (ih h).imp_right (List.mem_cons_of_mem _)

theorem Rules.mem_ofList {entries : List (Symbol × Word)} {entry : Symbol × Word}
    (h : entry ∈ (ofList entries).entries) : entry ∈ entries := by
  -- An entry of the fold comes from the list or was there before.
  have fold : ∀ (rules : Rules),
      entry ∈ (entries.foldl (fun rules new => rules.insert new.1 new.2) rules).entries →
      entry ∈ rules.entries ∨ entry ∈ entries := by
    clear h
    induction entries with
    | nil => exact fun _ h => .inl h
    | cons first rest ih =>
      intro rules h
      rcases ih _ h with h | h
      · rcases mem_put h with rfl | h
        · exact .inr List.mem_cons_self
        · exact .inl h
      · exact .inr (List.mem_cons_of_mem _ h)
  exact (fold empty h).resolve_left List.not_mem_nil

theorem Rules.mem_of_replacement {rules : Rules} {key : Symbol} {r : Word}
    (h : rules.replacement? key = some r) : (key, r) ∈ rules.entries := by
  obtain ⟨before, after, h, -⟩ := List.lookup_eq_some_iff.mp h
  rw [h]
  exact List.mem_append_right _ List.mem_cons_self

/-- A line gives a rule for a letter, whose replacement is a part of the line that is read. -/
theorem RuleEntry.of_parse {line : Nat} {raw : Text} {entry : RuleEntry}
    (h : RuleEntry.parse line raw = .ok (some entry)) :
    entry.key.isLetter = true ∧
      ∃ text column, Word.parse text line column = .ok entry.replacement := by
  simp only [RuleEntry.parse] at h
  split at h
  next => cases h
  next =>
    split at h
    next => cases h
    next left right _ =>
      obtain ⟨predecessor, -, h⟩ := bind_eq_ok.mp h
      split at h
      next key =>
        split at h
        next => cases h
        next hletter =>
          split at h
          next => cases h
          next =>
            obtain ⟨replacement, hreplacement, h⟩ := bind_eq_ok.mp h
            cases h
            exact ⟨by simpa using hletter, right, _, hreplacement⟩
      next => cases h

theorem RuleEntry.of_parseLines {number : Nat} {raws : List Text} {entry : RuleEntry}
    (h : entry ∈ (RuleEntry.parseLines number raws).1) :
    entry.key.isLetter = true ∧
      ∃ text line column, Word.parse text line column = .ok entry.replacement := by
  induction raws generalizing number with
  | nil => cases h
  | cons raw rest ih =>
    rw [parseLines] at h
    split at h
    next => cases h
    next found hfound =>
      rcases List.mem_append.mp h with h | h
      · rw [Option.mem_toList] at h
        cases h
        obtain ⟨hletter, text, column, hparse⟩ := of_parse hfound
        exact ⟨hletter, text, _, column, hparse⟩
      · exact ih h

/-- Rules that are read rewrite letters to words that are read. -/
theorem Rules.of_parse {text : Text} {rules : Rules} (h : (Rules.parse text).result = .ok rules)
    {key : Symbol} {r : Word} (hr : rules.replacement? key = some r) :
    key.isLetter = true ∧ ∀ s ∈ r, s.IsToken := by
  simp only [Rules.parse] at h
  split at h
  next => cases h
  next =>
    cases h
    have hmem := mem_ofList (mem_of_replacement hr)
    obtain ⟨entry, hentry, heq⟩ := List.mem_map.mp hmem
    obtain ⟨hletter, text, line, column, hparse⟩ := RuleEntry.of_parseLines hentry
    cases heq
    exact ⟨hletter, Word.isToken_of_parse hparse⟩

/-- Rules that are read leave brackets alone. -/
theorem Rules.replacement_bracket {text : Text} {rules : Rules}
    (h : (Rules.parse text).result = .ok rules) :
    rules.replacement? .push = none ∧ rules.replacement? .pop = none := by
  simp only [Option.eq_none_iff_forall_ne_some]
  constructor
  · intro r hr
    cases (of_parse h hr).1
  · intro r hr
    cases (of_parse h hr).1

/-! ### Systems -/

theorem Rules.generations_eq_ok {rules : Rules} {n : Int} {v w : Word} :
    rules.generations n w = .ok v ↔ 0 ≤ n ∧ v = rules.rewrite n.toNat w := by
  rw [generations]
  split
  next h => simp [Int.not_le.mpr h]
  next h => simp [Int.not_lt.mp h, eq_comm]

theorem Definition.parse_eq_ok {name initial rules : Text} {n : Int} {delta : Float}
    {d : Definition} :
    (Definition.parse name initial rules n delta).result = .ok d ↔
      0 ≤ n ∧ ∃ w r, Word.parse initial 1 1 = .ok w ∧ (Rules.parse rules).result = .ok r ∧
        d = ⟨name, w, r, n, delta⟩ := by
  rw [Definition.parse]
  split
  next h => simp [Outcome.ofExcept, Int.not_le.mpr h]
  next h =>
    simp only [Outcome.result_bind, bind_eq_ok, Outcome.mapError, Outcome.ofExcept, mapError_eq_ok]
    constructor
    · rintro ⟨w, hw, r, hr, hd⟩
      exact ⟨Int.not_lt.mp h, w, r, hw, hr, (Except.ok.inj hd).symm⟩
    · rintro ⟨-, w, r, hw, hr, rfl⟩
      exact ⟨w, hw, r, hr, rfl⟩

theorem LSystem.build_eq_ok {d : Definition} {s : LSystem} :
    (LSystem.build d).result = .ok s ↔
      0 ≤ d.generations ∧ s = ⟨d, (d.rules.rewrite d.generations.toNat d.initial).toArray, 0,
        Nat.zero_le _⟩ := by
  rw [build, Outcome.result_bind, bind_eq_ok]
  constructor
  · rintro ⟨w, hw, hs⟩
    obtain ⟨hn, rfl⟩ := Rules.generations_eq_ok.mp hw
    exact ⟨hn, (Except.ok.inj hs).symm⟩
  · rintro ⟨hn, rfl⟩
    exact ⟨_, Rules.generations_eq_ok.mpr ⟨hn, rfl⟩, rfl⟩

/-- A system is constructed from texts that are read, at the start of the word of its last
generation. -/
theorem LSystem.construct_eq_ok {name initial rules : Text} {n : Int} {delta : Float}
    {s : LSystem} :
    (LSystem.construct name initial rules n delta).result = .ok s ↔
      0 ≤ n ∧ ∃ w r, Word.parse initial 1 1 = .ok w ∧ (Rules.parse rules).result = .ok r ∧
        s = ⟨⟨name, w, r, n, delta⟩, (r.rewrite n.toNat w).toArray, 0, Nat.zero_le _⟩ := by
  rw [construct, Outcome.result_bind, bind_eq_ok]
  constructor
  · rintro ⟨d, hd, hs⟩
    obtain ⟨hn, w, r, hw, hr, rfl⟩ := Definition.parse_eq_ok.mp hd
    exact ⟨hn, w, r, hw, hr, (build_eq_ok.mp hs).2⟩
  · rintro ⟨hn, w, r, hw, hr, rfl⟩
    exact ⟨_, Definition.parse_eq_ok.mpr ⟨hn, w, r, hw, hr, rfl⟩, build_eq_ok.mpr ⟨hn, rfl⟩⟩

end TurtleGrammar
