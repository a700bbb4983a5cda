import TurtleGrammar.Proofs.Json.Digits
import TurtleGrammar.Proofs.Text.Digits

/-! Values that a document can hold. No integer in them is longer than those that are read, and no
object has two members of one name. The values that are read are of this kind. -/

namespace TurtleGrammar.Json

mutual

/-- No integer in a value is too long to be read, and no object in it has a name twice. -/
def Value.IsReadable : Value → Prop
  | .int i => i.natAbs < 10 ^ Number.maxDigits
  | .array items => ReadableItems items
  | .object members => (members.map Prod.fst).Nodup ∧ ReadableMembers members
  | _ => True

/-- All of the items are readable. -/
def ReadableItems : List Value → Prop
  | [] => True
  | v :: items => v.IsReadable ∧ ReadableItems items

/-- The values of all members are readable. -/
def ReadableMembers : List (Text × Value) → Prop
  | [] => True
  | (_, v) :: members => v.IsReadable ∧ ReadableMembers members

end

theorem readableItems_iff {items : List Value} :
    ReadableItems items ↔ ∀ v ∈ items, v.IsReadable := by
  induction items with
  | nil => simp [ReadableItems]
  | cons v items ih => simp [ReadableItems, ih]

namespace Value

variable {name : Text} {v : Value} {members : List (Text × Value)}

/-- A member of a new name is added at the end. -/
theorem put_of_new (h : name ∉ members.map Prod.fst) :
    put name v members = members ++ [(name, v)] := by
  induction members with
  | nil => rfl
  | cons member members ih =>
    obtain ⟨n, w⟩ := member
    rw [List.map_cons, List.mem_cons, not_or] at h
    rw [put, if_neg (Ne.symm h.1), ih h.2, List.cons_append]

/-- A member of a name that is there takes its place. -/
theorem names_put_of_old (h : name ∈ members.map Prod.fst) :
    (put name v members).map Prod.fst = members.map Prod.fst := by
  induction members with
  | nil => cases h
  | cons member members ih =>
    obtain ⟨n, w⟩ := member
    rw [put]
    split
    · next hn => rw [List.map_cons, List.map_cons, hn]
    · next hn =>
      rw [List.map_cons, List.mem_cons] at h
      rw [List.map_cons, List.map_cons, ih (h.resolve_left (Ne.symm hn))]

theorem nodup_names_put (name : Text) (v : Value) (h : (members.map Prod.fst).Nodup) :
    ((put name v members).map Prod.fst).Nodup := by
  by_cases hname : name ∈ members.map Prod.fst
  · rwa [names_put_of_old hname]
  · rw [put_of_new hname, List.map_append]
    refine List.nodup_append.mpr ⟨h, by simp, fun a ha b hb hab => hname ?_⟩
    rw [hab, List.mem_singleton.mp hb] at ha
    exact ha

theorem readable_put (name : Text) (hv : v.IsReadable) (h : ReadableMembers members) :
    ReadableMembers (put name v members) := by
  induction members with
  | nil => exact ⟨hv, trivial⟩
  | cons member members ih =>
    obtain ⟨n, w⟩ := member
    rw [put]
    split
    · exact ⟨hv, h.2⟩
    · exact ⟨h.1, ih h.2⟩

end Value

/-! ### What is read -/

/-- A part of the reader gives a readable value or fails. -/
abbrev GivesReadable (x : Except Fault (Value × List Char)) : Prop :=
  Ends (fun _ => True) (fun r => r.1.IsReadable) x

variable {text : List Char}

theorem readable_words : ∀ w ∈ words, w.2.IsReadable := by
  simp [words, Value.IsReadable]

theorem readable_literal {l : Literal} {v : Value}
    (hwhole : ∀ c ∈ l.whole, Text.isDigit c = true) (h : l.value = .ok v) : v.IsReadable := by
  rw [Literal.value] at h
  split at h
  · split at h
    · next hlength =>
      cases h
      have hlt : Text.ofDigits l.whole < 10 ^ Number.maxDigits :=
        Nat.lt_of_lt_of_le (Text.ofDigits_lt hwhole) (Nat.pow_le_pow_right (by decide) hlength)
      show Int.natAbs (if _ then _ else _) < _
      split
      · rwa [Int.natAbs_neg]
      · exact hlt
    · cases h
  · cases h
    trivial

theorem readScalar_readable (text : List Char) : GivesReadable (readScalar text) := by
  unfold readScalar
  split
  · next read h =>
    obtain ⟨w, hw, rfl⟩ := Option.map_eq_some_iff.mp h
    exact readable_words w (List.mem_of_find?_eq_some hw)
  · split
    · next l rest h =>
      obtain ⟨-, -, hdigits⟩ := literal_read_eq h
      cases hvalue : l.value with
      | error e => trivial
      | ok v => exact readable_literal hdigits hvalue
    · trivial

theorem readable_parts (fuel : Nat) :
    (∀ text, GivesReadable (readValue fuel text)) ∧
      (∀ done text, ReadableItems done → GivesReadable (readItems fuel done text)) ∧
        ∀ done text, (done.map Prod.fst).Nodup → ReadableMembers done →
          GivesReadable (readMembers fuel done text) := by
  induction fuel with
  | zero => exact ⟨fun _ => trivial, fun _ _ _ => trivial, fun _ _ _ _ => trivial⟩
  | succ fuel ih =>
    obtain ⟨hvalue, hitems, hmembers⟩ := ih
    refine ⟨fun text => ?_, fun done text hdone => ?_, fun done text hnames hdone => ?_⟩
    · unfold readValue
      split
      · exact Ends.bind (Ends.of_forall fun _ => trivial) fun _ _ => trivial
      · split
        · trivial
        · exact hitems [] _ trivial
      · split
        · exact ⟨List.nodup_nil, trivial⟩
        · exact hmembers [] _ List.nodup_nil trivial
      · exact readScalar_readable text
    · unfold readItems
      refine Ends.bind (hvalue text) fun r hr => ?_
      simp only
      split
      · show ReadableItems (r.1 :: done).reverse
        have hall : ReadableItems (r.1 :: done) := ⟨hr, hdone⟩
        rw [readableItems_iff] at hall ⊢
        exact fun v hv => hall v (List.mem_reverse.mp hv)
      · exact hitems _ _ ⟨hr, hdone⟩
      · trivial
    · unfold readMembers
      split
      · refine Ends.bind (Ends.of_forall fun _ => trivial) fun name _ => ?_
        simp only
        split
        · refine Ends.bind (hvalue _) fun r hr => ?_
          have hnames' := Value.nodup_names_put name.1 r.1 hnames
          have hdone' := Value.readable_put name.1 hr hdone
          split
          · exact ⟨hnames', hdone'⟩
          · exact hmembers _ _ hnames' hdone'
          · trivial
        · trivial
      · trivial

/-- Every value that is read is readable. -/
theorem readable_of_read {v : Value} (h : read text = .ok v) : v.IsReadable := by
  unfold read at h
  split at h
  · cases h
  · have hvalue := (readable_parts (2 * text.length + 2)).1 (skipSpace text)
    split at h
    · cases h
    · next v' rest hread =>
      rw [hread] at hvalue
      split at h
      · cases h
        exact hvalue
      · cases h

end TurtleGrammar.Json
