import TurtleGrammar.Word

/-! Rules: for some symbols, the word that replaces each of them. -/

namespace TurtleGrammar

/-- Replacements by symbol, in the order in which the symbols were first given one. -/
structure Rules where
  entries : List (Symbol × Word)
  nodup : (entries.map Prod.fst).Nodup

namespace Rules

/-- No rules. -/
def empty : Rules := ⟨[], List.nodup_nil⟩

/-- The replacement of a symbol that has one. -/
def replacement? (rules : Rules) (s : Symbol) : Option Word := rules.entries.lookup s

/-- Gives a symbol a replacement: in place of the one it has, or at the end. -/
def put (key : Symbol) (replacement : Word) : List (Symbol × Word) → List (Symbol × Word)
  | [] => [(key, replacement)]
  | (k, r) :: rest =>
    if k = key then (k, replacement) :: rest else (k, r) :: put key replacement rest

/-- A symbol that is new comes last, and the others stay where they are. -/
theorem keys_put (key : Symbol) (replacement : Word) (entries : List (Symbol × Word)) :
    (put key replacement entries).map Prod.fst =
      if key ∈ entries.map Prod.fst then entries.map Prod.fst
      else entries.map Prod.fst ++ [key] := by
  induction entries with
  | nil => rfl
  | cons entry rest ih =>
    obtain ⟨k, r⟩ := entry
    by_cases h : k = key
    · simp [put, h]
    · simp only [put, if_neg h, List.map_cons, ih, List.mem_cons]
      have h' : ¬ key = k := fun e => h e.symm
      by_cases hm : key ∈ rest.map Prod.fst <;> simp [h', hm]

/-- Rules with one replacement added or changed. -/
def insert (rules : Rules) (key : Symbol) (replacement : Word) : Rules where
  entries := put key replacement rules.entries
  nodup := by
    rw [keys_put]
    split
    · exact rules.nodup
    · next h =>
      rw [List.nodup_append]
      refine ⟨rules.nodup, by simp, ?_⟩
      intro a ha b hb hab
      rw [List.mem_singleton] at hb
      exact h (hb ▸ hab ▸ ha)

/-- The rules of a list, of which a later entry for a symbol replaces an earlier one. -/
def ofList (entries : List (Symbol × Word)) : Rules :=
  entries.foldl (fun rules (key, replacement) => rules.insert key replacement) empty

/-- Whether two sets of rules give the same replacements, in whatever order. -/
def agrees (a b : Rules) : Bool :=
  a.entries.length == b.entries.length &&
    a.entries.all fun (key, replacement) => b.replacement? key == some replacement

end Rules

end TurtleGrammar
