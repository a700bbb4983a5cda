import TurtleGrammar.Proofs.Grammar.RulePrinting

/-! The merging of rules. Rules given after others come last where they are for new symbols, and
else change the rules that are there in their places, so that it does not matter in how many parts
rules are given. -/

namespace TurtleGrammar.Rules

/-- Rules with replacements added or changed one after another. -/
def insertAll (rules : Rules) (entries : List (Symbol × Word)) : Rules :=
  entries.foldl (fun rules (key, replacement) => rules.insert key replacement) rules

/-- Rules with the rules of others given after them. -/
def merge (a b : Rules) : Rules := a.insertAll b.entries

/-- The rules of several parts, of which a later one replaces an earlier one and keeps its place. -/
def mergeAll (parts : List Rules) : Rules := parts.foldl merge empty

variable {a b rules : Rules} {key k : Symbol} {r r' : Word}
  {entries front back : List (Symbol × Word)} {parts : List Rules}

theorem put_put : put key r' (put key r entries) = put key r' entries := by
  induction entries with
  | nil => simp [put]
  | cons entry entries ih => by_cases h : entry.1 = key <;> simp [put, h, ih]

theorem put_comm (hkey : key ∈ entries.map Prod.fst) (hne : k ≠ key) :
    put k r' (put key r entries) = put key r (put k r' entries) := by
  induction entries with
  | nil => cases hkey
  | cons entry entries ih =>
    by_cases h : entry.1 = key
    · simp [put, h, Ne.symm hne]
    · have hrest := ih ((List.mem_cons.mp hkey).resolve_left (Ne.symm h))
      by_cases hk : entry.1 = k <;> simp [put, h, hk, hne, hrest]

theorem mem_keys_insert :
    key ∈ (rules.insert k r).entries.map Prod.fst ↔
      key ∈ rules.entries.map Prod.fst ∨ key = k := by
  rw [insert, keys_put]
  split
  next hk => exact ⟨.inl, fun h => h.elim id fun he => he ▸ hk⟩
  next => rw [List.mem_append, List.mem_singleton]

/-- A symbol that has a replacement and is not given another one can get it earlier or later. -/
theorem insertAll_insert (hkey : key ∈ rules.entries.map Prod.fst)
    (hnot : key ∉ entries.map Prod.fst) :
    (rules.insert key r).insertAll entries = (rules.insertAll entries).insert key r := by
  induction entries generalizing rules with
  | nil => rfl
  | cons entry entries ih =>
    obtain ⟨k, r'⟩ := entry
    rw [List.map_cons, List.mem_cons, not_or] at hnot
    have hcomm : (rules.insert key r).insert k r' = (rules.insert k r').insert key r :=
      eq_of_entries (put_comm hkey (Ne.symm hnot.1))
    show ((rules.insert key r).insert k r').insertAll entries = _
    rw [hcomm, ih (mem_keys_insert.mpr (.inl hkey)) hnot.2]
    rfl

theorem insertAll_put (h : (entries.map Prod.fst).Nodup) :
    rules.insertAll (put key r entries) = (rules.insertAll entries).insert key r := by
  induction entries generalizing rules with
  | nil => rfl
  | cons entry entries ih =>
    obtain ⟨k, r'⟩ := entry
    rw [List.map_cons, List.nodup_cons] at h
    by_cases hk : k = key
    · subst hk
      have hsame : (rules.insert k r').insert k r = rules.insert k r := eq_of_entries put_put
      rw [put, if_pos rfl]
      show (rules.insert k r).insertAll entries = ((rules.insert k r').insertAll entries).insert k r
      rw [← insertAll_insert (mem_keys_insert.mpr (.inr rfl)) h.1, hsame]
    · rw [put, if_neg hk]
      exact ih h.2

theorem ofList_append : ofList (front ++ back) = merge (ofList front) (ofList back) := by
  induction back using List.reverseRecOn with
  | nil =>
    rw [List.append_nil]
    rfl
  | append_singleton back entry ih =>
    rw [← List.append_assoc, ofList_concat, ofList_concat, ih, merge, merge]
    exact (insertAll_put (ofList back).nodup).symm

theorem ofList_flatten (given : List (List (Symbol × Word))) :
    ofList given.flatten = mergeAll (given.map ofList) := by
  induction given using List.reverseRecOn with
  | nil => rfl
  | append_singleton given last ih =>
    rw [List.flatten_append, List.flatten_singleton, ofList_append, ih, List.map_append, mergeAll,
      mergeAll, List.foldl_append]
    rfl

theorem keys_mergeAll :
    (mergeAll parts).entries.map Prod.fst =
      (parts.flatMap fun part => part.entries.map Prod.fst).eraseDups := by
  have hlist : mergeAll parts = ofList (parts.flatMap Rules.entries) := by
    rw [mergeAll, ofList, List.foldl_flatMap]
    rfl
  rw [hlist, keys_ofList, List.map_flatMap]

theorem replacement_insertAll :
    (rules.insertAll entries).replacement? key =
      (entries.reverse.lookup key).or (rules.replacement? key) := by
  induction entries using List.reverseRecOn with
  | nil => rfl
  | append_singleton entries entry ih =>
    obtain ⟨k, r⟩ := entry
    have hconcat :
        rules.insertAll (entries ++ [(k, r)]) = (rules.insertAll entries).insert k r := by
      rw [insertAll, List.foldl_append]
      rfl
    rw [hconcat, replacement?, insert, lookup_put, ← replacement?, ih, List.reverse_append,
      List.reverse_singleton, List.singleton_append, lookup_cons]
    split <;> rfl

/-- The last part that has a rule for a symbol counts. -/
theorem replacement_mergeAll :
    (mergeAll parts).replacement? key = parts.reverse.findSome? (replacement? · key) := by
  induction parts using List.reverseRecOn with
  | nil => rfl
  | append_singleton parts part ih =>
    have hconcat : mergeAll (parts ++ [part]) = (mergeAll parts).insertAll part.entries := by
      rw [mergeAll, List.foldl_append]
      rfl
    have hpart : part.entries.reverse.lookup key = part.replacement? key := by
      rw [← replacement_ofList, eq_of_entries (entries_ofList part.nodup)]
    rw [hconcat, replacement_insertAll, hpart, ih, List.reverse_append, List.reverse_singleton,
      List.singleton_append, List.findSome?_cons]
    cases part.replacement? key <;> rfl

end TurtleGrammar.Rules
