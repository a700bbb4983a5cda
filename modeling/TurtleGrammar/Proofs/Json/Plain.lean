import TurtleGrammar.Json.Writer
import TurtleGrammar.Proofs.Text.Surrogates

/-! Values without surrogates. If no string in a value and no name of a member has a surrogate, then
the document that the value is written as has none. -/

namespace TurtleGrammar.Json

open Text (surrogates)

mutual

/-- No string in a value and no name of a member has a surrogate. -/
def Value.IsPlain : Value → Prop
  | .string s => surrogates s = []
  | .array items => PlainItems items
  | .object members => PlainMembers members
  | _ => True

/-- All of the items are plain. -/
def PlainItems : List Value → Prop
  | [] => True
  | v :: items => v.IsPlain ∧ PlainItems items

/-- All of the members are plain, and so are their names. -/
def PlainMembers : List (Text × Value) → Prop
  | [] => True
  | (name, v) :: members => surrogates name = [] ∧ v.IsPlain ∧ PlainMembers members

end

theorem plainItems_iff {items : List Value} : PlainItems items ↔ ∀ v ∈ items, v.IsPlain := by
  induction items with
  | nil => simp [PlainItems]
  | cons v items ih => simp [PlainItems, ih]

theorem plain_of_lookup {name : Text} {v : Value} {members : List (Text × Value)}
    (h : PlainMembers members) (hv : members.lookup name = some v) : v.IsPlain := by
  induction members with
  | nil => cases hv
  | cons member members ih =>
    obtain ⟨n, w⟩ := member
    obtain ⟨-, hw, hrest⟩ := h
    rw [List.lookup_cons] at hv
    split at hv
    · cases hv
      exact hw
    · exact ih hrest hv

mutual

instance Value.decidableIsPlain : (v : Value) → Decidable v.IsPlain
  | .string s => inferInstanceAs (Decidable (surrogates s = []))
  | .array items => decidablePlainItems items
  | .object members => decidablePlainMembers members
  | .null | .bool _ | .int _ | .float _ => .isTrue True.intro

instance decidablePlainItems : (items : List Value) → Decidable (PlainItems items)
  | [] => .isTrue True.intro
  | v :: items =>
    have := v.decidableIsPlain
    have := decidablePlainItems items
    inferInstanceAs (Decidable (v.IsPlain ∧ PlainItems items))

instance decidablePlainMembers :
    (members : List (Text × Value)) → Decidable (PlainMembers members)
  | [] => .isTrue True.intro
  | (name, v) :: members =>
    have := v.decidableIsPlain
    have := decidablePlainMembers members
    inferInstanceAs (Decidable (surrogates name = [] ∧ v.IsPlain ∧ PlainMembers members))

end

/-- No piece of a document has a surrogate. -/
def PlainDocument (d : Document) : Prop := ∀ piece ∈ d, surrogates piece = []

@[simp] theorem plainDocument_cons {piece : Text} {d : Document} :
    PlainDocument (piece :: d) ↔ surrogates piece = [] ∧ PlainDocument d :=
  List.forall_mem_cons

@[simp] theorem surrogates_stringText (s : Text) : surrogates (stringText s) = surrogates s := by
  have hescape : surrogates (s.flatMap escapeCodePoint) = surrogates s := by
    refine Text.surrogates_flatMap fun c => ?_
    cases c with
    | scalar c => exact Text.surrogates_ofChars (escapeChar c)
    | surrogate x => rfl
  simp [stringText, Text.surrogates_scalar, hescape]

@[simp] theorem surrogates_lineAfter (c : Char) (level : Nat) :
    surrogates (lineAfter c level) = [] := Text.surrogates_ofChars _

@[simp] theorem surrogates_lineBefore (c : Char) (level : Nat) :
    surrogates (lineBefore c level) = [] := Text.surrogates_ofChars _

mutual

theorem plain_valuePieces {level : Nat} {lead : Text} {v : Value} {rest : Document}
    (hlead : surrogates lead = []) (hv : v.IsPlain) (hrest : PlainDocument rest) :
    PlainDocument (valuePieces level lead v rest) := by
  cases v with
  | string s =>
    rw [Value.IsPlain] at hv
    simp [valuePieces, hlead, hv, hrest]
  | array items =>
    cases items with
    | nil => simp [valuePieces, hlead, hrest]
    | cons v items =>
      obtain ⟨hv, hitems⟩ := hv
      rw [valuePieces, plainDocument_cons]
      refine ⟨hlead, plain_valuePieces (surrogates_lineAfter _ _) hv ?_⟩
      exact plain_itemPieces hitems (by simp [hrest])
  | object members =>
    cases members with
    | nil => simp [valuePieces, hlead, hrest]
    | cons member members =>
      obtain ⟨name, v⟩ := member
      obtain ⟨hname, hv, hmembers⟩ := hv
      have hend : PlainDocument (lineBefore '\x7d' level :: rest) := by simp [hrest]
      simp only [valuePieces, plainDocument_cons, Text.surrogates_append, hlead, hname,
        surrogates_lineAfter, surrogates_stringText, Text.surrogates_ofString, List.append_nil,
        true_and]
      exact plain_valuePieces Text.surrogates_nil hv (plain_memberPieces hmembers hend)
  | _ => simp [valuePieces, hlead, hrest]

theorem plain_itemPieces {level : Nat} {items : List Value} {rest : Document}
    (hitems : PlainItems items) (hrest : PlainDocument rest) :
    PlainDocument (itemPieces level items rest) := by
  cases items with
  | nil => exact hrest
  | cons v items =>
    obtain ⟨hv, hitems⟩ := hitems
    rw [itemPieces]
    exact plain_valuePieces (surrogates_lineAfter _ _) hv (plain_itemPieces hitems hrest)

theorem plain_memberPieces {level : Nat} {members : List (Text × Value)} {rest : Document}
    (hmembers : PlainMembers members) (hrest : PlainDocument rest) :
    PlainDocument (memberPieces level members rest) := by
  cases members with
  | nil => exact hrest
  | cons member members =>
    obtain ⟨name, v⟩ := member
    obtain ⟨hname, hv, hmembers⟩ := hmembers
    simp only [memberPieces, plainDocument_cons, hname, surrogates_lineAfter,
      surrogates_stringText, Text.surrogates_ofString, true_and]
    exact plain_valuePieces Text.surrogates_nil hv (plain_memberPieces hmembers hrest)

end

theorem plain_document {v : Value} (hv : v.IsPlain) : PlainDocument (document v) :=
  plain_valuePieces Text.surrogates_nil hv (List.forall_mem_singleton.mpr rfl)

end TurtleGrammar.Json
