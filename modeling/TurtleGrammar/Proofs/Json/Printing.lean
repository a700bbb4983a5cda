import TurtleGrammar.Proofs.Json.Plain
import TurtleGrammar.Proofs.Json.Strings

/-! A document as one text. The characters of a value at a level are those of its parts, one part
behind the other. -/

namespace TurtleGrammar

namespace Document

/-- The characters of a document. -/
def chars (d : Document) : List Char := d.flatMap Text.shownChars

theorem chars_nil : chars [] = [] := rfl

@[simp] theorem chars_cons (piece : Text) (d : Document) :
    chars (piece :: d) = Text.shownChars piece ++ chars d := List.flatMap_cons

end Document

namespace Json

theorem PlainDocument.fault_piece {d : Document} (hd : PlainDocument d) :
    ∀ piece ∈ d, Text.Utf8.fault? piece = none := by
  intro piece hpiece
  refine Option.eq_none_iff_forall_not_mem.mpr fun u hu => ?_
  have hmem := Text.mem_surrogates_of_fault hu
  rw [hd piece hpiece] at hmem
  cases hmem

/-- Without surrogates all of a document can be written. -/
theorem PlainDocument.fault_eq_none {d : Document} (hd : PlainDocument d) : d.fault? = none :=
  List.findSome?_eq_none_iff.mpr hd.fault_piece

theorem PlainDocument.toList_written {d : Document} (hd : PlainDocument d) :
    d.written.toList = d.chars := by
  rw [Document.toList_written hd.fault_eq_none, List.map_flatten, ← List.flatMap_def]
  rfl

/-- A line break with the indentation of a level. -/
def breakLine (level : Nat) : List Char := '\n' :: List.replicate (2 * level) ' '

mutual

/-- The characters of a value at a level. -/
def valueChars (level : Nat) : Value → List Char
  | .null => "null".toList
  | .bool b => (if b then "true" else "false").toList
  | .int i => (toString i).toList
  | .float x => Number.Shortest.write spelling x
  | .string s => stringChars s
  | .array [] => ['[', ']']
  | .array (v :: items) =>
    '[' :: (breakLine (level + 1) ++ (valueChars (level + 1) v ++
      (itemChars (level + 1) items ++ (breakLine level ++ [']']))))
  | .object [] => ['\x7b', '\x7d']
  | .object ((name, v) :: members) =>
    '\x7b' :: (breakLine (level + 1) ++ (stringChars name ++ (':' :: ' ' ::
      (valueChars (level + 1) v ++
        (memberChars (level + 1) members ++ (breakLine level ++ ['\x7d']))))))

/-- The characters of the items of an array after its first. -/
def itemChars (level : Nat) : List Value → List Char
  | [] => []
  | v :: items => ',' :: (breakLine level ++ (valueChars level v ++ itemChars level items))

/-- The characters of the members of an object after its first. -/
def memberChars (level : Nat) : List (Text × Value) → List Char
  | [] => []
  | (name, v) :: members =>
    ',' :: (breakLine level ++ (stringChars name ++ (':' :: ' ' ::
      (valueChars level v ++ memberChars level members))))

end

@[simp] theorem shownChars_lineAfter (c : Char) (level : Nat) :
    Text.shownChars (lineAfter c level) = c :: breakLine level := Text.shownChars_ofChars _

@[simp] theorem shownChars_lineBefore (c : Char) (level : Nat) :
    Text.shownChars (lineBefore c level) = breakLine level ++ [c] := Text.shownChars_ofChars _

mutual

theorem chars_valuePieces (level : Nat) (lead : Text) (v : Value) (rest : Document) :
    Document.chars (valuePieces level lead v rest) =
      Text.shownChars lead ++ (valueChars level v ++ rest.chars) := by
  cases v with
  | array items =>
    cases items with
    | nil => simp [valuePieces, valueChars]
    | cons v items =>
      simp [valuePieces, valueChars, chars_valuePieces (level + 1) _ v, chars_itemPieces]
  | object members =>
    cases members with
    | nil => simp [valuePieces, valueChars]
    | cons member members =>
      obtain ⟨name, v⟩ := member
      simp [valuePieces, valueChars, Text.shownChars_nil, chars_valuePieces (level + 1) _ v,
        chars_memberPieces]
  | _ => simp [valuePieces, valueChars]

theorem chars_itemPieces (level : Nat) (items : List Value) (rest : Document) :
    Document.chars (itemPieces level items rest) = itemChars level items ++ rest.chars := by
  cases items with
  | nil => rfl
  | cons v items =>
    simp [itemPieces, itemChars, chars_valuePieces level _ v, chars_itemPieces level items]

theorem chars_memberPieces (level : Nat) (members : List (Text × Value)) (rest : Document) :
    Document.chars (memberPieces level members rest) = memberChars level members ++ rest.chars := by
  cases members with
  | nil => rfl
  | cons member members =>
    obtain ⟨name, v⟩ := member
    simp [memberPieces, memberChars, Text.shownChars_nil, chars_valuePieces level _ v,
      chars_memberPieces level members]

end

theorem chars_document (v : Value) : (document v).chars = valueChars 0 v ++ ['\n'] := by
  simp [document, chars_valuePieces, Document.chars_nil, Text.shownChars_nil]

end Json

end TurtleGrammar
