import TurtleGrammar.Document
import TurtleGrammar.Json.Value
import TurtleGrammar.Number.Shortest

/-! The writing of a value as JSON, with each item and each member on a line of its own, indented
by two blanks for each level. An item that opens no bracket is one piece with its indentation and
the sign that ends the line above it. The name of a member is a piece of its own, and so is a value
that opens no bracket. -/

namespace TurtleGrammar.Json

/-- A character of a string: the quote, the backslash and the controls by escapes, all else as
itself. -/
def escapeChar (c : Char) : List Char :=
  if c = '"' then ['\\', '"']
  else if c = '\\' then ['\\', '\\']
  else if c = '\n' then ['\\', 'n']
  else if c = '\r' then ['\\', 'r']
  else if c = '\t' then ['\\', 't']
  else if c = '\x08' then ['\\', 'b']
  else if c = '\x0c' then ['\\', 'f']
  else if c.toNat < 0x20 then '\\' :: 'u' :: Text.hexadecimal 4 c.toNat
  else [c]

/-- A code point of a string. Half of a character stays as it is. -/
def escapeCodePoint : Text.CodePoint → Text
  | .scalar c => Text.ofChars (escapeChar c)
  | .surrogate s => [.surrogate s]

/-- The text that stands for a string: itself between quotes. -/
def stringText (s : Text) : Text :=
  .scalar '"' :: s.flatMap escapeCodePoint ++ [.scalar '"']

/-- Numbers that are not finite have words of their own. -/
def spelling : Number.Shortest.Spelling := ⟨"NaN".toList, "Infinity".toList⟩

/-- A character, a line break and the indentation of a level. -/
def lineAfter (c : Char) (level : Nat) : Text :=
  Text.ofChars (c :: '\n' :: List.replicate (2 * level) ' ')

/-- A line break, the indentation of a level, and a character. -/
def lineBefore (c : Char) (level : Nat) : Text :=
  Text.ofChars ('\n' :: List.replicate (2 * level) ' ' ++ [c])

mutual

/-- The pieces of a value at a level, before the pieces of `rest`. The first piece starts with
`lead`. -/
def valuePieces (level : Nat) (lead : Text) (v : Value) (rest : Document) : Document :=
  match v with
  | .null => (lead ++ Text.ofString "null") :: rest
  | .bool b => (lead ++ Text.ofString (if b then "true" else "false")) :: rest
  | .int i => (lead ++ Text.ofString (toString i)) :: rest
  | .float x => (lead ++ Text.ofChars (Number.Shortest.write spelling x)) :: rest
  | .string s => (lead ++ stringText s) :: rest
  | .array [] => (lead ++ Text.ofString "[]") :: rest
  | .array (v :: items) =>
    lead :: valuePieces (level + 1) (lineAfter '[' (level + 1)) v
      (itemPieces (level + 1) items (lineBefore ']' level :: rest))
  | .object [] => (lead ++ Text.ofString "\x7b\x7d") :: rest
  | .object ((name, v) :: members) =>
    (lead ++ lineAfter '\x7b' (level + 1)) :: stringText name :: Text.ofString ": " ::
      valuePieces (level + 1) [] v
        (memberPieces (level + 1) members (lineBefore '\x7d' level :: rest))

/-- The pieces of the items of an array after its first, before those of `rest`. -/
def itemPieces (level : Nat) : List Value → Document → Document
  | [], rest => rest
  | v :: items, rest => valuePieces level (lineAfter ',' level) v (itemPieces level items rest)

/-- The pieces of the members of an object after its first, before those of `rest`. -/
def memberPieces (level : Nat) : List (Text × Value) → Document → Document
  | [], rest => rest
  | (name, v) :: members, rest =>
    lineAfter ',' level :: stringText name :: Text.ofString ": " ::
      valuePieces level [] v (memberPieces level members rest)

end

/-- A document that holds a value and ends its line. -/
def document (v : Value) : Document := valuePieces 0 [] v [Text.ofString "\n"]

end TurtleGrammar.Json
