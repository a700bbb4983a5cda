/-! Why a text is not JSON, and where. -/

namespace TurtleGrammar.Json

/-- What is wrong with a text. -/
inductive Cause
  | expectingValue
  | expectingName
  | expectingColon
  | expectingComma
  /-- A string without an end; the place is its start. -/
  | unterminated
  /-- A control character in a string. -/
  | controlCharacter
  /-- A backslash with a character after it that no escape has. -/
  | badEscape
  /-- A code unit without four hexadecimal digits. -/
  | badCodeUnit
  /-- Something after the value. -/
  | extraData
  /-- A byte order mark in front. -/
  | byteOrderMark
deriving DecidableEq, Repr

/-- The words for a cause, without its place. -/
def Cause.message : Cause → String
  | .expectingValue => "Expecting value"
  | .expectingName => "Expecting property name enclosed in double quotes"
  | .expectingColon => "Expecting ':' delimiter"
  | .expectingComma => "Expecting ',' delimiter"
  | .unterminated => "Unterminated string starting at"
  | .controlCharacter => "Invalid control character at"
  | .badEscape => "Invalid \\escape"
  | .badCodeUnit => "Invalid \\uXXXX escape"
  | .extraData => "Extra data"
  | .byteOrderMark => "Unexpected UTF-8 BOM (decode using utf-8-sig)"

/-- A cause with its place: a distance from the start of the text, and a line and a column, both
counted from one. -/
structure Error where
  cause : Cause
  offset : Nat
  line : Nat
  column : Nat
deriving DecidableEq, Repr

/-- The words for an error, its place last. -/
def Error.message (e : Error) : String :=
  e.cause.message ++ s!": line {e.line} column {e.column} (char {e.offset})"

/-- The error of a cause found where `rest` of a text begins. -/
def Error.at (text rest : List Char) (cause : Cause) : Error :=
  let before := text.take (text.length - rest.length)
  { cause
    offset := before.length
    line := before.count '\n' + 1
    column := (before.reverse.takeWhile (· != '\n')).length + 1 }

end TurtleGrammar.Json
