import TurtleGrammar.Failure

/-! Documents: what is written to a file, piece after piece. Each piece is encoded on its own, so
what stands before a piece that cannot be encoded is in the file, and places in that piece count
from its start. -/

namespace TurtleGrammar

/-- The pieces of a document in order. -/
abbrev Document := List Text

namespace Document

/-- Whether a piece can be encoded. -/
def isSound (piece : Text) : Bool := (Text.Utf8.fault? piece).isNone

/-- The pieces that reach the file: all before the first that cannot be encoded. -/
def written (d : Document) : String := String.join ((d.takeWhile isSound).map Text.shown)

/-- Why not all of a document can be written, if that is so. -/
def fault? (d : Document) : Option Text.Utf8.Unencodable := d.findSome? Text.Utf8.fault?

/-- A document as text, if all of it can be written. -/
def encode (d : Document) : Except Failure String :=
  match d.fault? with
  | some u => .error (.unencodable u)
  | none => .ok d.written

end Document

/-- Writes a document to a file, and tells what went wrong. If the file cannot be opened, all files
stay as they are, beside the directories made on the way, and else it holds what of the document can
be written. -/
def Files.save (files : Files) (path : String) (document : Document) : Files × Option Failure :=
  match files.write path (.text document.written) with
  | .error (made, e) => (made, some (.file e))
  | .ok files => (files, document.fault?.map .unencodable)

end TurtleGrammar
