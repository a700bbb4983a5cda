import TurtleGrammar.Location
import TurtleGrammar.Text.Utf8

/-! A part of a tree of directories, with a working directory, and the reading and writing of files
by path. Where no file and no directory is known, there is none. -/

namespace TurtleGrammar

/-- What a file holds: text, or bytes that need not be text. -/
inductive Content
  | text (s : String)
  | bytes (b : List UInt8)

/-- The text of a file. -/
def Content.decode : Content → Except Text.Utf8.Malformed (List Char)
  | .text s => .ok s.toList
  | .bytes b => Text.Utf8.decode b

/-- The bytes of a file. -/
def Content.toBytes : Content → List UInt8
  | .text s => s.toUTF8.toList
  | .bytes b => b

/-- Why a path cannot be used. -/
inductive FileError.Cause
  | missing
  | exists
  | notDirectory
  | isDirectory
  | nameTooLong
deriving DecidableEq, Repr

/-- The number and the text of a cause in messages. -/
def FileError.Cause.phrase : FileError.Cause → String
  | .missing => "[Errno 2] No such file or directory"
  | .exists => "[Errno 17] File exists"
  | .notDirectory => "[Errno 20] Not a directory"
  | .isDirectory => "[Errno 21] Is a directory"
  | .nameTooLong => "[Errno 36] File name too long"

/-- Why a file cannot be read or written. -/
inductive FileError
  /-- A path holds the null character, which ends every path. -/
  | nullCharacter
  /-- A cause with the path it concerns. -/
  | failed (cause : FileError.Cause) (path : String)
deriving DecidableEq, Repr

/-- The words in which an error is reported. -/
def FileError.message : FileError → String
  | .nullCharacter => "embedded null byte"
  | .failed cause path => cause.phrase ++ ": " ++ Text.quoted path

/-- The files that are known, and the directories that are known to be there besides those that the
files lie in. -/
structure Files where
  /-- The working directory. -/
  home : Location
  files : List (Location × Content)
  directories : List Location

/-- What stands at a location. -/
inductive Files.Entry
  | file (c : Content)
  | directory
  | nothing

namespace Files

/-- Whether a name is longer than any that a directory can hold. -/
def isLongName (name : String) : Bool := 255 < name.utf8ByteSize

/-- Whether a path is longer than any that can be followed. -/
def isLongPath (path : String) : Bool := 4095 < path.utf8ByteSize

/-- What stands at a location. There is a directory wherever something lies below. -/
def entry (d : Files) (l : Location) : Entry :=
  match d.files.lookup l with
  | some c => .file c
  | none =>
    if l.isPrefixOf d.home || d.directories.any (l.isPrefixOf ·) ||
        d.files.any (l.isPrefixOf ·.1) then .directory
    else .nothing

/-- Follows names from a location. Each is looked up in a directory that has to be there. -/
def follow (d : Files) : Location → List String → Except FileError.Cause Location
  | l, [] => .ok l
  | l, name :: rest =>
    match d.entry l with
    | .directory =>
      if isLongName name then .error .nameTooLong else d.follow (l.enter name) rest
    | .file _ => .error .notDirectory
    | .nothing => .error .missing

/-- Why nothing can have a path, if that is so. -/
def pathFault? (path : String) : Option FileError :=
  if path.contains '\u0000' then some .nullCharacter
  else if isLongPath path then some (.failed .nameTooLong path)
  else none

/-- The location that the names lead to from the start of a path. A path that is empty, or that
nothing can have, is not followed at all. -/
def locate (d : Files) (path : String) (names : List String) : Except FileError Location :=
  if path.isEmpty then .error (.failed .missing path)
  else
    match pathFault? path with
    | some e => .error e
    | none => (d.follow (Location.startOf d.home path) names).mapError (.failed · path)

/-- The content of the file at a path. -/
def read (d : Files) (path : String) : Except FileError Content := do
  let l ← d.locate path (Location.namesOf path)
  match d.entry l with
  | .file c => if path.endsWith "/" then .error (.failed .notDirectory path) else .ok c
  | .directory => .error (.failed .isDirectory path)
  | .nothing => .error (.failed .missing path)

/-- Makes the directories with `names`, one in the other and the first in `done`, where none of them
is yet. If one cannot be made, those before it are there. -/
def addDirectories (d : Files) (root : String) (done : Location) :
    (names : List String) → Except (Files × FileError) Files
  | [] => .ok d
  | name :: rest =>
    let here := done ++ [name]
    let path := here.pathFrom root
    match pathFault? path with
    | some e => .error (d, e)
    | none =>
      if isLongName name then .error (d, .failed .nameTooLong path)
      else addDirectories { d with directories := here :: d.directories } root here rest

/-- Makes the directories with `names`, one in the other and the first in `done`, as far as they are
not there. None of them may be a file. -/
def makeDirectories (d : Files) (root : String) (done : Location) :
    (names : List String) → Except (Files × FileError) Files
  | [] => .ok d
  | name :: rest =>
    let here := done ++ [name]
    match d.entry here with
    | .file _ =>
      match rest with
      | [] => .error (d, .failed .exists (here.pathFrom root))
      | next :: _ =>
        let below := Location.pathFrom root (here ++ [next])
        .error (d, (pathFault? below).getD (.failed .notDirectory below))
    | .directory => d.makeDirectories root here rest
    | .nothing => d.addDirectories root done (name :: rest)

/-- The files with one added, or changed in its place. -/
def put (l : Location) (c : Content) : List (Location × Content) → List (Location × Content)
  | [] => [(l, c)]
  | (l', old) :: rest => if l' = l then (l, c) :: rest else (l', old) :: put l c rest

/-- Writes a file whose directory is there. A path that ends in a slash names a directory, whatever
its last name is. -/
def store (d : Files) (path : String) (c : Content) : Except FileError Files := do
  let names := Location.namesOf path
  if path.endsWith "/" then
    let _ ← d.locate path (names.dropLast ++ ["."])
    .error (.failed .isDirectory path)
  else
    let l ← d.locate path names
    match d.entry l with
    | .directory => .error (.failed .isDirectory path)
    | _ => .ok { d with files := put l c d.files }

/-- Writes a file and makes the directories that its path names before its last name. These stay if
the file cannot be written. -/
def write (d : Files) (path : String) (c : Content) : Except (Files × FileError) Files := do
  let directory := (Location.ofPath d.home path).dropLast
  let made ← d.makeDirectories (Location.rootOf path) [] directory
  (made.store path c).mapError (made, ·)

/-- A working directory that holds files, each given by its path. -/
def ofList (home : Location) (files : List (String × Content)) : Files where
  home
  files := files.map fun (path, c) => (Location.ofPath home path, c)
  directories := []

/-- The files that are not there, or not the same, in `old`. -/
def changedSince (d old : Files) : List (Location × Content) :=
  d.files.filter fun (l, c) => (old.files.lookup l).map Content.toBytes ≠ some c.toBytes

/-- The directories that were made since `old`, each after those that it lies in. -/
def madeSince (d old : Files) : List Location :=
  (d.directories.filter (!old.directories.contains ·)).reverse

end Files

end TurtleGrammar
