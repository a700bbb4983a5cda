import TurtleGrammar.Command.Run

/-! The command line. What a request names is taken from the disk as it stands, and what the
run made or changed is put there. -/

namespace TurtleGrammar

/-- The value of an option, if it has one. -/
def Command.Setting.value? {α : Type} : Command.Setting α → Option α
  | .value a => some a
  | _ => none

/-- The paths that a request names. -/
def Command.Request.paths : Command.Request → List String
  | .list => []
  | .describe _ config => config.value?.toList
  | .draw operands config => operands.getLast?.toList ++ config.value?.toList
  | .pick output _ => [output]

/-- Adds what stands on the disk at a location. -/
def Files.survey (d : Files) (l : Location) : IO Files := do
  try
    let data ← IO.FS.readBinFile l.path
    pure { d with files := (l, .bytes data.toList) :: d.files }
  catch
    | .inappropriateType _ code _ =>
      pure (if code = 21 then { d with directories := l :: d.directories } else d)
    | _ => pure d

/-- The files and directories on the disk that a command line names, with those on the way. -/
def loadFiles (args : List String) : IO Files := do
  let home := Location.namesOf (toString (← IO.currentDir))
  let paths :=
    match Command.readRequest args with
    | .read (_, request) => request.paths
    | _ => []
  let reached := paths.flatMap fun path =>
    (Location.namesOf path).scanl Location.enter (Location.startOf home path)
  reached.eraseDups.foldlM Files.survey (Files.ofList home [])

/-- Puts on the disk what was made or changed since `old`. -/
def Files.storeSince (d old : Files) : IO Unit := do
  for l in d.madeSince old do
    IO.FS.createDirAll l.path
  for (l, c) in d.changedSince old do
    IO.FS.writeBinFile l.path ⟨c.toBytes.toArray⟩

end TurtleGrammar

/-- Runs the command line and ends with its exit code, or with 1 after a failure that nobody
expects. -/
def main (args : List String) : IO UInt32 := do
  let files ← TurtleGrammar.loadFiles args
  let report := TurtleGrammar.Command.run files (← IO.monoNanosNow) args
  try
    report.files.storeSince files
  catch e =>
    IO.eprintln s!"File error: {e}"
    return 2
  IO.print report.output
  IO.eprint report.errors
  match report.ending with
  | .exit code => pure (UInt32.ofNat code)
  | .crash f => do
    IO.eprintln f.message
    pure 1
