import TurtleGrammar.Command.Request
import TurtleGrammar.Config

/-! The running of a command line on a working directory: what is printed, what is reported, which
files are written, and how the run ends. -/

namespace TurtleGrammar.Command

/-- What a command does: the lines it prints, the events on the way, the files as it leaves them,
and the failure that ended it, if one did. -/
structure Effect where
  printed : List String
  events : List Event
  files : Files
  failure : Option Failure

/-- The effect of a command that is refused before anything is done. -/
def Effect.refused (files : Files) (r : Refusal) : Effect := ⟨[], [], files, some (.refused r)⟩

/-- The effect of writing a document to a file and then printing some lines. -/
def Effect.writing (files : Files) (path : String) (document : Outcome Failure Document)
    (lines : List String) : Effect :=
  match document.result with
  | .error f => ⟨[], document.events, files, some f⟩
  | .ok d =>
    let (files, failure) := files.save path d
    ⟨if failure.isNone then lines else [], document.events, files, failure⟩

/-- The configuration of a preset or of a file, of which one and only one has to be given. -/
def loadConfig (files : Files) (preset : Option String) (config : Setting String) :
    Outcome Failure Config := do
  match preset, config with
  | none, .absent => Outcome.ofExcept (.error (.refused .noSource))
  | some name, .absent => Config.parse (← Config.ofPreset name)
  | none, .blank => Outcome.ofExcept (.error .blankPath)
  | none, .value path => Config.parse (← Outcome.ofExcept (Config.load files path))
  | some _, _ => Outcome.ofExcept (.error (.refused .twoSources))

/-- A preset's line in the list. -/
def presetLine (p : Preset) : String :=
  p.name ++ "".pushn ' ' (12 - p.name.length) ++
    s!" depth={p.generations} angle={Angle.degreesText 3 p.delta}"

/-- The lines about a configuration that are known before its word is played. The output is one that
takes every text, also a name that cannot be encoded. -/
def figures (d : Definition) (word : Word) : List String :=
  ["name: " ++ d.name.shown, "axiom: " ++ d.initial.text] ++
    d.rules.lines.map (fun line => "rule: " ++ String.ofList line) ++
    [s!"iterations: {d.generations}", s!"angle: {Angle.degreesText 3 d.delta} deg",
      s!"symbols: {word.length}",
      "kinds: " ++ " ".intercalate (word.kindCounts.map fun (k, n) => s!"{k.name}={n}"),
      "balanced: " ++ if word.isBalanced then "yes" else "no"]

/-- The lines about a word that was played to its end. -/
def replayFigures (r : Playback.Run) : List String :=
  [s!"segments: {r.segments.size}", s!"stack depth after replay: {r.final.turtle.depth}"]

/-- Prints the figures of a configuration. The last ones need the word to be played, and are left
out if that fails. -/
def describe (files : Files) (preset : Option String) (config : Setting String) : Effect :=
  let opened : Outcome Failure (Config × Playback) := do
    let c ← loadConfig files preset config
    pure (c, ← c.playback)
  match opened.result with
  | .error f => ⟨[], opened.events, files, some f⟩
  | .ok (c, p) =>
    let r := p.replay
    let events := opened.events ++ r.events.toList
    let first := figures c.definition p.system.word.toList
    match r.failure with
    | some e => ⟨first, events, files, some (.turtle e)⟩
    | none => ⟨first ++ replayFigures r, events, files, none⟩

/-- The drawing of a configuration. -/
def drawing (files : Files) (preset : Option String) (config : Setting String) :
    Outcome Failure Document := do
  let c ← loadConfig files preset config
  let r := (← c.playback).replay
  Outcome.report r.events.toList
  Outcome.ofExcept do
    if let some e := r.failure then throw (.turtle e)
    c.sheet.render r.segments.toList

/-- Writes the drawing of a configuration to a file. -/
def draw (files : Files) (preset : Option String) (config : Setting String) (output : String) :
    Effect :=
  .writing files output (drawing files preset config) []

/-- Writes the configuration of a preset chosen at random to a file, and prints its name. -/
def pick (files : Files) (output : String) (seed : Int) : Effect :=
  let (name, _) := Preset.choose (Twister.ofSeed seed)
  .writing files output (do pure (Json.document (← Config.ofPreset name))) [name]

/-- Does what is asked. A preset is chosen with `seed` if no other is given. -/
def Request.perform (files : Files) (seed : Int) : Request → Effect
  | .list => ⟨Preset.all.map presetLine, [], files, none⟩
  | .describe preset config => Command.describe files preset config
  | .draw [preset, output] .absent => Command.draw files (some preset) .absent output
  | .draw _ .absent => .refused files .needsPresetAndOutput
  | .draw [output] config => Command.draw files none config output
  | .draw _ _ => .refused files .needsOutputOnly
  | .pick output .absent => Command.pick files output seed
  | .pick output (.value given) => Command.pick files output given
  | .pick _ .blank => ⟨[], [], files, some .blankSeed⟩

/-- How a run ends: with an exit code, or with a failure that nobody expects. -/
inductive Ending
  | exit (code : Nat)
  | crash (f : Failure)

/-- The end of a run that failed, and the line about it. -/
def endingOf : Failure → Ending × String
  | .refused (.parse e) => (.exit 2, "Parse error: " ++ e.message ++ "\n")
  | .refused r => (.exit 2, "Config error: " ++ r.message ++ "\n")
  | .file (.failed cause path) =>
    (.exit 2, "File error: " ++ (FileError.failed cause path).message ++ "\n")
  | .turtle .underflow => (.exit 3, "Malformed L-system: " ++ TurtleError.underflow.message ++ "\n")
  | f => (.crash f, "")

/-- Everything that a run leaves behind. -/
structure Report where
  output : String
  errors : String
  ending : Ending
  files : Files

/-- An event on the error output. -/
def eventLine (e : Event) : String := e.level ++ " lsystem_turtle: " ++ e.message ++ "\n"

/-- The report of what a command did, with its events if they are asked for. -/
def Effect.report (verbose : Bool) (d : Effect) : Report :=
  let output := String.join (d.printed.map (· ++ "\n"))
  let events := if verbose then String.join (d.events.map eventLine) else ""
  match d.failure with
  | none => ⟨output, events, .exit 0, d.files⟩
  | some f =>
    let (ending, line) := endingOf f
    ⟨output, events ++ line, ending, d.files⟩

/-- Runs a command line. -/
def run (files : Files) (seed : Int) (args : List String) : Report :=
  match readRequest args with
  | .help text => ⟨text, "", .exit 0, files⟩
  | .misuse m e => ⟨"", m.complaint e, .exit 2, files⟩
  | .read (verbose, request) => (request.perform files seed).report verbose

end TurtleGrammar.Command
