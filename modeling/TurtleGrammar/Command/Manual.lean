import TurtleGrammar.Command.Scan

/-! The manuals of the commands: what each takes, and the texts that tell people so. -/

namespace TurtleGrammar.Command

/-- The manual of a command. -/
structure Manual where
  program : String
  /-- How the arguments are written. -/
  usage : String
  /-- What the command does and what its arguments mean. -/
  about : List String
  signature : Signature

namespace Manual

/-- The line that tells how the arguments are written. -/
def usageLine (m : Manual) : String := "usage: " ++ m.program ++ " " ++ m.usage ++ "\n"

/-- The whole text for people who ask for help. -/
def help (m : Manual) : String := m.usageLine ++ "\n" ++ "\n".intercalate m.about ++ "\n"

/-- The text for people whose arguments are not understood. -/
def complaint (m : Manual) (e : ArgumentError) : String :=
  m.usageLine ++ m.program ++ ": error: " ++ e.message ++ "\n"

end Manual

/-- Shows the manual in place of anything else. -/
def helpSwitch : Switch := ⟨.help, ["-h", "--help"], false⟩

/-- Shows the events of a run. -/
def verboseSwitch : Switch := ⟨.verbose, ["-v", "--verbose"], false⟩

/-- Names a file with a configuration. -/
def configSwitch : Switch := ⟨.config, ["--config"], true⟩

/-- Makes a random choice repeatable. -/
def seedSwitch : Switch := ⟨.seed, ["--seed"], true⟩

/-- The names of the commands. -/
def choices : List String := ["list", "show", "render", "random"]

/-- A command's name and its arguments. -/
def commandOperand : Operand := ⟨"cmd", .rest, true⟩

/-- The manual of the command line as a whole, which takes a command. -/
def mainManual : Manual where
  program := "lsystem_turtle.py"
  usage := "[-h] [-v] \x7blist,show,render,random\x7d ..."
  about := [
    "L-system grammar, rewriting and turtle playback.",
    "",
    "positional arguments:",
    "  \x7blist,show,render,random\x7d",
    "    list                List the built-in presets.",
    "    show                Print a summary of a preset or a JSON config.",
    "    render              Replay a preset or JSON config once and write the",
    "                        drawing as SVG.",
    "    random              Pick a random preset and write its JSON config.",
    "",
    "options:",
    "  -h, --help            show this help message and exit",
    "  -v, --verbose         Enable debug logging.",
    "",
    "GRAMMAR",
    "",
    "  Axiom: a token string, e.g. \"F-F-F-F\" or \"X\".",
    "  Rules: one per line, \"<predecessor> => <replacement>\", e.g.",
    "",
    "      X => F[+X]F[-X]+X",
    "      F => FF",
    "",
    "  Tokens",
    "      A-Z     forward, drawing a line",
    "      f       forward without drawing",
    "      a-z     inert marker (any other lowercase letter)",
    "      +       turn left by the angle",
    "      -       turn right by the angle",
    "      [  ]    push / pop the turtle position and heading",
    "",
    "  The predecessor must be a single letter. Symbols without a rule rewrite",
    "  to themselves. Any other character is a parse error.",
    "",
    "INPUT JSON SYNTAX (render --config, show --config)",
    "",
    "  name: string (default \"L-System\")",
    "  axiom: string (required)",
    "  rules: string of newline-separated rules, or a list of rule strings",
    "  iterations: integer >= 0 (default 0)",
    "  angle: number, degrees (default 90)",
    "",
    "  turtle.step: number > 0 (default 10)",
    "  turtle.start.x / turtle.start.y: number (default 0)",
    "  turtle.start.heading: number degrees (default 0; 0 = +X, 90 = +Y)",
    "",
    "  svg.margin: number (default 10)",
    "  svg.precision: integer 0..10 (default 3)",
    "  svg.flip_y: boolean (default true)",
    "  svg.width / svg.height: number (optional)",
    "  svg.background: string color (optional)",
    "  svg.style: stroke, stroke_width, fill, stroke_linecap, stroke_linejoin",
    "",
    "Example",
    "",
    "    \x7b",
    "      \"name\": \"dragon\",",
    "      \"axiom\": \"L\",",
    "      \"iterations\": 10,",
    "      \"rules\": [\"L => L+R+\", \"R => -L-R\"],",
    "      \"angle\": 90,",
    "      \"turtle\": \x7b\"step\": 4\x7d",
    "    \x7d",
    "",
    "EXIT CODES",
    "",
    "  0 ok, 2 config / parse / file error, 3 unbalanced brackets during replay"]
  signature := ⟨[helpSwitch, verboseSwitch], some commandOperand⟩

/-- The manual of the command that lists the presets. -/
def listManual : Manual where
  program := "lsystem_turtle.py list"
  usage := "[-h]"
  about := ["options:", "  -h, --help  show this help message and exit"]
  signature := ⟨[helpSwitch], none⟩

/-- The manual of the command that prints figures. -/
def showManual : Manual where
  program := "lsystem_turtle.py show"
  usage := "[-h] [--config CONFIG] [preset]"
  about := [
    "positional arguments:",
    "  preset           Built-in preset name.",
    "",
    "options:",
    "  -h, --help       show this help message and exit",
    "  --config CONFIG  Path to a JSON config instead of a preset."]
  signature := ⟨[helpSwitch, configSwitch], some ⟨"preset", .optional, false⟩⟩

/-- The manual of the command that draws. -/
def renderManual : Manual where
  program := "lsystem_turtle.py render"
  usage := "[-h] [--config CONFIG] source [source ...]"
  about := [
    "positional arguments:",
    "  source           [PRESET] OUTPUT (omit PRESET with --config).",
    "",
    "options:",
    "  -h, --help       show this help message and exit",
    "  --config CONFIG  Path to a JSON config instead of a preset."]
  signature := ⟨[helpSwitch, configSwitch], some ⟨"source", .many, true⟩⟩

/-- The manual of the command that chooses a preset. -/
def randomManual : Manual where
  program := "lsystem_turtle.py random"
  usage := "[-h] [--seed SEED] output"
  about := [
    "positional arguments:",
    "  output       Where to write the generated JSON file.",
    "",
    "options:",
    "  -h, --help   show this help message and exit",
    "  --seed SEED  Seed for repeatable choice."]
  signature := ⟨[helpSwitch, seedSwitch], some ⟨"output", .one, true⟩⟩

end TurtleGrammar.Command
