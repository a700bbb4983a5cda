import TurtleGrammar.Main
import TurtleGrammar.Stage
import TurtleGrammar.Proofs.Playback.Balance
import TurtleGrammar.Proofs.Playback.Brackets
import TurtleGrammar.Proofs.Playback.Record
import TurtleGrammar.Proofs.Turtle.Branch
import TurtleGrammar.Proofs.Grammar.Language
import TurtleGrammar.Proofs.Stage.Acts
import TurtleGrammar.Proofs.Stage.Sharing
import TurtleGrammar.Proofs.Playback.Stepwise
import TurtleGrammar.Proofs.Stage.Failure
import TurtleGrammar.Proofs.Json.Digits
import TurtleGrammar.Proofs.Text.Surrogates
import TurtleGrammar.Proofs.Drawing.Texts
import TurtleGrammar.Proofs.Config.Fields
import TurtleGrammar.Proofs.Files.NullCharacter
import TurtleGrammar.Proofs.Config.Presets
import TurtleGrammar.Proofs.Command.Oversights
import TurtleGrammar.Proofs.Command.Ending
import TurtleGrammar.Proofs.Config.Export
import TurtleGrammar.Proofs.Stage.Twins
import TurtleGrammar.Proofs.Stage.Solo
import TurtleGrammar.Proofs.Stage.Apart
import TurtleGrammar.Proofs.Command.Figures
import TurtleGrammar.Proofs.Command.Footprint
import TurtleGrammar.Proofs.Grammar.Faults
import TurtleGrammar.Proofs.Drawing.Strokes
import TurtleGrammar.Proofs.Config.Saving
import TurtleGrammar.Proofs.Number.Compact
import TurtleGrammar.Proofs.Config.Acceptance
import TurtleGrammar.Proofs.Drawing.Numbers
import TurtleGrammar.Proofs.Grammar.Joining
import TurtleGrammar.Proofs.Playback.Frames
import TurtleGrammar.Proofs.Playback.Passes
import TurtleGrammar.Proofs.Drawing.Recovery
import TurtleGrammar.Proofs.Grammar.Growth
import TurtleGrammar.Proofs.Grammar.Construction
import TurtleGrammar.Proofs.Drawing.Extent
import TurtleGrammar.Proofs.Drawing.Titles
import TurtleGrammar.Proofs.Drawing.Visits
import TurtleGrammar.Proofs.Grammar.Parts
