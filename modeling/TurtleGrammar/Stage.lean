import TurtleGrammar.Playback

/-! A stage: systems, turtles and players that can be used in any combination. Several turtles and
players may play one system and then share its cursor. Systems, turtles and players are named by
their numbers in the order in which they came on the stage. -/

namespace TurtleGrammar

/-- A player: a turtle of its own, the system it plays, and where its turtle starts when it goes
over to another system. -/
structure Player where
  turtle : Nat
  system : Nat
  origin : Point
  heading : Float

/-- Everything on the stage, by number. -/
structure Stage where
  systems : List LSystem
  turtles : List Turtle
  players : List Player

namespace Stage

/-- The stage before anything comes on it. -/
def empty : Stage := ⟨[], [], []⟩

/-- Brings a system on the stage. Its number is how many were there before. -/
def addSystem (stage : Stage) (s : LSystem) : Stage :=
  { stage with systems := stage.systems ++ [s] }

/-- Brings a turtle on the stage. -/
def addTurtle (stage : Stage) (t : Turtle) : Stage :=
  { stage with turtles := stage.turtles ++ [t] }

/-- Brings a player on the stage with a new turtle, to play a system. -/
def addPlayer (stage : Stage) (system : Nat) (step : StepLength) (origin : Point)
    (heading : Float) : Stage :=
  let player : Player := { turtle := stage.turtles.length, system, origin, heading }
  { stage.addTurtle (Turtle.start step origin heading) with
    players := stage.players ++ [player] }

/-- Changes the system of a number. -/
def setSystem (stage : Stage) (i : Nat) (s : LSystem) : Stage :=
  { stage with systems := stage.systems.set i s }

/-- Changes the turtle of a number. -/
def setTurtle (stage : Stage) (i : Nat) (t : Turtle) : Stage :=
  { stage with turtles := stage.turtles.set i t }

/-- A turtle on the stage playing a system there. -/
def playback? (stage : Stage) (turtle system : Nat) : Option Playback := do
  pure ⟨← stage.turtles[turtle]?, ← stage.systems[system]?⟩

/-- The stage after a turtle played a system for some ticks, up to the first that failed, and what
came of it. -/
def play (stage : Stage) (turtle system : Nat) (ticks : Playback → Nat) :
    Option (Playback.Run × Stage) := do
  let p ← stage.playback? turtle system
  let r := p.run (ticks p)
  pure (r, (stage.setTurtle turtle r.final.turtle).setSystem system r.final.system)

/-- Takes one symbol of a system without a turtle. -/
def take (stage : Stage) (system : Nat) : Option (Symbol × Stage) := do
  let s ← stage.systems[system]?
  pure (s.peek, stage.setSystem system s.advance)

/-- Lets a player go over to a system, which stays at its cursor. The player's turtle starts over,
with everything but its step forgotten, at the origin and with the heading that are given now or
else were given last. -/
def switch (stage : Stage) (player system : Nat) (origin : Option Point)
    (heading : Option Float) : Option (List Event × Stage) := do
  let p ← stage.players[player]?
  let s ← stage.systems[system]?
  let t ← stage.turtles[p.turtle]?
  let p : Player :=
    { p with system, origin := origin.getD p.origin, heading := heading.getD p.heading }
  let stage := { stage with players := stage.players.set player p }
  pure ([.switched s.definition.name],
    stage.setTurtle p.turtle (t.restart p.origin p.heading))

end Stage

end TurtleGrammar
