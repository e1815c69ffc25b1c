import MazeAgent.Board.Snapshot
import MazeAgent.Document.Ron
import MazeAgent.Transport.Board

/-!
# Scenarios

A scenario names a layout and what moves on it, as written down for a demonstration or a test.

**Results.**
* `Scenario.read`: the scenario of a text.
* `Scenario.setup`: the setup of a scenario on its layout.
-/

namespace MazeAgent

/-- A named layout with what moves on it. -/
structure Scenario where
  /-- The name of the layout. -/
  map : String
  agent : Option Tile
  heading : Option Direction
  ghosts : List Ghost
  fruit : Option Fruit
  mode : GameMode
  lives : UInt8
  pelletsRemaining : Option UInt32
  sequence : UInt64
  deriving DecidableEq, Repr

namespace Scenario

/-! ## Reading -/

variable (attributes : Ron.Attributes)

def tile? (value : Ron.Value) : Option Tile :=
  match value.record? attributes "Tile" ["row", "col"] with
  | some [some row, some col] => do return ⟨← row.int32?, ← col.int32?⟩
  | _ => none

def heading? (value : Ron.Value) : Option (Option Direction) :=
  value.optional? attributes (Ron.Value.word? Direction.all Direction.wireName)

/-- The ghost of a value; its heading may be missing. -/
def ghost? (value : Ron.Value) : Option Ghost :=
  match value.record? attributes "Ghost" ["color", "tile", "frightened", "spawning", "heading"] with
  | some [some color, some tile, some frightened, some spawning, heading] => do
      return {
        color := ← color.word? GhostColor.all GhostColor.label
        tile := ← tile? attributes tile
        frightened := ← frightened.boolean?
        spawning := ← spawning.boolean?
        heading := ← heading? attributes (heading.getD (.word "None")) }
  | _ => none

def fruit? (value : Ron.Value) : Option Fruit :=
  match value.record? attributes "Fruit" ["tile", "remaining_steps", "duration"] with
  | some [some tile, some remaining, some duration] => do
      return ⟨← tile? attributes tile, ← remaining.uint32?, ← duration.uint32?⟩
  | _ => none

/-- The names of the fields of a scenario. -/
def fieldNames : List String :=
  ["map", "agent", "agent_heading", "ghosts", "fruit", "mode", "lives", "pellets_remaining",
    "sequence"]

/-- A field with its default when it is not given. -/
def fieldOr {α : Type} (field : Option Ron.Value) (decode : Ron.Value → Option α)
    (default : α) : Option α :=
  match field with
  | some value => decode value
  | none => some default

/-- The scenario of a value; all but the layout has a default. -/
def decode (value : Ron.Value) : Option Scenario :=
  match value.record? attributes "ScenarioRon" fieldNames with
  | some [some map, agent, heading, ghosts, fruit, mode, lives, pellets, sequence] => do
      return {
        map := ← map.text?
        agent := ← fieldOr agent (Ron.Value.optional? attributes (tile? attributes)) none
        heading := ← fieldOr heading (heading? attributes) none
        ghosts := ← fieldOr ghosts (Ron.Value.list? (ghost? attributes)) []
        fruit := ← fieldOr fruit (Ron.Value.optional? attributes (fruit? attributes)) none
        mode := ← fieldOr mode (Ron.Value.word? GameMode.all GameMode.label) GameMode.standard
        lives := ← fieldOr lives Ron.Value.uint8? 3
        pelletsRemaining :=
          ← fieldOr pellets (Ron.Value.optional? attributes Ron.Value.uint32?) none
        sequence := ← fieldOr sequence Ron.Value.uint64? 0 }
  | _ => none

def read (text : String) : Option Scenario :=
  match Ron.read text with
  | some (attributes, value) => decode attributes value
  | none => none

/-! ## Use -/

/-- The setup of a scenario on its layout. The layout gives the agent and the number of pellets
where the scenario does not. -/
def setup (scenario : Scenario) (layout : Layout) : Setup :=
  { Setup.ofLayout layout with
    sequence := scenario.sequence
    fruit := scenario.fruit
    ghosts := scenario.ghosts
    agent := scenario.agent.or layout.agent
    heading := scenario.heading
    lives := scenario.lives
    mode := scenario.mode
    pelletsRemaining := scenario.pelletsRemaining }

end Scenario
end MazeAgent
