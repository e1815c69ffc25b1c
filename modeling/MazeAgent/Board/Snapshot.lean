import MazeAgent.Board.Layout
import MazeAgent.Board.Entity
import MazeAgent.Board.Maze

/-!
# Snapshots

A snapshot is everything known about the game at one tick. It is assembled from a `Setup`, a
layout with the moving parts, which is checked when the snapshot is built.

**Results.**
* `Setup.build`: the snapshot of a setup, or the first reason why there is none.
* `Snapshot.isWalkable`, `Snapshot.neighbors`: where one can go.
* `Snapshot.withAgentAt`: the snapshot after a move of the agent.
-/

namespace MazeAgent

/-- The number of ghosts a snapshot can hold. -/
abbrev maxGhosts : Nat := 4

/-- Why a setup makes no snapshot. -/
inductive SnapshotError where
  | ghostListFull (max : UInt64)
  | outOfBounds (tile : Tile)
  | missingAgent
  deriving DecidableEq, Repr

namespace SnapshotError

def message : SnapshotError → String
  | ghostListFull max => s!"ghost list is full (max: {max})"
  | outOfBounds tile => s!"{tile.text} is off the board"
  | missingAgent => "snapshot has no agent position"

/-- A wrong setup is rejected. -/
def severity (_ : SnapshotError) : Severity := .validation

end SnapshotError

def Sequence.next (sequence : UInt64) : Checked UInt64 :=
  if sequence.toNat + 1 < UInt64.size then .ok (sequence + 1) else .error .additionOverflow

/-- The game at one tick. -/
structure Snapshot where
  sequence : UInt64
  walls : Maze
  pellets : Grid Bool
  superPellets : Grid Bool
  fruit : Option Fruit
  ghosts : List Ghost
  agent : Tile
  heading : Option Direction
  lives : UInt8
  mode : GameMode
  pelletsRemaining : UInt32
  deriving DecidableEq

namespace Snapshot

/-- Whether a tile is a wall; everything off the board is. -/
def isWall (board : Snapshot) (tile : Tile) : Bool := board.walls.readOr tile true

def hasPellet (board : Snapshot) (tile : Tile) : Bool := board.pellets.readOr tile false

/-- Whether a super pellet lies on a tile. -/
def hasSuperPellet (board : Snapshot) (tile : Tile) : Bool := board.superPellets.readOr tile false

def isWalkable (board : Snapshot) (tile : Tile) : Bool := tile.onBoard && !board.isWall tile

/-- The neighbour of a tile in a direction, when it can be entered. -/
def neighbor? (board : Snapshot) (tile : Tile) (direction : Direction) :
    Checked (Option (Direction × Tile)) := do
  let next ← tile.step direction
  return if board.isWalkable next then some (direction, next) else none

/-- The neighbours of a tile that can be entered, with the directions that lead to them. -/
def neighbors (board : Snapshot) (tile : Tile) : Checked (List (Direction × Tile)) :=
  Direction.all.filterMapM (board.neighbor? tile)

def threats (board : Snapshot) : List Ghost := board.ghosts.filter Ghost.isThreat

/-- The tile ahead of the agent, if the agent has a heading and the tile can be entered. -/
def tileAhead (board : Snapshot) : Checked (Option Tile) :=
  match board.heading with
  | none => .ok none
  | some direction => do
      let next ← board.agent.step direction
      return if board.isWalkable next then some next else none

/-- The snapshot with the agent moved to a tile; items stay where they are. -/
def withAgentAt (board : Snapshot) (tile : Tile) (sequence : UInt64) : Checked Snapshot := do
  let direction ← board.agent.directionTo tile
  return { board with
    heading := direction.toOption
    agent := tile
    sequence := sequence }

end Snapshot

/-- What a snapshot is assembled from. -/
structure Setup where
  layout : Layout
  sequence : UInt64
  fruit : Option Fruit
  ghosts : List Ghost
  agent : Option Tile
  heading : Option Direction
  lives : UInt8
  mode : GameMode
  pelletsRemaining : Option UInt32
  deriving DecidableEq

namespace Setup

def ofLayout (layout : Layout) : Setup where
  layout := layout
  sequence := 0
  fruit := none
  ghosts := []
  agent := layout.agent
  heading := none
  lives := 3
  mode := GameMode.standard
  pelletsRemaining := none

/-- The setup with a fruit on the marker of the layout; without a marker there is no fruit. -/
def withMarkedFruit (setup : Setup) (remainingSteps duration : UInt32) : Setup :=
  { setup with fruit := setup.layout.fruit.map (fun tile => ⟨tile, remainingSteps, duration⟩) }

/-- The first reason to refuse the ghosts that follow `count` others. -/
def refuseGhosts : (count : Nat) → List Ghost → Option SnapshotError
  | _, [] => none
  | count, ghost :: rest =>
      if !ghost.tile.onBoard then
        some (.outOfBounds ghost.tile)
      else if maxGhosts ≤ count then
        some (.ghostListFull maxGhosts.toUInt64)
      else
        refuseGhosts (count + 1) rest

def build (setup : Setup) : Except SnapshotError Snapshot :=
  match setup.agent with
  | none => .error .missingAgent
  | some agent =>
      if !agent.onBoard then
        .error (.outOfBounds agent)
      else
        match refuseGhosts 0 setup.ghosts with
        | some error => .error error
        | none =>
            .ok {
              sequence := setup.sequence
              walls := setup.layout.walls
              pellets := setup.layout.pellets
              superPellets := setup.layout.superPellets
              fruit := setup.fruit
              ghosts := setup.ghosts
              agent := agent
              heading := setup.heading
              lives := setup.lives
              mode := setup.mode
              pelletsRemaining :=
                setup.pelletsRemaining.getD setup.layout.pelletCount.toUInt32 }

end Setup
end MazeAgent
