import MazeAgent.Board.Snapshot
import MazeAgent.Config.Basic
import MazeAgent.Distance.Basic
import MazeAgent.Field.Basic

/-!
# The score of a tile

The score of an open tile is the repulsion of the ghosts, less the rewards of what lies on the
tile, less the pull of the fruit and of threatened super pellets, less a bonus for going
straight on.

**Results.**
* `FieldConfig.repulsion`, `FieldConfig.pelletReward`, `FieldConfig.superPelletReward`,
  `FieldConfig.fruitReward`: the parts of a score.
* `FieldConfig.score`: the score of one open cell.
* `FieldConfig.field`: the field of a snapshot.
-/

namespace MazeAgent
namespace FieldConfig

variable (config : FieldConfig) (board : Snapshot) (distances : Distances)

/-! ## Ghosts -/

/-- The repulsion of one ghost at a tile. A frightened ghost attracts, and a ghost that is still
in its pen counts less. -/
def ghostRepulsion (tile : Tile) (ghost : Ghost) : Checked Single := do
  let distance ← distances.between tile ghost.tile
  if config.effectiveGhostThreshold board.pelletsRemaining ≤ distance then
    return 0
  else
    let value := config.ghostBoost / config.ghostDecay.divisor distance *
      config.colorWeights.get ghost.color * config.modeMultipliers.get board.mode
    let value := if ghost.frightened then value * -config.frightenedWeight else value
    return if ghost.spawning then value / config.spawningDivisor else value

/-- The repulsion of all ghosts at a tile. -/
def repulsion (tile : Tile) : Checked Single := do
  let values ← board.ghosts.mapM (config.ghostRepulsion board distances tile)
  return Single.sum values

/-! ## Pellets -/

/-- Whether a pellet of either kind lies on a cell. -/
def hasItem (cell : Cell) : Bool := board.pellets.get cell || board.superPellets.get cell

/-- The number of cells with a pellet of either kind in a window of rows and columns, its bounds
included. A window may be far larger than the board, so the cells are gone through. -/
def itemsWithin (top bottom left right : Int32) : Nat :=
  Cell.all.countP (fun cell =>
    top.toInt ≤ cell.row && cell.row ≤ bottom.toInt && left.toInt ≤ cell.col &&
      cell.col ≤ right.toInt && hasItem board cell)

/-- The share of cells with a pellet of either kind in the square around a tile. The half width
of the square is read as a signed number. -/
def clusterDensity (tile : Tile) : Checked Single := do
  let radius := config.clusterRadius.toInt32
  let side ← Coordinate.add (← Coordinate.mul 2 radius) 1
  let top ← Coordinate.sub tile.row radius
  let bottom ← Coordinate.add tile.row radius
  let items ←
    if top ≤ bottom then do
      let left ← Coordinate.sub tile.col radius
      let right ← Coordinate.add tile.col radius
      pure (itemsWithin board top bottom left right)
    else
      pure 0
  let area ← Coordinate.mul side side
  return Single.ofNat items / Single.ofInt area.toInt

/-- The reward of a pellet on a tile, zero without one. -/
def pelletReward (tile : Tile) : Checked Single :=
  if !board.hasPellet tile then
    .ok 0
  else
    let base := config.pelletBoost * config.pelletMultiplier board.pelletsRemaining
    if config.clusterWeight.numEq 0 then
      .ok base
    else do
      let density ← config.clusterDensity board tile
      return base * (1 + config.clusterWeight * density)

/-! ## Super pellets -/

/-- Whether a threatening ghost is near a tile. -/
def isThreatened (tile : Tile) : Checked Bool :=
  board.threats.anyM (fun ghost => do
    let distance ← distances.between tile ghost.tile
    return distance < config.superPelletThreatRadius)

/-- The reward of a super pellet on a tile, zero without one. It is worth most while a threat is
near. -/
def superPelletReward (tile : Tile) : Checked Single :=
  if !board.hasSuperPellet tile then
    .ok 0
  else do
    let threatened ← config.isThreatened board distances tile
    return if threatened then config.superPelletBoost else config.suppressedSuperPelletBoost

/-- The first threatened cells of a list, at most `count`. -/
def firstThreatened : (count : Nat) → List Cell → Checked (List Cell)
  | 0, _ => .ok []
  | _ + 1, [] => .ok []
  | count + 1, cell :: rest =>
      match config.isThreatened board distances cell.tile with
      | .error fault => .error fault
      | .ok true => do return cell :: (← firstThreatened count rest)
      | .ok false => firstThreatened (count + 1) rest

/-- How many super pellets can pull at the same time. -/
def lureLimit : Nat := 8

/-- The super pellets that pull: the first threatened ones in reading order. -/
def lures : Checked (List Cell) :=
  if config.superPelletLure.numEq 0 then
    .ok []
  else
    config.firstThreatened board distances lureLimit board.superPellets.marked

/-- The pull of the given super pellets at a tile. -/
def lurePull (lures : List Cell) (tile : Tile) : Checked Single := do
  let all ← lures.mapM (fun cell => distances.between tile cell.tile)
  let near := all.filter (fun distance => 0 < distance && distance < config.superPelletLureRadius)
  return Single.sum (near.map (fun distance => config.superPelletLure / distance))

/-! ## Fruit -/

/-- The reward of the fruit at a tile, which fades with its age and with the distance to it. -/
def fruitReward (tile : Tile) : Checked Single :=
  match board.fruit with
  | none => .ok 0
  | some fruit => do
      let value := config.fruitBoost * fruit.freshness
      let distance ← distances.between tile fruit.tile
      if distance ≤ 0 then
        return value
      else if distance < config.fruitThreshold then
        return value / (2 * distance)
      else
        return 0

/-! ## The field -/

/-- The score of an open cell, given the super pellets that pull and the tile ahead of the
agent. -/
def score (lures : List Cell) (ahead : Option Tile) (cell : Cell) : Checked Single := do
  let tile := cell.tile
  let ghosts ← config.repulsion board distances tile
  let pellet ← config.pelletReward board tile
  let superPellet ← config.superPelletReward board distances tile
  let fruit ← config.fruitReward board distances tile
  let score := ghosts - pellet - superPellet - fruit
  let score ←
    if board.hasSuperPellet tile then
      pure score
    else do
      let pull ← config.lurePull distances lures tile
      pure (score - pull)
  return if ahead = some tile then score - config.momentumBonus else score

def field : Checked Field := do
  let lures ← config.lures board distances
  let ahead ← board.tileAhead
  let scores ← board.walls.openCells.foldlM
    (fun (scores : Grid Single) cell => do
      return scores.set cell (← config.score board distances lures ahead cell))
    (Grid.filled 0)
  return { walls := board.walls, scores := scores }

end FieldConfig
end MazeAgent
