import MazeAgent.Forecast.Odds

/-!
# Forecasts

A forecast follows the ghosts from tick to tick. It remembers where each one was, reads off how
it moved, and keeps the odds of its next tile.

**Results.**
* `Forecast.read`: how the ghosts moved since the last tick.
* `Forecast.revise`: the odds after the ghosts have moved in a given way.
* `Forecast.observe`: both in one.
* `Forecast.threatOccupancy`: how many threats are expected on a tile.
-/

namespace MazeAgent

/-- How a ghost moved since the last tick. -/
inductive Motion where
  /-- It is on the same tile, or it was not there. -/
  | stationary
  /-- It took one step. -/
  | moved (direction : Direction)
  /-- It moved in any other way. -/
  | displaced
  deriving DecidableEq, Repr

/-- How each ghost moved, for the ghosts that are there. -/
abbrev Motions := PerColor (Option Motion)

/-- What is known about the ghosts at the end of a tick. -/
structure Forecast where
  /-- Where each ghost was. -/
  tiles : PerColor (Option Tile)
  /-- The odds of the next tile of each ghost. -/
  odds : PerColor (Option Odds)
  deriving DecidableEq, Repr

namespace Forecast

/-- The forecast before the first tick. -/
def start : Forecast := ⟨PerColor.fill none, PerColor.fill none⟩

/-! ## Reading the motions -/

/-- The motion that leads from an earlier tile to a tile. -/
def motionTo (earlier : Option Tile) (tile : Tile) : Checked Motion :=
  match earlier with
  | none => .ok .stationary
  | some earlier =>
      if earlier = tile then
        .ok .stationary
      else do
        match ← earlier.directionTo tile with
        | .ok direction => return .moved direction
        | .error _ => return .displaced

/-- The motions and the tiles with one more ghost noted. -/
def note (earlier : PerColor (Option Tile)) (noted : Motions × PerColor (Option Tile))
    (ghost : Ghost) : Checked (Motions × PerColor (Option Tile)) := do
  let motion ← motionTo (earlier.get ghost.color) ghost.tile
  return (noted.1.set ghost.color (some motion), noted.2.set ghost.color (some ghost.tile))

/-- The forecast with the tiles of a snapshot, and how the ghosts came there. -/
def read (forecast : Forecast) (board : Snapshot) : Checked (Forecast × Motions) := do
  let (motions, tiles) ←
    board.ghosts.foldlM (note forecast.tiles) (PerColor.fill none, PerColor.fill none)
  return ({ forecast with tiles := tiles }, motions)

/-! ## Revising the odds -/

/-- The odds of a ghost after its motion. A ghost that took a step has its direction, and one
that was displaced has none; a ghost that stays keeps its odds, and one that is gone loses
them. -/
def revised (config : PredictionConfig) (board : Snapshot) (tile : Option Tile)
    (motion : Option Motion) (earlier : Option Odds) : Checked (Option Odds) :=
  match tile, motion with
  | some tile, some (.moved direction) => do
      return some (← config.odds board tile (some direction))
  | some tile, some .displaced => do return some (← config.odds board tile none)
  | some _, some .stationary => .ok earlier
  | _, _ => .ok none

/-- The forecast with the odds of one ghost revised. -/
def reviseColor (config : PredictionConfig) (board : Snapshot) (motions : Motions)
    (forecast : Forecast) (color : GhostColor) : Checked Forecast := do
  let odds ← revised config board (forecast.tiles.get color) (motions.get color)
    (forecast.odds.get color)
  return { forecast with odds := forecast.odds.set color odds }

/-- The forecast with the odds of all ghosts revised. -/
def revise (config : PredictionConfig) (board : Snapshot) (motions : Motions)
    (forecast : Forecast) : Checked Forecast :=
  GhostColor.all.foldlM (reviseColor config board motions) forecast

/-- The forecast after a snapshot, and how the ghosts moved. -/
def observe (config : PredictionConfig) (forecast : Forecast) (board : Snapshot) :
    Checked (Forecast × Motions) := do
  let (forecast, motions) ← forecast.read board
  let forecast ← revise config board motions forecast
  return (forecast, motions)

/-! ## Reading the odds -/

/-- The number of ghosts that are not frightened and are expected on a tile. -/
def threatOccupancy (forecast : Forecast) (board : Snapshot) (tile : Tile) : Single :=
  let hunters := board.ghosts.filter (fun ghost => !ghost.frightened)
  let odds := hunters.filterMap (fun ghost => forecast.odds.get ghost.color)
  Single.sum (odds.map (fun odds => odds.probabilityOf tile))

end Forecast
end MazeAgent
