import MazeAgent.Field.Basic
import MazeAgent.Forecast.Basic
import MazeAgent.Distance.Basic
import MazeAgent.Random.Source

/-!
# Choosing a goal

The goal of a tick is the tile of least cost near the agent. When a threat is close to the agent
and to that tile, the goal is the tile farthest from all threats instead; when there is no tile
to choose from, it is a random neighbour.

**Results.**
* `GoalConfig.cheapest`: the tile of least cost among those at an admitted distance.
* `GoalConfig.flight`: the tile to flee to, when there is a reason to flee.
* `GoalConfig.select`: the goal, or the reason why there is none.
-/

namespace MazeAgent

/-- Where to go. -/
inductive Goal where
  /-- The tile of least cost. -/
  | seek (tile : Tile) (cost : Single)
  /-- The tile farthest from the threats. -/
  | evade (tile : Tile) (threat : GhostColor)
  /-- A random neighbour. -/
  | explore (tile : Tile)
  deriving DecidableEq, Repr

def Goal.tile : Goal → Tile
  | seek tile _ => tile
  | evade tile _ => tile
  | explore tile => tile

/-- Why there is no goal. -/
inductive GoalError where
  | noGhosts
  | trapped (tile : Tile)
  deriving DecidableEq, Repr

namespace GoalError

def message : GoalError → String
  | noGhosts => "snapshot reports no ghosts"
  | trapped tile => s!"agent at {tile.text} has no walkable neighbour"

/-- The next tick may have a goal. -/
def severity (_ : GoalError) : Severity := .recoverable

end GoalError

namespace GoalConfig

variable (config : GoalConfig) (board : Snapshot) (field : Field) (forecast : Forecast)
  (distances : Distances)

/-! ## The cheapest tile -/

/-- The cost of a tile at a distance from the agent. -/
def cost (tile : Tile) (score distance : Single) : Single :=
  score + distance + config.predictionWeight * forecast.threatOccupancy board tile

/-- The cheaper of the best tile so far and one more; of two equal ones the earlier. -/
def cheaper (best : Option (Cell × Single)) (cell : Cell) (cost : Single) :
    Option (Cell × Single) :=
  match best with
  | none => some (cell, cost)
  | some (other, known) => if cost < known then some (cell, cost) else some (other, known)

/-- The best tile after one more cell is looked at. The tile of the agent and tiles at other
distances than the admitted ones are left out. -/
def weigh (admits : Single → Bool) (best : Option (Cell × Single)) (entry : Cell × Single) :
    Checked (Option (Cell × Single)) :=
  let (cell, score) := entry
  if cell.tile = board.agent then
    .ok best
  else do
    let distance ← distances.between board.agent cell.tile
    return if admits distance then
      cheaper best cell (config.cost board forecast cell.tile score distance)
    else
      best

/-- The cell of least cost at an admitted distance, and its cost. -/
def cheapest (admits : Single → Bool) : Checked (Option (Cell × Single)) :=
  field.toList.foldlM (config.weigh board forecast distances admits) none

def isAttractive (best : Option (Cell × Single)) : Bool :=
  match best with
  | some (cell, _) => field.scoreOr cell < 0
  | none => false

/-- The cell of least cost within the radius, or on the whole board when the search may widen
and nothing within the radius attracts. -/
def candidate : Checked (Option (Cell × Single)) := do
  let radius := Single.ofUInt32 (config.radiusFor board.pelletsRemaining)
  let near ← config.cheapest board field forecast distances (fun distance => distance ≤ radius)
  if config.widenWhenIdle && !isAttractive field near then do
    let all ← config.cheapest board field forecast distances (fun _ => true)
    return all.or near
  else
    return near

/-! ## Flight -/

/-- The threats of a snapshot with their distances from the agent. -/
def threatDistances : Checked (List (Ghost × Single)) :=
  board.threats.mapM (fun ghost => do
    return (ghost, ← distances.between board.agent ghost.tile))

/-- The nearer of two threats; of two equally near ones the first. -/
def nearer (a b : Ghost × Single) : Ghost × Single :=
  if (b.2.totalCompare a.2) = .lt then b else a

def nearest : List (Ghost × Single) → Option (Ghost × Single)
  | [] => none
  | first :: rest => some (rest.foldl nearer first)

/-- The threat that is nearest to the agent among those within a radius. -/
def nearThreat (radius : Single) : Checked (Option Ghost) := do
  let threats ← threatDistances board distances
  return (nearest (threats.filter (fun threat => threat.2 ≤ radius))).map Prod.fst

/-- The distance from a cell to the nearest threat. -/
def clearance (cell : Cell) : Checked Single := do
  let all ← board.threats.mapM (fun ghost => distances.between cell.tile ghost.tile)
  return all.foldl Single.min Single.infinity

/-- The farther of the best cell so far and one more; of two equal ones the earlier. -/
def farther (best : Option (Cell × Single)) (cell : Cell) (clearance : Single) :
    Option (Cell × Single) :=
  match best with
  | none => some (cell, clearance)
  | some (other, known) =>
      if known < clearance then some (cell, clearance) else some (other, known)

/-- The open cell, other than the one of the agent, that is farthest from all threats. -/
def farthest : Checked (Option (Cell × Single)) :=
  (board.walls.openCells.filter (fun cell => cell.tile ≠ board.agent)).foldlM
    (fun best cell => do return farther best cell (← clearance board distances cell)) none

/-- The goal to flee to, when a threat is within the radius of flight from the agent and from
the tile that the agent would go to. -/
def flight (tile : Tile) : Checked (Option Goal) :=
  if config.evadeRadius ≤ 0 then
    .ok none
  else do
    match ← nearThreat board distances config.evadeRadius with
    | none => return none
    | some threat =>
        let distance ← distances.between tile threat.tile
        if config.evadeRadius < distance then
          return none
        else
          let best ← farthest board distances
          return best.map (fun best => .evade best.1.tile threat.color)

/-! ## The goal -/

/-- A random neighbour of the agent, or the error that there is none. -/
def explore (source : RandomSource) : Checked (Except GoalError Goal × RandomSource) := do
  let ways ← board.neighbors board.agent
  let (way, source) := source.choose ways
  match way with
  | some (_, tile) => return (.ok (.explore tile), source)
  | none => return (.error (.trapped board.agent), source)

def select (source : RandomSource) : Checked (Except GoalError Goal × RandomSource) :=
  if board.ghosts.isEmpty then
    .ok (.error .noGhosts, source)
  else do
    match ← config.candidate board field forecast distances with
    | none => explore board source
    | some (cell, cost) =>
        match ← config.flight board distances cell.tile with
        | some goal => return (.ok goal, source)
        | none => return (.ok (.seek cell.tile cost), source)

end GoalConfig
end MazeAgent
