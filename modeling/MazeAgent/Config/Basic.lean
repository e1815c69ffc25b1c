import MazeAgent.Board.Entity
import MazeAgent.Distance.Metric
import MazeAgent.Number.Exponential

/-!
# Configuration

Every weight of the agent is a field of its configuration, and every field has a default.

**Results.**
* `Config`: the whole configuration; `Config.standard` has all defaults.
* `FieldConfig.pelletMultiplier`, `GoalConfig.radiusFor`: schedules over the pellets left, where
  the first entry whose bound is not reached decides.
* `GhostDecay.divisor`: how the repulsion of a ghost falls off.
-/

namespace MazeAgent

/-- `value` applies while fewer than `below` pellets are left. -/
structure Breakpoint (α : Type) where
  below : UInt32
  value : α
  deriving DecidableEq, Repr

namespace Breakpoint

/-- The value of the first entry whose bound exceeds what is left, or the fall-back. -/
def lookup {α : Type} (schedule : List (Breakpoint α)) (fallback : α) (left : UInt32) : α :=
  match schedule.find? (fun entry => left < entry.below) with
  | some entry => entry.value
  | none => fallback

end Breakpoint

/-- How the repulsion of a ghost falls off with distance. -/
inductive GhostDecay where
  /-- In inverse proportion to the scaled distance. -/
  | inverseLinear (scale : Single)
  /-- Exponentially at the given rate. -/
  | exponential (rate : Single)
  deriving DecidableEq, Repr

/-- What the repulsion is divided by at a distance; at no distance it has its full strength. -/
def GhostDecay.divisor (decay : GhostDecay) (distance : Single) : Single :=
  if distance ≤ 0 then
    1
  else
    match decay with
    | inverseLinear scale => Single.max (scale * distance) Single.epsilon
    | exponential rate => (rate * distance).exp

/-- One factor for each mode. -/
structure ModeMultipliers where
  scatter : Single := 0.8
  chase : Single := 1
  paused : Single := 1
  deriving DecidableEq, Repr

def ModeMultipliers.get (multipliers : ModeMultipliers) : GameMode → Single
  | .scatter => multipliers.scatter
  | .chase => multipliers.chase
  | .paused => multipliers.paused

/-- The weights of the potential field; lower scores attract. -/
structure FieldConfig where
  /-- Reward of a pellet. -/
  pelletBoost : Single := 50
  /-- Factors of the pellet reward by pellets left. -/
  pelletMultipliers : List (Breakpoint Single) :=
    [⟨4, 50⟩, ⟨6, 20⟩, ⟨8, 10⟩, ⟨10, 5⟩, ⟨20, 4⟩, ⟨50, 3⟩, ⟨100, 2⟩]
  /-- Half width of the window in which pellets are counted. -/
  clusterRadius : UInt32 := 2
  /-- Weight of the density of pellets; zero disables it. -/
  clusterWeight : Single := 0.5
  /-- Reward of a super pellet with a threat near it. -/
  superPelletBoost : Single := 200
  /-- Reward of a super pellet without a threat near it. -/
  suppressedSuperPelletBoost : Single := 0
  /-- Distance at which a ghost threatens a super pellet. -/
  superPelletThreatRadius : Single := 6
  /-- Pull of a threatened super pellet, divided by the distance to it; zero disables it. -/
  superPelletLure : Single := 150
  /-- Distance up to which a super pellet pulls. -/
  superPelletLureRadius : Single := 10
  /-- Reward of a fresh fruit. -/
  fruitBoost : Single := 600
  /-- Distance up to which a fruit counts. -/
  fruitThreshold : Single := 5
  /-- Penalty of a ghost on the same tile. -/
  ghostBoost : Single := 1000
  /-- Distance up to which a ghost counts. -/
  ghostThreshold : Single := 8
  /-- With fewer pellets left the distance at which ghosts count is halved. -/
  endgamePellets : UInt32 := 10
  ghostDecay : GhostDecay := .inverseLinear 4
  colorWeights : PerColor Single := PerColor.fill 1
  modeMultipliers : ModeMultipliers := {}
  /-- Scale of the attraction of frightened ghosts. -/
  frightenedWeight : Single := 1
  /-- Divisor for ghosts that are still in their pen. -/
  spawningDivisor : Single := 10
  /-- Bonus of the tile ahead of the agent. -/
  momentumBonus : Single := 10
  deriving DecidableEq, Repr

namespace FieldConfig

/-- The factor of the pellet reward while the given number of pellets is left. -/
def pelletMultiplier (config : FieldConfig) (left : UInt32) : Single :=
  Breakpoint.lookup config.pelletMultipliers 1 left

/-- The distance up to which ghosts count while the given number of pellets is left. -/
def effectiveGhostThreshold (config : FieldConfig) (left : UInt32) : Single :=
  if left < config.endgamePellets then config.ghostThreshold / 2 else config.ghostThreshold

end FieldConfig

/-- How goals are chosen. -/
structure GoalConfig where
  /-- Radius of the search for a goal when no entry of the schedule applies. -/
  baseRadius : UInt32 := 8
  /-- Radii by pellets left. -/
  radiusSchedule : List (Breakpoint UInt32) := [⟨10, 5⟩, ⟨20, 6⟩, ⟨100, 7⟩]
  /-- Search the whole board when nothing within the radius attracts. -/
  widenWhenIdle : Bool := false
  /-- Penalty of a tile for each ghost expected on it. -/
  predictionWeight : Single := 200
  /-- Distance at which a threat makes the agent flee; zero disables it. -/
  evadeRadius : Single := 3
  distanceMetric : Metric := .euclidean
  deriving DecidableEq, Repr

/-- The radius while the given number of pellets is left. -/
def GoalConfig.radiusFor (config : GoalConfig) (left : UInt32) : UInt32 :=
  Breakpoint.lookup config.radiusSchedule config.baseRadius left

/-- The weights of the moves of a ghost by the shape of the junction. -/
structure PredictionConfig where
  tunnelForward : Single := 0.9
  tunnelBackward : Single := 0.1
  cornerLateral : Single := 0.9
  cornerBackward : Single := 0.1
  teeForward : Single := 0.5
  teeLateral : Single := 0.3
  teeBackward : Single := 0.2
  forkLateral : Single := 0.4
  forkBackward : Single := 0.2
  crossForward : Single := 0.3
  crossLateral : Single := 0.3
  crossBackward : Single := 0.1
  deriving DecidableEq, Repr

/-- The limit of a route search. -/
structure SearchConfig where
  /-- Cells that may be expanded; without a number it is four times the open cells. -/
  maxExpansions : Option UInt64 := none
  deriving DecidableEq, Repr

/-- The stall limit and the seed of the planner. -/
structure PlannerConfig where
  /-- Time without motion, while a move is commanded, after which the agent is stuck. -/
  stuckThreshold : UInt64 := 2000
  /-- Seed of the random moves. -/
  seed : Option UInt64 := none
  deriving DecidableEq, Repr

/-- The configuration of the agent. -/
structure Config where
  field : FieldConfig := {}
  goal : GoalConfig := {}
  prediction : PredictionConfig := {}
  search : SearchConfig := {}
  planner : PlannerConfig := {}
  deriving DecidableEq, Repr

namespace Config

/-- The configuration with all defaults. -/
def standard : Config := {}

def singles (config : Config) : List Single :=
  let field := config.field
  let decay :=
    match field.ghostDecay with
    | .inverseLinear scale => scale
    | .exponential rate => rate
  let prediction := config.prediction
  field.pelletMultipliers.map Breakpoint.value ++ field.colorWeights.toList ++
    [field.pelletBoost, field.clusterWeight, field.superPelletBoost,
      field.suppressedSuperPelletBoost, field.superPelletThreatRadius, field.superPelletLure,
      field.superPelletLureRadius, field.fruitBoost, field.fruitThreshold, field.ghostBoost,
      field.ghostThreshold, decay, field.modeMultipliers.scatter, field.modeMultipliers.chase,
      field.modeMultipliers.paused, field.frightenedWeight, field.spawningDivisor,
      field.momentumBonus, config.goal.predictionWeight, config.goal.evadeRadius,
      prediction.tunnelForward, prediction.tunnelBackward, prediction.cornerLateral,
      prediction.cornerBackward, prediction.teeForward, prediction.teeLateral,
      prediction.teeBackward, prediction.forkLateral, prediction.forkBackward,
      prediction.crossForward, prediction.crossLateral, prediction.crossBackward]

/-- Whether two configurations are the same and every number in them equals itself. -/
def isSame (a b : Config) : Bool :=
  a = b && a.singles.all (fun x => x.numEq x)

end Config

end MazeAgent
