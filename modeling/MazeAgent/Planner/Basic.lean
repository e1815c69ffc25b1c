import MazeAgent.Goal.Select
import MazeAgent.Planner.Decision
import MazeAgent.Planner.Presenter
import MazeAgent.Field.Score
import MazeAgent.Random.Seeded
import MazeAgent.Route.Search

/-!
# The planner

The planner makes at most one decision per tick. When the agent has not moved for too long
although it was told to, it walks at random; while the target is one step away, it goes on; and
otherwise it computes the field, chooses a goal and follows the route to it.

**Results.**
* `Planner`: what is kept from tick to tick.
* `Planner.tickAt`, `Planner.tick`: one tick, at a time in nanoseconds or in milliseconds.
-/

namespace MazeAgent

/-- Why a tick failed. -/
inductive PlannerError where
  /-- The next tile is not a step away. -/
  | direction (error : StepError)
  deriving DecidableEq, Repr

namespace PlannerError

def message : PlannerError → String
  | direction error => error.message

/-- As severe as the error behind it. -/
def severity : PlannerError → Severity
  | direction error => error.severity

end PlannerError

/-- How a tick ends. -/
inductive Outcome where
  | decided (decision : Decision)
  /-- There was nothing to decide. -/
  | skipped
  | failed (error : PlannerError)
  | stopped (fault : Fault)
  deriving DecidableEq, Repr

/-- What is kept from tick to tick. -/
structure Planner where
  config : Config
  distances : Distances
  forecast : Forecast
  source : RandomSource
  /-- Where the last command leads. -/
  target : Option Tile
  lastCommand : MoveCommand
  /-- Where the agent was in the last tick. -/
  lastAgent : Option Tile
  /-- Since when the agent has not moved although it was told to, in nanoseconds. -/
  motionlessSince : Option Nat

/-- What a tick leaves behind. -/
structure Tick (σ : Type) where
  outcome : Outcome
  planner : Planner
  audience : σ

namespace Planner

variable {σ : Type}

/-- The planner before its first tick. -/
def start (config : Config) (distances : Distances) (source : RandomSource) : Planner where
  config := config
  distances := distances
  forecast := Forecast.start
  source := source
  target := none
  lastCommand := .none
  lastAgent := none
  motionlessSince := none

/-- The planner of a configuration: its own metric, and the source of its seed. -/
def ofConfig (config : Config) (seed : UInt64) : Planner :=
  start config (Distances.ofMetric config.goal.distanceMetric) (RandomSource.seeded seed)

/-! ## Decisions -/

/-- The planner after a command, which leads to a target unless it is no command at all. -/
def commanded (planner : Planner) (command : MoveCommand) (target : Tile) : Planner :=
  { planner with
    target := if command = .none then planner.target else some target
    lastCommand := command }

/-- A decision, and the planner after it. -/
def emit (planner : Planner) (board : Snapshot) (command : MoveCommand) (target : Tile)
    (state : DecisionState) : Outcome × Planner :=
  (.decided ⟨board.sequence, command, target, state⟩, planner.commanded command target)

/-- The decision to stay where the agent is; the target is forgotten. -/
def hold (planner : Planner) (board : Snapshot) (tile : Tile) (state : DecisionState) :
    Outcome × Planner :=
  emit { planner with target := none } board .none tile state

/-- The decision to step to the next tile. -/
def approach (planner : Planner) (board : Snapshot) (next : Tile) (state : DecisionState) :
    Outcome × Planner :=
  match board.agent.directionTo next with
  | .error fault => (.stopped fault, planner)
  | .ok (.error error) => (.failed (.direction error), planner)
  | .ok (.ok direction) => planner.emit board (.ofDirection direction) next state

/-- A random neighbour of the agent, and the planner after the draw. -/
def drawNeighbor (planner : Planner) (board : Snapshot) : Checked (Option Tile × Planner) := do
  let ways ← board.neighbors board.agent
  let (way, source) := planner.source.choose ways
  return (way.map Prod.snd, { planner with source := source })

/-- The decision of an agent that is stuck. -/
def walk (planner : Planner) (board : Snapshot) : Outcome × Planner :=
  match planner.drawNeighbor board with
  | .error fault => (.stopped fault, planner)
  | .ok (some tile, planner) => planner.emit board .randomWalk tile .stuck
  | .ok (none, planner) => planner.hold board board.agent .stuck

/-- The decision to follow a route; without one a random neighbour is tried. -/
def follow (planner : Planner) (board : Snapshot) (route : List Tile) : Outcome × Planner :=
  match route with
  | next :: _ => planner.approach board next .replanning
  | [] =>
      match planner.drawNeighbor board with
      | .error fault => (.stopped fault, planner)
      | .ok (some next, planner) => planner.approach board next .replanning
      | .ok (none, planner) => planner.hold board board.agent .replanning

/-! ## Replanning -/

/-- The route from the agent to a goal. -/
def routeTo (planner : Planner) (board : Snapshot) (field : Field) (goal : Goal) : List Tile :=
  board.route field planner.distances planner.config.search board.agent goal.tile

/-- The decision after the field has been computed and shown. -/
def pursue (presenter : Presenter σ) (board : Snapshot) (field : Field) (planner : Planner)
    (audience : σ) : Tick σ :=
  match planner.config.goal.select board field planner.forecast planner.distances
      planner.source with
  | .error fault => ⟨.stopped fault, planner, audience⟩
  | .ok (.error .noGhosts, source) => ⟨.skipped, { planner with source := source }, audience⟩
  | .ok (.error (.trapped tile), source) =>
      let (outcome, planner) := hold { planner with source := source } board tile .replanning
      ⟨outcome, planner, audience⟩
  | .ok (.ok goal, source) =>
      let planner := { planner with source := source }
      let route := planner.routeTo board field goal
      let (_, audience) := presenter.showRoute route audience
      let (outcome, planner) := planner.follow board route
      ⟨outcome, planner, audience⟩

/-- The decision from a new field, a new goal and a new route. -/
def replan (presenter : Presenter σ) (board : Snapshot) (planner : Planner) (audience : σ) :
    Tick σ :=
  match planner.config.field.field board planner.distances with
  | .error fault => ⟨.stopped fault, planner, audience⟩
  | .ok field =>
      let (_, audience) := presenter.showField field audience
      planner.pursue presenter board field audience

/-! ## Ticks -/

/-- The planner once it knows where the agent is. The clock of the stall runs only while the
agent stays on its tile under a command to move. -/
def sight (planner : Planner) (agent : Tile) (now : Nat) : Planner :=
  if planner.lastAgent = some agent ∧ planner.lastCommand.isMove = true then
    planner
  else
    { planner with lastAgent := some agent, motionlessSince := some now }

/-- For how long the agent may be motionless, in nanoseconds. -/
def patience (planner : Planner) : Nat :=
  planner.config.planner.stuckThreshold.toNat * 1000000

/-- Whether the agent has been motionless for longer than allowed. -/
def isStalled (planner : Planner) (since now : Nat) : Bool :=
  planner.lastCommand.isMove && planner.patience < now - since

/-- The decision on a snapshot with ghosts that is no stall: the next step to a target that is
one step away, or a new plan. -/
def travel (presenter : Presenter σ) (board : Snapshot) (planner : Planner) (audience : σ) :
    Tick σ :=
  match planner.target with
  | none => planner.replan presenter board audience
  | some target =>
      match board.agent.isAdjacent target with
      | .error fault => ⟨.stopped fault, planner, audience⟩
      | .ok false => planner.replan presenter board audience
      | .ok true =>
          let (outcome, planner) := planner.approach board target .traveling
          ⟨outcome, planner, audience⟩

/-- The decision on a snapshot with ghosts. -/
def decide (presenter : Presenter σ) (board : Snapshot) (now : Nat) (planner : Planner)
    (audience : σ) : Tick σ :=
  let since := planner.motionlessSince.getD now
  if planner.isStalled since now then
    let (outcome, planner) := walk { planner with motionlessSince := some now } board
    ⟨outcome, planner, audience⟩
  else
    travel presenter board { planner with motionlessSince := some since } audience

/-- One tick on a snapshot, at a time in nanoseconds. -/
def tickAt (presenter : Presenter σ) (board : Snapshot) (now : Nat) (planner : Planner)
    (audience : σ) : Tick σ :=
  let planner := planner.sight board.agent now
  match Forecast.observe planner.config.prediction planner.forecast board with
  | .error fault => ⟨.stopped fault, planner, audience⟩
  | .ok (forecast, _) =>
      let planner := { planner with forecast := forecast }
      if board.ghosts.isEmpty then
        ⟨.skipped, { planner with motionlessSince := some now }, audience⟩
      else
        planner.decide presenter board now audience

/-- One tick on a snapshot, at a time in milliseconds. -/
def tick (presenter : Presenter σ) (board : Snapshot) (now : Nat) (planner : Planner)
    (audience : σ) : Tick σ :=
  tickAt presenter board (now * 1000000) planner audience

end Planner
end MazeAgent
