import MazeAgent.Board.Tile

/-!
# Decisions

What the agent is told to do in one tick, and the state the planner was in when it said so.

**Results.**
* `MoveCommand.isMove`: whether a command is a step in a direction.
* `Decision`: command, target and state, stamped with the number of the snapshot.
-/

namespace MazeAgent

/-- A command for one tick. -/
inductive MoveCommand where
  | up
  | down
  | left
  | right
  /-- A random step of an agent that is stuck. -/
  | randomWalk
  /-- Nothing to do. -/
  | none
  deriving DecidableEq, Repr, Inhabited

namespace MoveCommand

def all : List MoveCommand := [.up, .down, .left, .right, .randomWalk, .none]

def label : MoveCommand → String
  | up => "up"
  | down => "down"
  | left => "left"
  | right => "right"
  | randomWalk => "random_walk"
  | none => "none"

def direction? : MoveCommand → Option Direction
  | up => some .up
  | down => some .down
  | left => some .left
  | right => some .right
  | randomWalk => Option.none
  | none => Option.none

/-- Whether the command is a step in a direction. -/
def isMove (command : MoveCommand) : Bool := command.direction?.isSome

def ofDirection : Direction → MoveCommand
  | .up => up
  | .down => down
  | .left => left
  | .right => right

@[simp] theorem direction?_ofDirection (direction : Direction) :
    (ofDirection direction).direction? = some direction := by
  cases direction <;> rfl

@[simp] theorem isMove_ofDirection (direction : Direction) :
    (ofDirection direction).isMove = true := by
  cases direction <;> rfl

end MoveCommand

/-- What the planner was doing. -/
inductive DecisionState where
  | traveling
  | replanning
  | stuck
  deriving DecidableEq, Repr, Inhabited

namespace DecisionState

def all : List DecisionState := [.traveling, .replanning, .stuck]

def label : DecisionState → String
  | traveling => "traveling"
  | replanning => "replanning"
  | stuck => "stuck"

def ofLabel? (text : String) : Option DecisionState :=
  all.find? (fun state => state.label == text)

end DecisionState

/-- The outcome of one tick. -/
structure Decision where
  /-- The number of the snapshot that was decided on. -/
  sequence : UInt64
  command : MoveCommand
  /-- Where the command leads; the tile of the agent when there is nowhere to go. -/
  target : Tile
  state : DecisionState
  deriving DecidableEq, Repr

end MazeAgent
