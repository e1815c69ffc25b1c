import MazeAgent.Planner.Decision

/-!
# Events

What is published while the agent runs: its decisions, and pictures of how they came about.

**Results.**
* `Event.topic`: the topic on which an event is published.
-/

namespace MazeAgent

/-- A color by its parts. -/
structure Rgb where
  red : UInt8
  green : UInt8
  blue : UInt8
  deriving DecidableEq, Repr, Inhabited

/-- A picture of the reasons for a decision. -/
inductive OverlayEvent where
  /-- The colored cells of the potential field. -/
  | field (cells : List (Tile × Rgb))
  /-- The route to the goal. -/
  | path (tiles : List Tile)
  deriving DecidableEq, Repr

/-- What subscribers can follow. -/
inductive Topic where
  | decision
  | overlay
  deriving DecidableEq, Repr, Inhabited

def Topic.all : List Topic := [.decision, .overlay]

/-- A published value. -/
inductive Event where
  | decision (decision : Decision)
  | overlay (overlay : OverlayEvent)
  deriving DecidableEq, Repr

def Event.topic : Event → Topic
  | decision _ => .decision
  | overlay _ => .overlay

end MazeAgent
