import MazeAgent.Fault

/-!
# Tiles and directions

A tile is a pair of 32-bit coordinates, on the board or off it. Rows grow downwards and columns
to the right. One step goes up, down, left or right.

**Results.**
* `Tile.step`: the neighbour of a tile in a direction.
* `Tile.directionTo`: the direction of a single step between two tiles, or the offset that is
  not a single step.
* `Tile.manhattan`: the distance along the axes.
-/

namespace MazeAgent

abbrev boardRows : Nat := 31

abbrev boardCols : Nat := 28

/-- What to do about an error. -/
inductive Severity where
  /-- The next tick may succeed. -/
  | recoverable
  /-- The input is to be rejected. -/
  | validation
  /-- A caller broke a contract. -/
  | internal
  deriving DecidableEq, Repr

namespace Severity

def all : List Severity := [.recoverable, .validation, .internal]

def label : Severity → String
  | recoverable => "recoverable"
  | validation => "validation"
  | internal => "internal"

end Severity

/-! ## Directions -/

/-- One of the four headings. -/
inductive Direction where
  | up
  | down
  | left
  | right
  deriving DecidableEq, Repr, Inhabited

namespace Direction

/-- The directions in the order in which neighbours are listed. -/
def all : List Direction := [.up, .down, .left, .right]

def label : Direction → String
  | up => "up"
  | down => "down"
  | left => "left"
  | right => "right"

def ofLabel? (text : String) : Option Direction :=
  all.find? (fun direction => direction.label == text.toLower)

def rowOffset : Direction → Int32
  | up => -1
  | down => 1
  | left => 0
  | right => 0

def colOffset : Direction → Int32
  | up => 0
  | down => 0
  | left => -1
  | right => 1

def opposite : Direction → Direction
  | up => down
  | down => up
  | left => right
  | right => left

/-- The direction after a quarter turn to the left. -/
def turnLeft : Direction → Direction
  | up => left
  | left => down
  | down => right
  | right => up

/-- The direction after a quarter turn to the right. -/
def turnRight (direction : Direction) : Direction :=
  direction.turnLeft.opposite

end Direction

/-- The offset `(row, col)` is not a single step along an axis. -/
structure StepError where
  row : Int32
  col : Int32
  deriving DecidableEq, Repr

namespace StepError

def message (error : StepError) : String :=
  s!"delta ({error.row.toInt}, {error.col.toInt}) is not a single axis-aligned step"

/-- A wrong step is a mistake of the caller. -/
def severity (_ : StepError) : Severity := .internal

end StepError

def Direction.ofOffset (row col : Int32) : Except StepError Direction :=
  if row = -1 ∧ col = 0 then .ok .up
  else if row = 1 ∧ col = 0 then .ok .down
  else if row = 0 ∧ col = -1 then .ok .left
  else if row = 0 ∧ col = 1 then .ok .right
  else .error ⟨row, col⟩

/-! ## Tiles -/

/-- A position in tile coordinates. -/
structure Tile where
  row : Int32
  col : Int32
  deriving DecidableEq, Repr, Inhabited, Hashable

namespace Tile

def origin : Tile := ⟨0, 0⟩

def text (tile : Tile) : String :=
  s!"({tile.row.toInt}, {tile.col.toInt})"

def onBoard (tile : Tile) : Bool :=
  0 ≤ tile.row && 0 ≤ tile.col && tile.row < 31 && tile.col < 28

/-- Tiles in reading order. -/
def compare (a b : Tile) : Ordering :=
  (Ord.compare a.row.toInt b.row.toInt).then (Ord.compare a.col.toInt b.col.toInt)

/-- The neighbour of a tile in a direction. -/
def step (tile : Tile) (direction : Direction) : Checked Tile := do
  let row ← Coordinate.add tile.row direction.rowOffset
  let col ← Coordinate.add tile.col direction.colOffset
  return ⟨row, col⟩

/-- The number of steps between two tiles when nothing is in the way. -/
def manhattan (a b : Tile) : Checked UInt32 :=
  let rows := (a.row.toInt - b.row.toInt).natAbs
  let cols := (a.col.toInt - b.col.toInt).natAbs
  if rows + cols < UInt32.size then
    .ok (rows + cols).toUInt32
  else
    .error .additionOverflow

def isAdjacent (a b : Tile) : Checked Bool := do
  let steps ← a.manhattan b
  return steps == 1

def offsetTo (a b : Tile) : Checked (Int32 × Int32) := do
  let row ← Coordinate.sub b.row a.row
  let col ← Coordinate.sub b.col a.col
  return (row, col)

/-- The direction of the single step from one tile to another. -/
def directionTo (a b : Tile) : Checked (Except StepError Direction) := do
  let (row, col) ← a.offsetTo b
  return Direction.ofOffset row col

end Tile
end MazeAgent
