import MazeAgent.Board.Grid

/-!
# Mazes and walks

A maze is the grid of walls. Its open cells form a graph, in which a cell has up to four exits.
Walks through this graph say what distances and routes mean.

**Results.**
* `Maze.exits`: the open neighbours of a cell, in the order of the directions.
* `Maze.Walk`: the walks of a given length; `Maze.Connected`, `Maze.IsDistance`.
-/

namespace MazeAgent

/-- The walls of a board; `true` marks a wall. -/
abbrev Maze := Grid Bool

namespace Maze

def isOpen (maze : Maze) (cell : Cell) : Bool := !maze.get cell

/-- The open cells, in reading order. -/
def openCells (maze : Maze) : List Cell := Cell.all.filter maze.isOpen

/-- The open neighbour of a cell in a direction. -/
def exit? (maze : Maze) (cell : Cell) (direction : Direction) : Option Cell :=
  match cell.step? direction with
  | some next => if maze.isOpen next then some next else none
  | none => none

def exits (maze : Maze) (cell : Cell) : List Cell :=
  Direction.all.filterMap (maze.exit? cell)

/-- There is a walk of the given length from the first cell to the second that enters open
cells only. -/
inductive Walk (maze : Maze) : Nat → Cell → Cell → Prop where
  | stay (cell : Cell) : Walk maze 0 cell cell
  | step {length : Nat} {first last next : Cell} :
      Walk maze length first last → next ∈ maze.exits last → Walk maze (length + 1) first next

/-- Some walk leads from the first cell to the second. -/
def Connected (maze : Maze) (first last : Cell) : Prop :=
  ∃ length, maze.Walk length first last

/-- The shortest walk from the first cell to the second has the given length. -/
def IsDistance (maze : Maze) (first last : Cell) (length : Nat) : Prop :=
  maze.Walk length first last ∧ ∀ other, maze.Walk other first last → length ≤ other

end Maze
end MazeAgent
