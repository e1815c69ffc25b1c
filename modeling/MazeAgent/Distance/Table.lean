import MazeAgent.Board.Maze
import MazeAgent.Number.Single

/-!
# Tables of maze distances

A table holds, for every open cell, the lengths of the shortest walks to all other cells. They
are found by a breadth-first search: cells that have been reached wait in a queue, and the exits
of the first of them are reached next.

**Results.**
* `Maze.search`, `Maze.lengthsFrom`: the shortest lengths from one cell.
* `DistanceTable.ofMaze`, `DistanceTable.lookup`: the table of a maze, and the distance of two
  tiles when both are open and a walk joins them.
-/

namespace MazeAgent

/-- What stands for a cell that no walk reaches. -/
def unreached : UInt16 := 65535

/-- The number after a length; the largest number stays where it is. -/
def nextLength (length : UInt16) : UInt16 :=
  if length = 65535 then length else length + 1

namespace Maze

/-- The lengths and the queue with one more cell reached, unless it was. The cell then waits at
the end of the queue. -/
def reach (length : UInt16) (state : Grid UInt16 × List Cell) (cell : Cell) :
    Grid UInt16 × List Cell :=
  match state with
  | (lengths, queue) =>
      if lengths.get cell = unreached then
        (lengths.set cell length, queue ++ [cell])
      else
        (lengths, queue)

/-- The lengths after the given number of turns, or when no cell waits any more. Each turn takes
the first cell off the queue and reaches its exits. -/
def search (maze : Maze) : (turns : Nat) → (lengths : Grid UInt16) → (queue : List Cell) →
    Grid UInt16
  | 0, lengths, _ => lengths
  | turns + 1, lengths, queue =>
      match queue with
      | [] => lengths
      | cell :: rest =>
          let next := nextLength (lengths.get cell)
          let (lengths, queue) := (maze.exits cell).foldl (reach next) (lengths, rest)
          search maze turns lengths queue

/-- The lengths of the shortest walks from a cell. No cell waits twice, so that a turn for each
cell of the board is enough. -/
def lengthsFrom (maze : Maze) (source : Cell) : Grid UInt16 :=
  search maze 868 ((Grid.filled unreached).set source 0) [source]

end Maze

/-- The shortest lengths from every open cell. -/
structure DistanceTable where
  rows : Grid (Option (Grid UInt16))

namespace DistanceTable

def ofMaze (maze : Maze) : DistanceTable where
  rows := Grid.ofFn (fun cell => if maze.isOpen cell then some (maze.lengthsFrom cell) else none)

/-- The number of cells from which there are distances. -/
def size (table : DistanceTable) : Nat :=
  Cell.all.countP (fun cell => (table.rows.get cell).isSome)

def isEmpty (table : DistanceTable) : Bool := table.size = 0

def length? (table : DistanceTable) (source target : Cell) : Option UInt16 :=
  match table.rows.get source with
  | some lengths =>
      let length := lengths.get target
      if length = unreached then none else some length
  | none => none

def lookup (table : DistanceTable) (source target : Tile) : Option Single :=
  match source.cell?, target.cell? with
  | some source, some target =>
      (table.length? source target).map (fun length => Single.ofNat length.toNat)
  | _, _ => none

end DistanceTable
end MazeAgent
