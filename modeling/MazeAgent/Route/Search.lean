import MazeAgent.Board.Snapshot
import MazeAgent.Config.Basic
import MazeAgent.Distance.Basic
import MazeAgent.Field.Basic
import MazeAgent.Route.Frontier

/-!
# Searching for a route

A route is found by following, again and again, the most promising entry of the frontier. What
is left of the way is estimated by the distance to the goal and the score of the cell, so that
routes bend away from what repels. A cell is entered anew whenever fewer steps to it turn up.

**Results.**
* `Search.run`: the search with a bound on the number of cells that are expanded.
* `Maze.route`: the route between two cells.
* `Snapshot.route`: the route between two tiles, without the first and with the last.
-/

namespace MazeAgent

/-- The state of a search. -/
structure Search where
  /-- The fewest steps to a cell that have been found. -/
  best : Grid (Option Nat)
  /-- The cell before on the way with the fewest steps. -/
  parent : Grid (Option Cell)
  frontier : Frontier
  /-- How many entries have been made. -/
  sequence : Nat

namespace Search

/-- The search before its first step. -/
def start (estimate : Cell → Single) (source : Cell) : Search where
  best := (Grid.filled none).set source (some 0)
  parent := Grid.filled none
  frontier := [⟨estimate source, 0, 0, source⟩]
  sequence := 0

/-- Whether fewer steps to the cell of an entry have been found since the entry was made. -/
def isStale (best : Grid (Option Nat)) (entry : Entry) : Bool :=
  match best.get entry.cell with
  | some steps => steps < entry.steps
  | none => false

/-- Whether a number of steps to a cell is fewer than what has been found. -/
def improves (best : Grid (Option Nat)) (steps : Nat) (cell : Cell) : Bool :=
  match best.get cell with
  | some known => steps < known
  | none => true

/-- The search with one exit of a cell entered, unless it does not improve. -/
def enter (estimate : Cell → Single) (source : Cell) (steps : Nat) (search : Search)
    (next : Cell) : Search :=
  match search with
  | ⟨best, parent, frontier, sequence⟩ =>
      if improves best steps next then
        let entry : Entry :=
          ⟨Single.ofNat steps + estimate next, sequence + 1, steps, next⟩
        ⟨best.set next (some steps), parent.set next (some source), frontier.insert entry,
          sequence + 1⟩
      else
        ⟨best, parent, frontier, sequence⟩

/-- The search with all exits of the cell of an entry entered. -/
def expand (maze : Maze) (estimate : Cell → Single) (search : Search) (entry : Entry)
    (rest : Frontier) : Search :=
  (maze.exits entry.cell).foldl (enter estimate entry.cell (entry.steps + 1))
    { search with frontier := rest }

/-- The way to a cell that the parents tell, from the cell after the source on. `fuel` bounds
its length, and `done` is the part already known. -/
def trace (parent : Grid (Option Cell)) (source : Cell) :
    (fuel : Nat) → Cell → List Cell → List Cell
  | 0, _, done => done
  | fuel + 1, cell, done =>
      match parent.get cell with
      | some earlier =>
          if earlier = source then done else trace parent source fuel earlier (earlier :: done)
      | none => done

/-- The way to the goal, when it is found before `budget` cells have been expanded; otherwise
the empty way. -/
def run (maze : Maze) (estimate : Cell → Single) (source goal : Cell) :
    (budget : Nat) → Search → List Cell
  | budget, search =>
      match search.frontier.dropWhile (isStale search.best) with
      | [] => []
      | entry :: rest =>
          if entry.cell = goal then
            trace search.parent source 868 goal [goal]
          else
            match budget with
            | 0 => []
            | budget + 1 =>
                run maze estimate source goal budget (search.expand maze estimate entry rest)

end Search

/-- What a cell is estimated to cost on the way to a goal. -/
def Field.estimate (field : Field) (distances : Distances) (goal cell : Cell) : Single :=
  distances.ofCells cell goal + field.scoreOr cell

namespace Maze

/-- The number of cells that a search may expand. -/
def searchLimit (maze : Maze) (config : SearchConfig) : Nat :=
  match config.maxExpansions with
  | some limit => limit.toNat
  | none => maze.openCells.length * 4

theorem searchLimit_of_none (maze : Maze) {config : SearchConfig}
    (h : config.maxExpansions = none) :
    maze.searchLimit config = maze.openCells.length * 4 := by
  unfold searchLimit
  rw [h]

/-- The route between two open cells, without the first and with the last. -/
def route (maze : Maze) (field : Field) (distances : Distances) (config : SearchConfig)
    (source goal : Cell) : List Cell :=
  if source = goal ∨ maze.isOpen source = false ∨ maze.isOpen goal = false then
    []
  else
    let estimate := field.estimate distances goal
    Search.run maze estimate source goal (maze.searchLimit config) (Search.start estimate source)

end Maze

/-- The route between two tiles, without the first and with the last; none when a tile is not
open or the search finds nothing. -/
def Snapshot.route (board : Snapshot) (field : Field) (distances : Distances)
    (config : SearchConfig) (source goal : Tile) : List Tile :=
  match source.cell?, goal.cell? with
  | some source, some goal => (board.walls.route field distances config source goal).map Cell.tile
  | _, _ => []

end MazeAgent
