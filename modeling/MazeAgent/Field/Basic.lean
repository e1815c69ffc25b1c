import MazeAgent.Board.Maze
import MazeAgent.Event.Basic
import MazeAgent.Number.Single

/-!
# Potential fields

A field gives every open cell a score: positive scores repel, negative scores attract.

**Results.**
* `Field.score?`: the score of a tile that is open.
* `Field.colors`: a picture of the field.
-/

namespace MazeAgent

/-- Scores of the open cells of a maze. -/
structure Field where
  walls : Maze
  scores : Grid Single
  deriving DecidableEq

namespace Field

def isOpen (field : Field) (cell : Cell) : Bool := field.walls.isOpen cell

/-- The score of a cell, or zero where there is none. -/
def scoreOr (field : Field) (cell : Cell) : Single :=
  if field.isOpen cell then field.scores.get cell else 0

/-- The score of a tile that lies on the board and is open. -/
def score? (field : Field) (tile : Tile) : Option Single :=
  match tile.cell? with
  | some cell => if field.isOpen cell then some (field.scores.get cell) else none
  | none => none

/-- The open cells with their scores, in reading order. -/
def toList (field : Field) : List (Cell × Single) :=
  field.walls.openCells.map (fun cell => (cell, field.scores.get cell))

/-- The number of open cells, the least score and the greatest. -/
def extent (field : Field) : Nat × Single × Single :=
  field.toList.foldl
    (fun (count, least, greatest) (_, score) =>
      (count + 1, least.min score, greatest.max score))
    (0, Single.infinity, Single.negInfinity)

/-- The color of a score: red repels, green attracts. -/
def color (score : Single) : Rgb :=
  let intensity := (score.abs.min 255).toByte
  if 0 < score then ⟨intensity, 0, 0⟩ else ⟨0, intensity, 0⟩

/-- The open tiles with their colors, in reading order. -/
def colors (field : Field) : List (Tile × Rgb) :=
  field.toList.map (fun (cell, score) => (cell.tile, color score))

end Field
end MazeAgent
