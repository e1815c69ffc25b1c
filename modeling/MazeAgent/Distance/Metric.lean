import MazeAgent.Board.Cell
import MazeAgent.Number.Single

/-!
# Metrics

The distance of two tiles when nothing is in the way: as the crow flies, or along the axes.

**Results.**
* `Metric.span`: the distance from the offsets alone, total on the board.
* `Metric.between`: the distance of two tiles; it faults when an offset leaves the coordinates.
-/

namespace MazeAgent

/-- A way to measure distance without a maze. -/
inductive Metric where
  | euclidean
  | manhattan
  deriving DecidableEq, Repr, Inhabited

namespace Metric

def all : List Metric := [.euclidean, .manhattan]

def label : Metric → String
  | euclidean => "euclidean"
  | manhattan => "manhattan"

def ofLabel? (text : String) : Option Metric :=
  all.find? (fun metric => metric.label == text.toLower)

/-- The metric when none is told. -/
def standard : Metric := .euclidean

/-- The length of the straight line with the given offsets. -/
def straight (rows cols : Int) : Single :=
  let dr := Single.ofInt rows
  let dc := Single.ofInt cols
  (dr * dr + dc * dc).sqrt

/-- The distance of two points with the given offsets. -/
def span (metric : Metric) (rows cols : Int) : Single :=
  match metric with
  | euclidean => straight rows cols
  | manhattan => Single.ofNat (rows.natAbs + cols.natAbs)

def ofCells (metric : Metric) (a b : Cell) : Single :=
  metric.span ((a.row : Int) - b.row) ((a.col : Int) - b.col)

def between (metric : Metric) (a b : Tile) : Checked Single :=
  match metric with
  | euclidean => do
      let rows ← Coordinate.sub a.row b.row
      let cols ← Coordinate.sub a.col b.col
      return straight rows.toInt cols.toInt
  | manhattan => do
      let steps ← a.manhattan b
      return Single.ofUInt32 steps

end Metric
end MazeAgent
