import MazeAgent.Distance.Metric
import MazeAgent.Distance.Table

/-!
# Distances

The distance of two tiles is what an oracle knows about the pair, and otherwise what a metric
says.

**Results.**
* `Distances.between`: the distance of two tiles.
* `Distances.ofCells`: the distance of two cells, which never faults.
-/

namespace MazeAgent

/-- A metric, with an oracle that may know better. -/
structure Distances where
  metric : Metric
  oracle : Option (Tile → Tile → Option Single)

namespace Distances

def ofMetric (metric : Metric) : Distances := ⟨metric, none⟩

/-- The distances of a table, with a metric for what it does not hold. -/
def ofTable (metric : Metric) (table : DistanceTable) : Distances := ⟨metric, some table.lookup⟩

/-- What the oracle knows about a pair of tiles. -/
def known? (distances : Distances) (a b : Tile) : Option Single :=
  distances.oracle.bind (fun oracle => oracle a b)

def between (distances : Distances) (a b : Tile) : Checked Single :=
  match distances.known? a b with
  | some distance => .ok distance
  | none => distances.metric.between a b

def ofCells (distances : Distances) (a b : Cell) : Single :=
  match distances.known? a.tile b.tile with
  | some distance => distance
  | none => distances.metric.ofCells a b

/-- A short description: the metric, and whether there is an oracle. -/
def text (distances : Distances) : String :=
  let metric :=
    match distances.metric with
    | .euclidean => "Euclidean"
    | .manhattan => "Manhattan"
  let cached := if distances.oracle.isSome then "true" else "false"
  "DistanceResolver \x7b metric: " ++ metric ++ ", cached: " ++ cached ++ " \x7d"

end Distances
end MazeAgent
