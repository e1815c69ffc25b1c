import MazeAgent.Board.Snapshot
import MazeAgent.Config.Basic

/-!
# Odds of the next tile of a ghost

Where a ghost goes next depends on the shape of the junction that it stands on and on the
direction in which it came. Without two ways to go there is nothing to predict.

**Results.**
* `PredictionConfig.odds`: the odds of a ghost at a tile.
* `Odds.probabilityOf`, `Odds.isDegenerate`: what the odds say.
-/

namespace MazeAgent

/-- Weights of the tiles that a ghost may enter next. -/
structure Odds where
  entries : List (Tile × Single)
  deriving DecidableEq, Repr

namespace Odds

/-- The weight that marks the lone entry of a dead end. -/
def deadEndWeight : Single := -1

/-- The odds at a tile without two ways to go. -/
def deadEnd (tile : Tile) : Odds := ⟨[(tile, deadEndWeight)]⟩

/-- Whether the odds are those of a dead end. -/
def isDegenerate (odds : Odds) : Bool :=
  match odds.entries with
  | (_, weight) :: _ => weight.numEq deadEndWeight
  | [] => false

/-- The probability that the ghost enters a tile. -/
def probabilityOf (odds : Odds) (tile : Tile) : Single :=
  if odds.isDegenerate then
    0
  else
    Single.sum ((odds.entries.filter (fun entry => entry.1 = tile)).map Prod.snd)

def total (odds : Odds) : Single := Single.sum (odds.entries.map Prod.snd)

end Odds

/-- How a way to go relates to the direction in which a ghost came. -/
inductive Turn where
  | forward
  | lateral
  | backward
  deriving DecidableEq, Repr

/-- The turn from a heading to a direction. -/
def Turn.between (heading direction : Direction) : Turn :=
  if direction = heading then .forward
  else if direction = heading.opposite then .backward
  else .lateral

namespace PredictionConfig

/-- The weight of a turn at a junction with the given number of ways to go, which may include
the way straight on. -/
def weight (config : PredictionConfig) (ways : Nat) (mayGoOn : Bool) (turn : Turn) : Single :=
  match ways, mayGoOn, turn with
  | 2, true, .forward => config.tunnelForward
  | 2, true, _ => config.tunnelBackward
  | 2, false, .backward => config.cornerBackward
  | 2, false, _ => config.cornerLateral
  | 3, true, .forward => config.teeForward
  | 3, true, .lateral => config.teeLateral
  | 3, true, .backward => config.teeBackward
  | 3, false, .backward => config.forkBackward
  | 3, false, _ => config.forkLateral
  | _, _, .forward => config.crossForward
  | _, _, .lateral => config.crossLateral
  | _, _, .backward => config.crossBackward

/-- The weights of the ways to go; without a heading all weigh the same. -/
def weights (config : PredictionConfig) (heading : Option Direction)
    (ways : List (Direction × Tile)) : List (Tile × Single) :=
  match heading with
  | none => ways.map (fun way => (way.2, 1))
  | some heading =>
      let mayGoOn := ways.any (fun way => way.1 = heading)
      ways.map (fun way =>
        (way.2, config.weight ways.length mayGoOn (Turn.between heading way.1)))

/-- Weights scaled to the sum one, and equal weights when there is no positive sum. -/
def normalized (weights : List (Tile × Single)) : List (Tile × Single) :=
  let total := Single.sum (weights.map Prod.snd)
  if 0 < total then
    weights.map (fun entry => (entry.1, entry.2 / total))
  else
    weights.map (fun entry => (entry.1, 1 / Single.ofNat weights.length))

/-- The odds for the ways to go from a tile. -/
def oddsOfWays (config : PredictionConfig) (tile : Tile) (heading : Option Direction)
    (ways : List (Direction × Tile)) : Odds :=
  if ways.length < 2 then Odds.deadEnd tile else ⟨normalized (config.weights heading ways)⟩

/-- The odds of a ghost at a tile, which came in the given direction. -/
def odds (config : PredictionConfig) (board : Snapshot) (tile : Tile)
    (heading : Option Direction) : Checked Odds := do
  let ways ← board.neighbors tile
  return config.oddsOfWays tile heading ways

end PredictionConfig
end MazeAgent
