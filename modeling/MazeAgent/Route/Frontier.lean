import MazeAgent.Board.Cell
import MazeAgent.Number.Single

/-!
# The frontier of a search

The frontier holds the cells that a search may look at next, the one with the least estimate
first. Of two equal estimates the one that was entered first comes first.

**Results.**
* `Entry.compare`, `Entry.ties`, `Entry.partialCompare`: the order of the entries.
* `Frontier.insert`: a further entry at its place.
-/

namespace MazeAgent

/-- A cell to look at, with the number of steps to it. -/
structure Entry where
  /-- The estimated cost of a route through the cell. -/
  estimate : Single
  /-- How many entries were made before. -/
  sequence : Nat
  steps : Nat
  cell : Cell
  deriving DecidableEq, Repr

namespace Entry

/-- Entries by estimate, and equal estimates by the order in which they were made. -/
def compare (a b : Entry) : Ordering :=
  (a.estimate.totalCompare b.estimate).then (Ord.compare a.sequence b.sequence)

/-- Whether neither of two entries comes before the other. -/
def ties (a b : Entry) : Bool := a.compare b == .eq

/-- The order as one in which some entries might not be compared. -/
def partialCompare (a b : Entry) : Option Ordering := some (a.compare b)

end Entry

/-- The entries of a search in their order. -/
abbrev Frontier := List Entry

namespace Frontier

def insert (entry : Entry) : Frontier → Frontier
  | [] => [entry]
  | first :: rest =>
      if entry.compare first = .lt then
        entry :: first :: rest
      else
        first :: insert entry rest

end Frontier
end MazeAgent
