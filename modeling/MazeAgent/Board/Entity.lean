import MazeAgent.Board.Tile
import MazeAgent.Number.Single

/-!
# Ghosts, fruit and modes

What moves on the board or lies on it for a while, and the mode the ghosts are in.

**Results.**
* `Ghost.isThreat`: whether touching a ghost costs a life.
* `Fruit.freshness`: the share of its lifetime that a fruit has left.
* `PerColor`: one value for each ghost color.
-/

namespace MazeAgent

/-- The four ghosts. -/
inductive GhostColor where
  | red
  | pink
  | cyan
  | orange
  deriving DecidableEq, Repr, Inhabited

namespace GhostColor

def all : List GhostColor := [.red, .pink, .cyan, .orange]

def label : GhostColor → String
  | red => "red"
  | pink => "pink"
  | cyan => "cyan"
  | orange => "orange"

def ofLabel? (text : String) : Option GhostColor :=
  all.find? (fun color => color.label == text.toLower)

/-- The position of a color in the fixed order. -/
def index : GhostColor → Nat
  | red => 0
  | pink => 1
  | cyan => 2
  | orange => 3

def below (color : GhostColor) : List GhostColor :=
  all.filter (fun other => other.index < color.index)

end GhostColor

/-- One value for each ghost color. -/
structure PerColor (α : Type) where
  red : α
  pink : α
  cyan : α
  orange : α
  deriving DecidableEq, Repr

namespace PerColor

variable {α β : Type}

/-- The same value for every color. -/
def fill (value : α) : PerColor α := ⟨value, value, value, value⟩

def ofFn (f : GhostColor → α) : PerColor α := ⟨f .red, f .pink, f .cyan, f .orange⟩

def get (values : PerColor α) : GhostColor → α
  | .red => values.red
  | .pink => values.pink
  | .cyan => values.cyan
  | .orange => values.orange

/-- The values with another one for a color. -/
def set (values : PerColor α) (color : GhostColor) (value : α) : PerColor α :=
  match color with
  | .red => { values with red := value }
  | .pink => { values with pink := value }
  | .cyan => { values with cyan := value }
  | .orange => { values with orange := value }

/-- The values in the fixed order of the colors. -/
def toList (values : PerColor α) : List α :=
  [values.red, values.pink, values.cyan, values.orange]

@[simp] theorem get_fill (value : α) (color : GhostColor) : (fill value).get color = value := by
  cases color <;> rfl

@[simp] theorem get_ofFn (f : GhostColor → α) (color : GhostColor) :
    (ofFn f).get color = f color := by
  cases color <;> rfl

theorem get_set (values : PerColor α) (color other : GhostColor) (value : α) :
    (values.set color value).get other = if color = other then value else values.get other := by
  cases color <;> cases other <;> rfl

end PerColor

/-- How the ghosts behave. -/
inductive GameMode where
  | scatter
  | chase
  | paused
  deriving DecidableEq, Repr, Inhabited

namespace GameMode

def all : List GameMode := [.scatter, .chase, .paused]

def label : GameMode → String
  | scatter => "scatter"
  | chase => "chase"
  | paused => "paused"

def ofLabel? (text : String) : Option GameMode :=
  all.find? (fun mode => mode.label == text.toLower)

/-- The mode when none is told. -/
def standard : GameMode := .chase

end GameMode

/-- A ghost as seen at one tick. -/
structure Ghost where
  color : GhostColor
  tile : Tile
  /-- Touching it is a reward. -/
  frightened : Bool
  /-- It is still in its pen. -/
  spawning : Bool
  heading : Option Direction
  deriving DecidableEq, Repr

/-- Whether touching the ghost costs a life. -/
def Ghost.isThreat (ghost : Ghost) : Bool :=
  !ghost.frightened && !ghost.spawning

/-- A fruit on the board. -/
structure Fruit where
  tile : Tile
  remainingSteps : UInt32
  duration : UInt32
  deriving DecidableEq, Repr

/-- The share of its lifetime that the fruit has left, at most one; a fruit without a lifetime
is fresh. -/
def Fruit.freshness (fruit : Fruit) : Single :=
  if fruit.duration = 0 then
    1
  else
    Single.min (Single.ofUInt32 fruit.remainingSteps / Single.ofUInt32 fruit.duration) 1

end MazeAgent
