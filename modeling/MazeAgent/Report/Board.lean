import MazeAgent.Board.Snapshot
import MazeAgent.Document.Value

/-!
# Reports on the board

A report is a document that shows a value as it is: numbers by their bits, tiles as pairs, names
by their words, and the board as rows of glyphs.

**Results.**
* `Report.single`, `Report.tile`, `Report.optional`: reports on small values.
* `Report.layout`, `Report.snapshot`: reports on boards.
-/

namespace MazeAgent
namespace Report

/-! ## Small values -/

def count (n : Nat) : Document := .integer n

/-- A value, or null for none. -/
def optional {α : Type} (report : α → Document) : Option α → Document
  | some value => report value
  | none => .null

/-- A number of 64 bits as a text, since not every reader has integers of that size. -/
def wide (n : UInt64) : Document := .text (toString n.toNat)

/-- Eight hexadecimal digits. -/
def hexadecimal (n : Nat) : String :=
  let digits := Nat.toDigits 16 n
  String.ofList (List.replicate (8 - digits.length) '0' ++ digits)

/-- A binary32 number by its bits; both zeros are shown alike, and so is all that is no number. -/
def single (x : Single) : Document :=
  if x.isNaN then .text "nan"
  else if x.isInfinite then .text (if x.isNegative then "-inf" else "inf")
  else if x.isZero then .text (hexadecimal 0)
  else .text (hexadecimal x.bits.toNat)

def direction (direction : Direction) : Document := .text direction.label

def coordinates (tile : Tile) : List Document :=
  [.integer tile.row.toInt, .integer tile.col.toInt]

def tile (tile : Tile) : Document := .list (coordinates tile)

/-! ## Boards -/

/-- The glyph of a cell by wall, pellet and super pellet. -/
def glyph (wall pellet superPellet : Bool) : Char :=
  match wall, pellet, superPellet with
  | true, false, false => '#'
  | true, true, false => ','
  | true, false, true => 'O'
  | true, true, true => '%'
  | false, false, false => ' '
  | false, true, false => '.'
  | false, false, true => 'o'
  | false, true, true => '8'

def solidRow : String := String.ofList (List.replicate boardCols '#')

/-- The rows of a board as glyphs, without the rows at the end that are all wall. -/
def rows (walls pellets superPellets : Grid Bool) : Document :=
  let glyphs := Cell.all.map (fun cell =>
    glyph (walls.get cell) (pellets.get cell) (superPellets.get cell))
  let rows := (List.range boardRows).map (fun row =>
    String.ofList ((glyphs.drop (row * boardCols)).take boardCols))
  .list (((rows.reverse.dropWhile (· == solidRow)).reverse).map Document.text)

/-- How many walls, pellets of both kinds and super pellets a layout has. -/
def counts (layout : Layout) : Nat × Nat × Nat :=
  (layout.pelletCount, layout.walls.count, layout.superPellets.count)

def layout (layout : Layout) : List (String × Document) :=
  let (pellets, walls, superPellets) := counts layout
  [ ("rows", rows layout.walls layout.pellets layout.superPellets),
    ("agent", optional tile layout.agent),
    ("fruit", optional tile layout.fruit),
    ("pellet_count", count pellets),
    ("walls", count walls),
    ("supers", count superPellets)]

def ghost (ghost : Ghost) : Document :=
  .table [
    ("color", .text ghost.color.label),
    ("tile", tile ghost.tile),
    ("frightened", .boolean ghost.frightened),
    ("spawning", .boolean ghost.spawning),
    ("heading", optional direction ghost.heading),
    ("threat", .boolean ghost.isThreat)]

def snapshot (board : Snapshot) : Document :=
  .table [
    ("rows", rows board.walls board.pellets board.superPellets),
    ("sequence", wide board.sequence),
    ("agent", tile board.agent),
    ("heading", optional direction board.heading),
    ("ghosts", .list (board.ghosts.map ghost)),
    ("fruit_present", .boolean board.fruit.isSome),
    ("fruit_location", optional (fun fruit => tile fruit.tile) board.fruit),
    ("fruit_remaining", count ((board.fruit.map (·.remainingSteps.toNat)).getD 0)),
    ("fruit_duration", count ((board.fruit.map (·.duration.toNat)).getD 0)),
    ("freshness", optional (fun fruit => single fruit.freshness) board.fruit),
    ("lives", count board.lives.toNat),
    ("mode", .text board.mode.label),
    ("pellets_remaining", count board.pelletsRemaining.toNat),
    ("walkable", count board.walls.openCells.length)]

end Report
end MazeAgent
