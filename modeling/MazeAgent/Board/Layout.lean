import MazeAgent.Board.Grid
import MazeAgent.Text.Quoted

/-!
# Layouts

A layout is the still picture of a board: walls, pellets, super pellets, and the markers of the
agent and of the fruit. It is read from text, one line for a row and one glyph for a column;
what the text leaves out is wall.

**Results.**
* `Layout.parse`: the layout of a text, or the first thing wrong with it.
* `Layout.withPellet`, `Layout.withSuperPellet`, `Layout.withWall`: edits of one tile.
* `Layout.pelletCount`: the pellets of both kinds.
-/

namespace MazeAgent

/-- What can be wrong with the text of a layout. -/
inductive LayoutError where
  | tooManyRows (rows max : UInt64)
  | rowTooWide (row cols max : UInt64)
  | unknownGlyph (glyph : Char) (tile : Tile)
  | duplicateAgent (tile : Tile)
  deriving DecidableEq, Repr

namespace LayoutError

def message : LayoutError → String
  | tooManyRows rows max => s!"layout has {rows} rows, at most {max} allowed"
  | rowTooWide row cols max => s!"layout row {row} has {cols} columns, at most {max} allowed"
  | unknownGlyph glyph tile => s!"unknown layout glyph {Text.quoteChar glyph} at {tile.text}"
  | duplicateAgent tile => s!"layout places the agent more than once (second at {tile.text})"

/-- A wrong layout is rejected. -/
def severity (_ : LayoutError) : Severity := .validation

end LayoutError

/-- What one character of a layout text stands for. -/
inductive Glyph where
  | wall
  | floor
  | pellet
  | superPellet
  | agent
  | fruit
  deriving DecidableEq, Repr

def Glyph.ofChar? : Char → Option Glyph
  | '#' => some .wall
  | ' ' => some .floor
  | '.' => some .pellet
  | 'o' => some .superPellet
  | 'P' => some .agent
  | 'F' => some .fruit
  | _ => none

/-- Walls, items and markers of a board. -/
structure Layout where
  walls : Grid Bool
  pellets : Grid Bool
  superPellets : Grid Bool
  agent : Option Tile
  fruit : Option Tile
  deriving DecidableEq

namespace Layout

def solid : Layout where
  walls := Grid.filled true
  pellets := Grid.filled false
  superPellets := Grid.filled false
  agent := none
  fruit := none

/-- The signed reading of the 32 bits of a count. -/
def signedCount (count : UInt32) : Int :=
  count.toInt32.toInt

/-- The board that is all wall but for an empty rectangle with the given top left corner.
The rectangle may leave the board, but not the coordinates. -/
def openRect (corner : Tile) (rows cols : UInt32) : Checked Layout :=
  let height := signedCount rows
  let width := signedCount cols
  let bottom := corner.row.toInt + height
  let right := corner.col.toInt + width
  if height ≤ 0 ∨ width ≤ 0 then
    .ok solid
  else if 0x80000000 < bottom ∨ 0x80000000 < right then
    .error .additionOverflow
  else
    let inside (cell : Cell) : Bool :=
      corner.row.toInt ≤ cell.row && cell.row < bottom &&
        corner.col.toInt ≤ cell.col && cell.col < right
    .ok { solid with walls := Grid.ofFn (fun cell => !inside cell) }

/-! ## Reading -/

/-- The text without one leading line feed. -/
def dropLeadingBreak : List Char → List Char
  | '\n' :: rest => rest
  | text => text

/-- A line that ended in a line feed, without the carriage return before it. -/
def dropReturn (line : List Char) : List Char :=
  if line.getLast? = some '\r' then line.dropLast else line

/-- The lines of a text, where `line` holds the characters read since the last line feed, in
reverse. A final line feed opens no further line. -/
def linesFrom (line : List Char) : List Char → List (List Char)
  | [] => if line.isEmpty then [] else [line.reverse]
  | '\n' :: rest => dropReturn line.reverse :: linesFrom [] rest
  | c :: rest => linesFrom (c :: line) rest

def lines (text : List Char) : List (List Char) := linesFrom [] text

def dig (layout : Layout) (tile : Tile) : Layout :=
  { layout with walls := layout.walls.write tile false }

def place (layout : Layout) (tile : Tile) (char : Char) : Except LayoutError Layout :=
  match Glyph.ofChar? char with
  | none => .error (.unknownGlyph char tile)
  | some .wall => .ok layout
  | some .floor => .ok (layout.dig tile)
  | some .pellet =>
      .ok { layout.dig tile with pellets := layout.pellets.write tile true }
  | some .superPellet =>
      .ok { layout.dig tile with superPellets := layout.superPellets.write tile true }
  | some .agent =>
      if layout.agent.isSome then
        .error (.duplicateAgent tile)
      else
        .ok { layout.dig tile with agent := some tile }
  | some .fruit => .ok { layout.dig tile with fruit := some tile }

/-- The layout with the rest of a row read, from column `col`. -/
def placeRow (layout : Layout) (row : Nat) : (col : Nat) → List Char → Except LayoutError Layout
  | _, [] => .ok layout
  | col, char :: rest =>
      match layout.place ⟨Int32.ofNat row, Int32.ofNat col⟩ char with
      | .error error => .error error
      | .ok next => placeRow next row (col + 1) rest

/-- The layout with the remaining rows read, from row `row`. -/
def placeRows (layout : Layout) : (row : Nat) → List (List Char) → Except LayoutError Layout
  | _, [] => .ok layout
  | row, line :: rest =>
      if boardCols < line.length then
        .error (.rowTooWide row.toUInt64 line.length.toUInt64 boardCols.toUInt64)
      else
        match layout.placeRow row 0 line with
        | .error error => .error error
        | .ok next => placeRows next (row + 1) rest

def parse (text : String) : Except LayoutError Layout :=
  let rows := lines (dropLeadingBreak text.toList)
  if boardRows < rows.length then
    .error (.tooManyRows rows.length.toUInt64 boardRows.toUInt64)
  else
    solid.placeRows 0 rows

/-! ## Counting and editing -/

def pelletCount (layout : Layout) : Nat :=
  layout.pellets.count + layout.superPellets.count

/-- The layout with a pellet on a tile, if the tile is floor. -/
def withPellet (layout : Layout) (tile : Tile) : Layout :=
  if layout.walls.readOr tile true then
    layout
  else
    { layout with pellets := layout.pellets.write tile true }

/-- The layout with a super pellet on a tile, if the tile is floor. -/
def withSuperPellet (layout : Layout) (tile : Tile) : Layout :=
  if layout.walls.readOr tile true then
    layout
  else
    { layout with superPellets := layout.superPellets.write tile true }

/-- The layout with a tile made wall, and nothing left on it. -/
def withWall (layout : Layout) (tile : Tile) : Layout :=
  { layout with
    walls := layout.walls.write tile true
    pellets := layout.pellets.write tile false
    superPellets := layout.superPellets.write tile false }

end Layout
end MazeAgent
