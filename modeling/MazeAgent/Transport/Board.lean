import MazeAgent.Board.Snapshot
import MazeAgent.Distance.Metric
import MazeAgent.Document.Value

/-!
# Board values as documents

The documents in which tiles, ghosts, fruit and board errors travel. A record is a table of its
fields; a choice is the name of its case, alone or in a table with what belongs to it.

**Results.**
* for each type `T` the pair `T.encode`, `T.decode`.
-/

namespace MazeAgent

def UInt64.encode (n : UInt64) : Document := .integer n.toNat

def UInt32.encode (n : UInt32) : Document := .integer n.toNat

namespace Document

/-- The document of a choice that comes with a record. -/
def tagged (tag : String) (payload : Document) : Document := table [(tag, payload)]

def ofOption {α : Type} (encode : α → Document) : Option α → Document
  | some value => encode value
  | none => null

end Document

namespace Tile

def encode (tile : Tile) : Document :=
  .table [("row", .integer tile.row.toInt), ("col", .integer tile.col.toInt)]

def decode (style : DocumentStyle) (document : Document) : Option Tile :=
  match document.record? style false ["row", "col"] with
  | some [some row, some col] => do return ⟨← row.int32?, ← col.int32?⟩
  | _ => none

end Tile

namespace Direction

def wireName : Direction → String
  | up => "Up"
  | down => "Down"
  | left => "Left"
  | right => "Right"

def encode (direction : Direction) : Document := .text direction.wireName

def decode (style : DocumentStyle) (document : Document) : Option Direction :=
  document.word? style all wireName

end Direction

namespace GhostColor

def encode (color : GhostColor) : Document := .text color.label

def decode (style : DocumentStyle) (document : Document) : Option GhostColor :=
  document.word? style all label

end GhostColor

namespace GameMode

def encode (mode : GameMode) : Document := .text mode.label

def decode (style : DocumentStyle) (document : Document) : Option GameMode :=
  document.word? style all label

end GameMode

namespace Metric

def encode (metric : Metric) : Document := .text metric.label

def decode (style : DocumentStyle) (document : Document) : Option Metric :=
  document.word? style all label

end Metric

namespace Ghost

def encode (ghost : Ghost) : Document :=
  .table [
    ("color", ghost.color.encode),
    ("tile", ghost.tile.encode),
    ("frightened", .boolean ghost.frightened),
    ("spawning", .boolean ghost.spawning),
    ("heading", Document.ofOption Direction.encode ghost.heading)]

/-- The ghost of a document; in a table the heading may be missing. -/
def decode (style : DocumentStyle) (document : Document) : Option Ghost :=
  match document.record? style false ["color", "tile", "frightened", "spawning", "heading"] with
  | some [some color, some tile, some frightened, some spawning, heading] => do
      return {
        color := ← GhostColor.decode style color
        tile := ← Tile.decode style tile
        frightened := ← frightened.boolean?
        spawning := ← spawning.boolean?
        heading := ← (heading.getD .null).optional? (Direction.decode style) }
  | _ => none

end Ghost

namespace Fruit

def encode (fruit : Fruit) : Document :=
  .table [
    ("tile", fruit.tile.encode),
    ("remaining_steps", UInt32.encode fruit.remainingSteps),
    ("duration", UInt32.encode fruit.duration)]

def decode (style : DocumentStyle) (document : Document) : Option Fruit :=
  match document.record? style false ["tile", "remaining_steps", "duration"] with
  | some [some tile, some remaining, some duration] => do
      return ⟨← Tile.decode style tile, ← remaining.uint32?, ← duration.uint32?⟩
  | _ => none

end Fruit

/-! ## Errors -/

namespace Severity

def wireName : Severity → String
  | recoverable => "Recoverable"
  | validation => "Validation"
  | internal => "Internal"

def encode (severity : Severity) : Document := .text severity.wireName

def decode (style : DocumentStyle) (document : Document) : Option Severity :=
  document.word? style all wireName

end Severity

namespace StepError

def encode (error : StepError) : Document :=
  Document.tagged "InvalidDelta"
    (.table [("delta_row", .integer error.row.toInt), ("delta_col", .integer error.col.toInt)])

def decode (style : DocumentStyle) (document : Document) : Option StepError :=
  match document.choice? with
  | some ("InvalidDelta", some payload) =>
      match payload.record? style false ["delta_row", "delta_col"] with
      | some [some row, some col] => do return ⟨← row.int32?, ← col.int32?⟩
      | _ => none
  | _ => none

end StepError

namespace LayoutError

def encode : LayoutError → Document
  | tooManyRows rows max =>
      .tagged "TooManyRows" (.table [("rows", UInt64.encode rows), ("max", UInt64.encode max)])
  | rowTooWide row cols max =>
      .tagged "RowTooWide" (.table [
        ("row", UInt64.encode row), ("cols", UInt64.encode cols), ("max", UInt64.encode max)])
  | unknownGlyph glyph tile =>
      .tagged "UnknownGlyph" (.table [
        ("glyph", .text (String.singleton glyph)), ("tile", tile.encode)])
  | duplicateAgent tile => .tagged "DuplicateAgent" (.table [("tile", tile.encode)])

def char? (document : Document) : Option Char :=
  match document.text?.map String.toList with
  | some [char] => some char
  | _ => none

def decode (style : DocumentStyle) (document : Document) : Option LayoutError :=
  match document.choice? with
  | some ("TooManyRows", some payload) =>
      match payload.record? style false ["rows", "max"] with
      | some [some rows, some max] => do return tooManyRows (← rows.uint64?) (← max.uint64?)
      | _ => none
  | some ("RowTooWide", some payload) =>
      match payload.record? style false ["row", "cols", "max"] with
      | some [some row, some cols, some max] => do
          return rowTooWide (← row.uint64?) (← cols.uint64?) (← max.uint64?)
      | _ => none
  | some ("UnknownGlyph", some payload) =>
      match payload.record? style false ["glyph", "tile"] with
      | some [some glyph, some tile] => do
          return unknownGlyph (← char? glyph) (← Tile.decode style tile)
      | _ => none
  | some ("DuplicateAgent", some payload) =>
      match payload.record? style false ["tile"] with
      | some [some tile] => do return duplicateAgent (← Tile.decode style tile)
      | _ => none
  | _ => none

end LayoutError

namespace SnapshotError

def encode : SnapshotError → Document
  | ghostListFull max => .tagged "GhostListFull" (.table [("max", UInt64.encode max)])
  | outOfBounds tile => .tagged "OutOfBounds" (.table [("tile", tile.encode)])
  | missingAgent => .text "MissingAgent"

def decode (style : DocumentStyle) (document : Document) : Option SnapshotError :=
  match document.choice? with
  | some ("GhostListFull", some payload) =>
      match payload.record? style false ["max"] with
      | some [some max] => do return ghostListFull (← max.uint64?)
      | _ => none
  | some ("OutOfBounds", some payload) =>
      match payload.record? style false ["tile"] with
      | some [some tile] => do return outOfBounds (← Tile.decode style tile)
      | _ => none
  | some ("MissingAgent", none) => some missingAgent
  | some ("MissingAgent", some payload) =>
      if style.isEmptyPayload payload then some missingAgent else none
  | _ => none

end SnapshotError
end MazeAgent
