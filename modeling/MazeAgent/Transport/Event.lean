import MazeAgent.Event.Basic
import MazeAgent.Transport.Board

/-!
# Events as documents

The documents in which decisions and overlays travel.

**Results.**
* `Event.encode`, `Event.decode` and those of the parts of an event.
-/

namespace MazeAgent

namespace MoveCommand

def wireName : MoveCommand → String
  | up => "Up"
  | down => "Down"
  | left => "Left"
  | right => "Right"
  | randomWalk => "RandomWalk"
  | none => "None"

def encode (command : MoveCommand) : Document := .text command.wireName

def decode (style : DocumentStyle) (document : Document) : Option MoveCommand :=
  document.word? style all wireName

end MoveCommand

namespace DecisionState

def encode (state : DecisionState) : Document := .text state.label

def decode (style : DocumentStyle) (document : Document) : Option DecisionState :=
  document.word? style all label

end DecisionState

namespace Decision

def encode (decision : Decision) : Document :=
  .table [
    ("sequence", UInt64.encode decision.sequence),
    ("command", decision.command.encode),
    ("target", decision.target.encode),
    ("state", decision.state.encode)]

def decode (style : DocumentStyle) (document : Document) : Option Decision :=
  match document.record? style false ["sequence", "command", "target", "state"] with
  | some [some sequence, some command, some target, some state] => do
      return {
        sequence := ← sequence.uint64?
        command := ← MoveCommand.decode style command
        target := ← Tile.decode style target
        state := ← DecisionState.decode style state }
  | _ => none

end Decision

namespace Rgb

def encode (color : Rgb) : Document :=
  .list [.integer color.red.toNat, .integer color.green.toNat, .integer color.blue.toNat]

def decode (style : DocumentStyle) : Document → Option Rgb
  | .list (red :: green :: blue :: rest) =>
      if rest.isEmpty || style.allowsExtraItems then
        do return ⟨← red.uint8?, ← green.uint8?, ← blue.uint8?⟩
      else
        none
  | _ => none

end Rgb

namespace OverlayEvent

def encodeCell (cell : Tile × Rgb) : Document := .list [cell.1.encode, cell.2.encode]

def encode : OverlayEvent → Document
  | field cells => .tagged "Field" (.table [("cells", .list (cells.map encodeCell))])
  | path tiles => .tagged "Path" (.table [("tiles", .list (tiles.map Tile.encode))])

def decode (style : DocumentStyle) (document : Document) : Option OverlayEvent :=
  match document.choice? with
  | some ("Field", some payload) =>
      match payload.record? style false ["cells"] with
      | some [some cells] =>
          (cells.list? (Document.pair? style (Tile.decode style) (Rgb.decode style))).map field
      | _ => none
  | some ("Path", some payload) =>
      match payload.record? style false ["tiles"] with
      | some [some tiles] => (tiles.list? (Tile.decode style)).map path
      | _ => none
  | _ => none

end OverlayEvent

namespace Topic

def wireName : Topic → String
  | decision => "Decision"
  | overlay => "Overlay"

def encode (topic : Topic) : Document := .text topic.wireName

def decode (style : DocumentStyle) (document : Document) : Option Topic :=
  document.word? style all wireName

end Topic

namespace Event

def encode : Event → Document
  | decision value => .tagged "Decision" value.encode
  | overlay value => .tagged "Overlay" value.encode

def decode (style : DocumentStyle) (document : Document) : Option Event :=
  match document.choice? with
  | some ("Decision", some payload) => (Decision.decode style payload).map decision
  | some ("Overlay", some payload) => (OverlayEvent.decode style payload).map overlay
  | _ => none

end Event
end MazeAgent
