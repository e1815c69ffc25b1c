import MazeAgent.Event.Bus
import MazeAgent.Planner.Basic
import MazeAgent.Report.Board

/-!
# Reports on a run

What the parts of the agent find and decide while it runs.

**Results.**
* `Report.motions`, `Report.odds`, `Report.goal`: reports on ghosts and goals.
* `Report.decision`, `Report.event`, `Report.reading`, `Report.shown`: reports on what comes out.
-/

namespace MazeAgent
namespace Report

def motion : Motion → Document
  | .stationary => .text "stationary"
  | .displaced => .text "displaced"
  | .moved heading => direction heading

def motions (motions : Motions) : Document := .list (motions.toList.map (optional motion))

def oddsFields (odds : Odds) : List (String × Document) :=
  [ ("entries", .list (odds.entries.map (fun (tile, weight) =>
      .list (coordinates tile ++ [single weight])))),
    ("degenerate", .boolean odds.isDegenerate),
    ("total", single odds.total)]

def odds (forecast : Forecast) : Document :=
  .list (forecast.odds.toList.map (optional (fun odds => .table (oddsFields odds))))

def goal : Goal → Document
  | .seek place cost =>
      .table [("goal", .text "seek"), ("tile", tile place), ("cost", single cost)]
  | .evade place threat =>
      .table [("goal", .text "evade"), ("tile", tile place), ("threat", .text threat.label)]
  | .explore place => .table [("goal", .text "explore"), ("tile", tile place)]

def command (command : MoveCommand) : Document :=
  .table [
    ("name", .text command.label),
    ("is_move", .boolean command.isMove),
    ("direction", optional direction command.direction?)]

def decision (decision : Decision) : Document :=
  .table [
    ("sequence", wide decision.sequence),
    ("command", .text decision.command.label),
    ("target", tile decision.target),
    ("state", .text decision.state.label)]

/-- Colored tiles. -/
def colored (tiles : List (Tile × Rgb)) : Document :=
  .list (tiles.map (fun (tile, color) => .list (coordinates tile ++
    [count color.red.toNat, count color.green.toNat, count color.blue.toNat])))

def event : Event → Document
  | .decision made => .table [("decision", decision made)]
  | .overlay (.field cells) => .table [("field", colored cells)]
  | .overlay (.path tiles) => .table [("path", .list (tiles.map tile))]

/-- What a subscription gets. -/
def reading : Reading Event → Document
  | .item item => event item
  | .empty => .text "empty"
  | .lagged lost => .table [("lagged", count lost)]

/-- What an audience was shown. -/
def shown : Shown → Document
  | .field field =>
      let (cells, least, greatest) := field.extent
      .table [("field", .list [count cells, single least, single greatest])]
  | .route tiles => .table [("path", .list (tiles.map tile))]

end Report
end MazeAgent
