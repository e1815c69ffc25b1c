import MazeAgent.Board.Cell
import MazeAgent.Board.Classic
import MazeAgent.Board.Entity
import MazeAgent.Board.Grid
import MazeAgent.Board.Layout
import MazeAgent.Board.Maze
import MazeAgent.Board.Snapshot
import MazeAgent.Board.Tile
import MazeAgent.Config.Basic
import MazeAgent.Config.Encode
import MazeAgent.Config.Overlay
import MazeAgent.Distance.Basic
import MazeAgent.Distance.Metric
import MazeAgent.Distance.Table
import MazeAgent.Document.Json
import MazeAgent.Document.Ron
import MazeAgent.Document.Toml.Reader
import MazeAgent.Document.Toml.Scalar
import MazeAgent.Document.Toml.Tree
import MazeAgent.Document.Toml.Writer
import MazeAgent.Document.Value
import MazeAgent.Event.Basic
import MazeAgent.Event.Bus
import MazeAgent.Event.Channel
import MazeAgent.Fault
import MazeAgent.Field.Basic
import MazeAgent.Field.Score
import MazeAgent.Forecast.Basic
import MazeAgent.Forecast.Odds
import MazeAgent.Goal.Select
import MazeAgent.Number.Exponential
import MazeAgent.Number.Numeral
import MazeAgent.Number.Shortest
import MazeAgent.Number.Single
import MazeAgent.Number.Word
import MazeAgent.Planner.Basic
import MazeAgent.Planner.Decision
import MazeAgent.Planner.Presenter
import MazeAgent.Proofs.Board.Acceptance
import MazeAgent.Proofs.Board.Access
import MazeAgent.Proofs.Board.Adjacency
import MazeAgent.Proofs.Board.Assembly
import MazeAgent.Proofs.Board.Edits
import MazeAgent.Proofs.Board.Heading
import MazeAgent.Proofs.Board.Reading
import MazeAgent.Proofs.Board.Walk
import MazeAgent.Proofs.Checked
import MazeAgent.Proofs.Config.Decode
import MazeAgent.Proofs.Config.Schedule
import MazeAgent.Proofs.Config.Setting
import MazeAgent.Proofs.Distance.Estimate
import MazeAgent.Proofs.Distance.Symmetry
import MazeAgent.Proofs.Distance.Table
import MazeAgent.Proofs.Document.Json
import MazeAgent.Proofs.Document.Shape
import MazeAgent.Proofs.Document.Value
import MazeAgent.Proofs.Event.Bus
import MazeAgent.Proofs.Event.History
import MazeAgent.Proofs.Field.Density
import MazeAgent.Proofs.Field.Locality
import MazeAgent.Proofs.Field.Lure
import MazeAgent.Proofs.Field.Parts
import MazeAgent.Proofs.Forecast.History
import MazeAgent.Proofs.Forecast.Junction
import MazeAgent.Proofs.Goal.Candidates
import MazeAgent.Proofs.Goal.Flight
import MazeAgent.Proofs.Goal.Scan
import MazeAgent.Proofs.Number.Normal
import MazeAgent.Proofs.Number.Order
import MazeAgent.Proofs.Number.Rounding
import MazeAgent.Proofs.Number.Sign
import MazeAgent.Proofs.Number.Whole
import MazeAgent.Proofs.Planner.Action
import MazeAgent.Proofs.Planner.Capacity
import MazeAgent.Proofs.Planner.Chance
import MazeAgent.Proofs.Planner.Fault
import MazeAgent.Proofs.Planner.Passage
import MazeAgent.Proofs.Planner.Run
import MazeAgent.Proofs.Planner.Stall
import MazeAgent.Proofs.Route.Budget
import MazeAgent.Proofs.Route.Capacity
import MazeAgent.Proofs.Route.Invariant
import MazeAgent.Proofs.Route.Order
import MazeAgent.Proofs.Route.Path
import MazeAgent.Proofs.Route.Precedence
import MazeAgent.Proofs.Route.Shortest
import MazeAgent.Proofs.Transport.RoundTrip
import MazeAgent.Proofs.Worker.Course
import MazeAgent.Proofs.Worker.Journal
import MazeAgent.Random.Seeded
import MazeAgent.Random.Source
import MazeAgent.Report.Board
import MazeAgent.Report.Config
import MazeAgent.Report.Run
import MazeAgent.Route.Frontier
import MazeAgent.Route.Search
import MazeAgent.Scenario.Basic
import MazeAgent.Storage.Files
import MazeAgent.Storage.Load
import MazeAgent.Text.Quoted
import MazeAgent.Text.Unseen
import MazeAgent.Transport.Board
import MazeAgent.Transport.Event
import MazeAgent.Worker.Basic
import MazeAgent.Worker.Provider
import MazeAgent.Worker.Session
