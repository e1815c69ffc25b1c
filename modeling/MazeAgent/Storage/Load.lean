import MazeAgent.Board.Classic
import MazeAgent.Config.Encode
import MazeAgent.Document.Toml.Reader
import MazeAgent.Document.Toml.Writer
import MazeAgent.Scenario.Basic
import MazeAgent.Storage.Files

/-!
# Loading and saving

Layouts, configurations and scenarios are read from files, and configurations are written.

**Results.**
* `Layout.load`, `Layout.resolve`: the layout of a file or of a name.
* `Config.load`, `Config.save`: configurations in files.
* `Scenario.load`: the snapshot of a scenario, with its layout looked up beside it.
-/

namespace MazeAgent

/-- Why nothing was loaded or saved. -/
inductive LoadError where
  | unreadable (path : String)
  | unwritable (path : String)
  | badLayout (path : String) (error : LayoutError)
  | badClassic (error : LayoutError)
  | badConfig
  | badScenario
  | badSetup (error : SnapshotError)
  deriving DecidableEq, Repr

def LoadError.message : LoadError → String
  | unreadable path => s!"Failed to read file {path}"
  | unwritable path => s!"Failed to write file {path}"
  | badLayout path error => s!"Failed to parse layout {path}: {error.message}"
  | badClassic error => s!"Failed to parse classic layout: {error.message}"
  | badConfig => "Failed to parse config TOML"
  | badScenario => "Failed to parse scenario RON"
  | badSetup error => s!"Invalid scenario: {error.message}"

def Files.load (files : Files) (path : String) : Except LoadError String :=
  match files.read? path with
  | some text => .ok text
  | none => .error (.unreadable path)

namespace Layout

def load (files : Files) (path : String) : Except LoadError Layout := do
  let text ← files.load path
  match parse text with
  | .ok layout => return layout
  | .error error => throw (.badLayout path error)

/-- The layout of a name: the classic maze, or the file at a path seen from a base. -/
def resolve (files : Files) (base : Option String) (name : String) : Except LoadError Layout :=
  if name = "classic" then
    match classic with
    | .ok layout => .ok layout
    | .error error => .error (.badClassic error)
  else
    match base with
    | some base => load files (Path.join base name)
    | none => load files name

end Layout

namespace Config

def read (text : String) : Except LoadError Config :=
  match (Toml.read text).bind (decode .withoutNull) with
  | some config => .ok config
  | none => .error .badConfig

def load (files : Files) (path : String) : Except LoadError Config := do
  read (← files.load path)

def write (config : Config) : String := Toml.write config.encode

/-- The files with a configuration saved under a path. -/
def save (files : Files) (path : String) (config : Config) : Except LoadError Files :=
  match files.write? path config.write with
  | some files => .ok files
  | none => .error (.unwritable path)

end Config

namespace Scenario

/-- The snapshot of a scenario, whose layout is looked up from a base. -/
def snapshot (scenario : Scenario) (files : Files) (base : Option String) :
    Except LoadError Snapshot := do
  let layout ← Layout.resolve files base scenario.map
  match (scenario.setup layout).build with
  | .ok board => return board
  | .error error => throw (.badSetup error)

/-- The snapshot of the scenario of a text. -/
def ofText (files : Files) (base : Option String) (text : String) : Except LoadError Snapshot :=
  match read text with
  | some scenario => scenario.snapshot files base
  | none => .error .badScenario

/-- The snapshot of the scenario in a file; its layout is looked up beside the file. -/
def load (files : Files) (path : String) : Except LoadError Snapshot := do
  ofText files (some (Path.parent path)) (← files.load path)

end Scenario
end MazeAgent
