import MazeAgent.Field.Basic

/-!
# Presenters

A presenter is shown what the planner computes on its way to a decision. It keeps a state of its
own and answers every call, but its answers have no say in the decision.

**Results.**
* `Presenter`: how an audience takes a field and a route.
* `Presenter.silent`, `Presenter.recorder`: an audience that ignores everything, and one that
  writes everything down.
-/

namespace MazeAgent

/-- Why an audience was not served. -/
inductive PresenterError where
  | unavailable
  | rejected (reason : String)
  deriving DecidableEq, Repr

namespace PresenterError

def message : PresenterError → String
  | unavailable => "presenter has no audience"
  | rejected reason => s!"presenter rejected update: {reason}"

/-- Nothing is lost but a picture. -/
def severity (_ : PresenterError) : Severity := .recoverable

end PresenterError

/-- How an audience takes what it is shown. -/
structure Presenter (σ : Type) where
  showField : Field → σ → Except PresenterError Unit × σ
  showRoute : List Tile → σ → Except PresenterError Unit × σ

/-- What an audience was shown. -/
inductive Shown where
  | field (field : Field)
  | route (tiles : List Tile)
  deriving DecidableEq

namespace Presenter

variable {σ : Type}

/-- The presenter that discards everything. -/
def silent : Presenter σ where
  showField _ audience := (.ok (), audience)
  showRoute _ audience := (.ok (), audience)

/-- The presenter that writes down what it is shown and gives the same answer to all of it. -/
def recorder (answer : Except PresenterError Unit) : Presenter (List Shown) where
  showField field seen := (answer, seen ++ [.field field])
  showRoute tiles seen := (answer, seen ++ [.route tiles])

end Presenter
end MazeAgent
