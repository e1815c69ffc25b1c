import MazeAgent.Event.Basic
import MazeAgent.Planner.Basic

/-!
# Providers of decisions

A provider answers a snapshot with at most one decision, and with pictures of how it came about.

**Results.**
* `Provider`: what is asked for decisions.
* `Provider.ofPlanner`, `Provider.broadcasting`: a planner as a provider.
* `Provider.holding`, `Provider.scripted`: providers that do not look at the board.
-/

namespace MazeAgent

/-- The answer of a provider. -/
inductive Reply where
  | decision (decision : Decision)
  /-- There is nothing to decide. -/
  | nothing
  | failure
  /-- The provider takes its host down with it. -/
  | crash
  deriving DecidableEq, Repr

/-- What is asked for decisions. An answer comes with overlays to publish. -/
structure Provider (σ : Type) where
  decide : Snapshot → (now : Nat) → σ → Reply × List OverlayEvent × σ

/-- The answer that the outcome of a tick amounts to. -/
def Outcome.reply : Outcome → Reply
  | decided decision => .decision decision
  | skipped => .nothing
  | failed _ => .failure
  | stopped _ => .crash

/-- The overlay of what an audience was shown. -/
def Shown.overlay : Shown → OverlayEvent
  | field shown => .field shown.colors
  | route tiles => .path tiles

namespace Provider

variable {σ : Type}

/-- A planner with an audience of its own. -/
def ofPlanner (presenter : Presenter σ) : Provider (Planner × σ) where
  decide board now state :=
    let ⟨outcome, planner, audience⟩ := state.1.tick presenter board now state.2
    (outcome.reply, [], (planner, audience))

def broadcasting : Provider Planner where
  decide board now planner :=
    let ⟨outcome, planner, seen⟩ := planner.tick (Presenter.recorder (.ok ())) board now []
    (outcome.reply, seen.map Shown.overlay, planner)

def holding : Provider Unit where
  decide _ _ _ := (.nothing, [], ())

/-- One step of a script. -/
inductive Cue where
  | skip
  | fail
  | crash
  | stay
  deriving DecidableEq, Repr

def Cue.reply (board : Snapshot) : Cue → Reply
  | skip => .nothing
  | fail => .failure
  | crash => .crash
  | stay => .decision ⟨board.sequence, .none, board.agent, .replanning⟩

/-- The provider that follows a script, and stays where it is when the script is over. -/
def scripted : Provider (List Cue) where
  decide board _ script :=
    match script with
    | cue :: rest => (cue.reply board, [], rest)
    | [] => (Cue.stay.reply board, [], [])

end Provider
end MazeAgent
