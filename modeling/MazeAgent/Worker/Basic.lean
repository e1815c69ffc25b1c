import MazeAgent.Event.Bus
import MazeAgent.Worker.Provider

/-!
# The worker

The worker waits until there is a new snapshot, until its interval has passed, or until nobody
wants its decisions any more. It asks its provider about the latest snapshot, publishes the
decision and puts it into a queue with one slot, where it waits while the slot is full.

What surrounds it acts between its steps: snapshots are published, decisions are received, and
either end may go away.

**Results.**
* `Worker.wake`, `Worker.decide`, `Worker.deliver`: the steps of the worker.
* `Worker.publish`, `Worker.receive`, `Worker.dropSender`, `Worker.dropReceiver`: what happens
  around it.
-/

namespace MazeAgent

/-- Where the worker is in its loop. -/
inductive Phase where
  /-- It waits for something to happen. -/
  | waiting
  /-- It has taken a snapshot. -/
  | deciding (board : Snapshot)
  /-- It has a decision for the queue. -/
  | sending (decision : Decision)
  /-- It has left its loop. -/
  | stopped
  /-- Its provider has crashed. -/
  | crashed
  deriving DecidableEq

/-- Why the worker stops waiting. -/
inductive Wakeup where
  /-- The snapshots have changed, or no more will come. -/
  | changed
  /-- The interval has passed. -/
  | interval
  /-- Nobody wants the decisions. -/
  | closed
  deriving DecidableEq, Repr

/-- The worker with the ends of its channels. -/
structure Worker (σ : Type) where
  provider : Provider σ
  memory : σ
  bus : Bus
  phase : Phase
  /-- The latest snapshot. -/
  latest : Option Snapshot
  /-- How many snapshots have been published. -/
  published : Nat
  /-- How many had been published when the worker last looked. -/
  seen : Nat
  /-- Whether somebody can still publish snapshots. -/
  hasSender : Bool
  /-- The decision that waits to be received. -/
  slot : Option Decision
  /-- Whether somebody can still receive decisions. -/
  hasReceiver : Bool

namespace Worker

variable {σ : Type}

/-- The worker before its first step. -/
def start (provider : Provider σ) (memory : σ) (bus : Bus) : Worker σ where
  provider := provider
  memory := memory
  bus := bus
  phase := .waiting
  latest := none
  published := 0
  seen := 0
  hasSender := true
  slot := none
  hasReceiver := true

/-- Whether the worker has come to its end. -/
def isDone (worker : Worker σ) : Bool :=
  match worker.phase with
  | .stopped => true
  | .crashed => true
  | _ => false

/-- Whether there is a snapshot that the worker has not looked at. -/
def hasNews (worker : Worker σ) : Bool := worker.seen < worker.published

/-! ## Steps of the worker -/

/-- The worker with the latest snapshot, if there is one. -/
def take (worker : Worker σ) : Worker σ :=
  { worker with
    seen := worker.published
    phase :=
      match worker.latest with
      | some board => .deciding board
      | none => .waiting }

/-- The worker after it has been woken, when there is that reason to wake it. A snapshot that it
has not looked at goes before the news that no more will come. -/
def wake (worker : Worker σ) (wakeup : Wakeup) : Option (Worker σ) :=
  match worker.phase, wakeup with
  | .waiting, .changed =>
      if worker.hasNews then some worker.take
      else if worker.hasSender then none
      else some { worker with phase := .stopped }
  | .waiting, .interval => some worker.take
  | .waiting, .closed => if worker.hasReceiver then none else some { worker with phase := .stopped }
  | _, _ => none

/-- The worker after its provider has answered. -/
def decide (worker : Worker σ) (now : Nat) : Option (Worker σ) :=
  match worker.phase with
  | .deciding board =>
      let (reply, overlays, memory) := worker.provider.decide board now worker.memory
      let bus := overlays.foldl (fun bus overlay => (bus.publish (.overlay overlay)).2) worker.bus
      let worker := { worker with memory := memory, bus := bus }
      match reply with
      | .decision decision =>
          some { worker with
            bus := (bus.publish (.decision decision)).2
            phase := .sending decision }
      | .nothing => some { worker with phase := .waiting }
      | .failure => some { worker with phase := .waiting }
      | .crash => some { worker with phase := .crashed }
  | _ => none

/-- The worker after it has got rid of its decision, when the slot is free; without anybody to
receive it the worker stops. -/
def deliver (worker : Worker σ) : Option (Worker σ) :=
  match worker.phase, worker.slot with
  | .sending decision, slot =>
      if !worker.hasReceiver then
        some { worker with phase := .stopped }
      else
        match slot with
        | none => some { worker with slot := some decision, phase := .waiting }
        | some _ => none
  | _, _ => none

/-! ## What happens around the worker -/

/-- The worker after a snapshot has been published, unless it has come to its end. -/
def publish (worker : Worker σ) (board : Snapshot) : Option (Worker σ) :=
  if worker.isDone then
    none
  else
    some { worker with latest := some board, published := worker.published + 1 }

/-- The decision in the slot, and the worker after it has been received. -/
def receive (worker : Worker σ) : Option (Decision × Worker σ) :=
  match worker.slot with
  | some decision => some (decision, { worker with slot := none })
  | none => none

/-- The worker after nobody can publish snapshots any more. -/
def dropSender (worker : Worker σ) : Worker σ := { worker with hasSender := false }

/-- The worker after nobody can receive decisions any more. -/
def dropReceiver (worker : Worker σ) : Worker σ :=
  { worker with hasReceiver := false, slot := none }

end Worker
end MazeAgent
