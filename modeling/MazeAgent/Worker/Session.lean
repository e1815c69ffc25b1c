import MazeAgent.Worker.Basic

/-!
# Sessions

A session runs a worker beside a client on a clock of its own. While the client waits, the worker
does all that it can do, and then the clock jumps to the next moment at which something happens.
When the client and the worker are due at the same moment, the client goes first.

**Results.**
* `Session.start`: a session, when its settings are sound.
* `Session.wait`: lets the worker run while the client waits.
* `Session.next`, `Session.takeQueue`, `Session.takeNext`, `Session.shutdown` and others: what
  the client can do.
-/

namespace MazeAgent

/-- Why a session does not start, or has nothing to give. -/
inductive SessionError where
  | invalid (reason : String)
  | noProvider
  | snapshotsClosed
  | decisionsClosed
  | crashed
  deriving DecidableEq, Repr

def SessionError.message : SessionError → String
  | invalid reason => s!"invalid runtime configuration: {reason}"
  | noProvider => "decision provider not set"
  | snapshotsClosed => "snapshot channel closed"
  | decisionsClosed => "decision channel closed"
  | crashed => "decision worker join failed"

/-- The settings of a session. -/
structure SessionSettings where
  config : Config := {}
  /-- The time between two ticks without a new snapshot, in milliseconds. -/
  interval : Nat := 100
  /-- How many events a channel of the bus keeps. -/
  bufferSize : Nat := 100

/-- The first thing that is wrong with the settings. -/
def SessionSettings.refusal (settings : SessionSettings) : Option SessionError :=
  if settings.interval = 0 then
    some (.invalid "decision_interval must be positive")
  else if settings.bufferSize = 0 then
    some (.invalid "event_buffer_size must be positive")
  else if settings.config.planner.stuckThreshold = 0 then
    some (.invalid "stuck_threshold_ms must be positive")
  else
    none

/-- Who can receive the decisions. -/
inductive QueueHolder where
  | session
  | client
  | nobody
  deriving DecidableEq, Repr

/-- What came of waiting for something. -/
inductive Waited (α : Type) where
  | got (value : α)
  | timeout
  /-- It will never come. -/
  | closed
  deriving DecidableEq, Repr

/-- A worker with a clock and a client. -/
structure Session (σ : Type) where
  worker : Worker σ
  interval : Nat
  /-- The time in milliseconds. -/
  now : Nat
  /-- When the interval of the worker has passed. -/
  due : Nat
  holder : QueueHolder
  /-- Whether the client still has the session. -/
  isOpen : Bool

namespace Session

variable {σ : Type}

def start (settings : SessionSettings) (hosted : Option (Provider σ × σ)) :
    Except SessionError (Checked (Session σ)) :=
  match settings.refusal with
  | some error => .error error
  | none =>
      match Bus.ofCapacity settings.bufferSize, hosted with
      | .error fault, _ => .ok (.error fault)
      | .ok _, none => .error .noProvider
      | .ok bus, some (provider, memory) => .ok (.ok {
          worker := Worker.start provider memory bus
          interval := settings.interval
          now := 0
          due := 0
          holder := .session
          isOpen := true })

/-! ## The worker on the clock -/

/-- How late a tick may be without being missed, in milliseconds. -/
def tolerance : Nat := 5

/-- When the next tick is due after one that was due at a time. Missed ticks are passed over, and
the later ones keep their rhythm. -/
def nextDue (interval due now : Nat) : Nat :=
  if due + tolerance < now then now + interval - (now - due) % interval else due + interval

/-- The reason that the worker has to wake up now. -/
def wakeup? (session : Session σ) : Option Wakeup :=
  if !session.worker.hasReceiver then some .closed
  else if session.worker.hasNews then some .changed
  else if session.due ≤ session.now then some .interval
  else if !session.worker.hasSender then some .changed
  else none

/-- The session after one step of the worker, if the worker can take one now. -/
def step? (session : Session σ) : Option (Session σ) :=
  match session.worker.phase with
  | .waiting =>
      match session.wakeup? with
      | none => none
      | some wakeup =>
          let due :=
            if wakeup = .interval then nextDue session.interval session.due session.now
            else session.due
          (session.worker.wake wakeup).map
            (fun worker => { session with worker := worker, due := due })
  | .deciding _ =>
      (session.worker.decide session.now).map (fun worker => { session with worker := worker })
  | .sending _ => session.worker.deliver.map (fun worker => { session with worker := worker })
  | .stopped => none
  | .crashed => none

/-- The time of the next event when the worker can do nothing now. -/
def nextEvent (session : Session σ) (limit : Nat) : Nat :=
  match session.worker.phase with
  | .waiting => min limit session.due
  | _ => limit

/-- The session once the client goes on: when the worker is as the client wants it, or when the
time is up. -/
def waitWithin (wanted : Worker σ → Bool) (limit : Nat) :
    (fuel : Nat) → Session σ → Session σ
  | 0, session => session
  | fuel + 1, session =>
      if wanted session.worker || limit ≤ session.now then
        session
      else
        match session.step? with
        | some next => waitWithin wanted limit fuel next
        | none => waitWithin wanted limit fuel { session with now := session.nextEvent limit }

/-- How many steps the worker takes at most in the given number of milliseconds. -/
def stepLimit (duration : Nat) : Nat := 64 * (duration + 2)

/-- The session after the client has waited for something, for at most the given time. -/
def wait (session : Session σ) (wanted : Worker σ → Bool) (duration : Nat) : Session σ :=
  waitWithin wanted (session.now + duration) (stepLimit duration) session

/-! ## What the client can do -/

def withWorker (session : Session σ) (worker : Worker σ) : Session σ :=
  { session with worker := worker }

/-- Waits for the given time. -/
def sleep (session : Session σ) (duration : Nat) : Session σ :=
  session.wait (fun _ => false) duration

/-- Publishes a snapshot. -/
def publish (session : Session σ) (board : Snapshot) : Except SessionError (Session σ) :=
  match session.worker.publish board with
  | some worker => .ok (session.withWorker worker)
  | none => .error .snapshotsClosed

/-- Waits for a decision in the queue. -/
def awaitDecision (session : Session σ) (duration : Nat) : Waited Decision × Session σ :=
  let session :=
    session.wait (fun worker => worker.slot.isSome || worker.isDone) duration
  match session.worker.receive with
  | some (decision, worker) => (.got decision, session.withWorker worker)
  | none => (if session.worker.isDone then .closed else .timeout, session)

/-- Waits for the next decision, as long as the queue has not been handed over. -/
def next (session : Session σ) (duration : Nat) : Waited Decision × Session σ :=
  match session.holder with
  | .session => session.awaitDecision duration
  | _ => (.closed, session)

/-- Hands the queue over to the client, and says whether it was there to be handed over. -/
def takeQueue (session : Session σ) : Bool × Session σ :=
  match session.holder with
  | .session => (true, { session with holder := .client })
  | _ => (false, session)

/-- Waits for the next decision in the queue that was handed over, if it was. -/
def takeNext (session : Session σ) (duration : Nat) : Option (Waited Decision) × Session σ :=
  match session.holder with
  | .client =>
      let (waited, session) := session.awaitDecision duration
      (some waited, session)
  | _ => (none, session)

/-- The session after a holder has let go of the queue, if it had it. -/
def release (session : Session σ) (holder : QueueHolder) : Session σ :=
  if session.holder = holder then
    { session with worker := session.worker.dropReceiver, holder := .nobody }
  else
    session

/-- Drops the queue that was handed over. -/
def dropQueue (session : Session σ) : Session σ := session.release .client

/-- Drops the session without waiting for the worker. -/
def drop (session : Session σ) : Session σ := { session.release .session with isOpen := false }

/-- Drops the session and waits for the worker to come to its end. -/
def shutdown (session : Session σ) (duration : Nat) :
    Waited (Except SessionError Unit) × Session σ :=
  let session := session.drop.wait Worker.isDone duration
  match session.worker.phase with
  | .stopped => (.got (.ok ()), session)
  | .crashed => (.got (.error .crashed), session)
  | _ => (.timeout, session)

end Session
end MazeAgent
