import MazeAgent.Event.Basic
import MazeAgent.Event.Channel
import MazeAgent.Fault
import MazeAgent.Planner.Presenter

/-!
# The event bus

The bus has a channel for each topic. A subscription follows one topic from the moment on at
which it is made.

**Results.**
* `Bus.ofCapacity`: a bus without events.
* `Bus.publish`, `Bus.subscribe`, `Bus.receive`, `Bus.cancel`: what can be done with it.
* `Bus.presenter`: the presenter that publishes what it is shown.
-/

namespace MazeAgent

/-- A reader of one topic. -/
structure Subscription where
  topic : Topic
  /-- The position of the next event. -/
  position : Nat
  isLive : Bool
  deriving DecidableEq, Repr

/-- A channel for each topic, and the subscriptions in the order in which they were made. -/
structure Bus where
  decisions : Channel Event
  overlays : Channel Event
  subscriptions : List Subscription
  deriving DecidableEq, Repr

namespace Bus

/-- The greatest number of events that a channel can be asked to keep. -/
def greatestCapacity : Nat := UInt64.size / 2 - 1

/-- The bus without events whose channels keep at least the given number of events; the number
is rounded up to a power of two. -/
def ofCapacity (capacity : Nat) : Checked Bus :=
  if capacity = 0 then
    .error .noCapacity
  else if greatestCapacity < capacity then
    .error .excessiveCapacity
  else
    let channel := Channel.empty capacity.nextPowerOfTwo
    .ok ⟨channel, channel, []⟩

/-- How many events a channel keeps when nothing else is asked for. -/
def standardCapacity : Nat := 100

def channel (bus : Bus) : Topic → Channel Event
  | .decision => bus.decisions
  | .overlay => bus.overlays

/-- The bus with an event on the channel of its topic. -/
def append (bus : Bus) (event : Event) : Bus :=
  match event.topic with
  | .decision => { bus with decisions := bus.decisions.send event }
  | .overlay => { bus with overlays := bus.overlays.send event }

/-- The number of live subscriptions of a topic. -/
def audience (bus : Bus) (topic : Topic) : Nat :=
  bus.subscriptions.countP (fun subscription => subscription.isLive && subscription.topic = topic)

/-- The bus after an event, and how many will see it; nothing is kept when nobody will. -/
def publish (bus : Bus) (event : Event) : Nat × Bus :=
  match bus.audience event.topic with
  | 0 => (0, bus)
  | count + 1 => (count + 1, bus.append event)

/-- The number of a new subscription, and the bus with it. -/
def subscribe (bus : Bus) (topic : Topic) : Nat × Bus :=
  (bus.subscriptions.length,
    { bus with
      subscriptions := bus.subscriptions ++ [⟨topic, (bus.channel topic).sent, true⟩] })

def live? (bus : Bus) (number : Nat) : Option Subscription :=
  match bus.subscriptions[number]? with
  | some subscription => if subscription.isLive then some subscription else none
  | none => none

/-- What the subscription of a number gets next, when it is live. -/
def receive (bus : Bus) (number : Nat) : Option (Reading Event × Bus) :=
  match bus.live? number with
  | some subscription =>
      let (reading, position) := (bus.channel subscription.topic).read subscription.position
      some (reading, { bus with
        subscriptions := bus.subscriptions.set number { subscription with position := position } })
  | none => none

/-- The bus without the subscription of a number. -/
def cancel (bus : Bus) (number : Nat) : Bus :=
  match bus.live? number with
  | some subscription =>
      { bus with
        subscriptions := bus.subscriptions.set number { subscription with isLive := false } }
  | none => bus

/-- Publishes an overlay; without an audience it is not served. -/
def present (overlay : OverlayEvent) (bus : Bus) : Except PresenterError Unit × Bus :=
  match bus.publish (.overlay overlay) with
  | (0, bus) => (.error .unavailable, bus)
  | (_, bus) => (.ok (), bus)

/-- The presenter that publishes what it is shown. -/
def presenter : Presenter Bus where
  showField field := present (.field field.colors)
  showRoute tiles := present (.path tiles)

end Bus
end MazeAgent
