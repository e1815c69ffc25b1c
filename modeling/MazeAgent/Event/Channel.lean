/-!
# Channels

A channel keeps the last items that were sent on it. A reader has a position in the sequence of
all items; one that has fallen behind what is kept is told how many items it has lost, once, and
goes on with the oldest item that is kept.

**Results.**
* `Channel.send`: the channel after one more item.
* `Channel.read`: what a reader gets, and its next position.
-/

namespace MazeAgent

/-- The last items of a sequence. -/
structure Channel (α : Type) where
  /-- How many items are kept at most. -/
  capacity : Nat
  /-- How many items have been sent. -/
  sent : Nat
  /-- The items that are kept, the oldest first. -/
  kept : List α
  deriving DecidableEq, Repr

/-- What a reader gets. -/
inductive Reading (α : Type) where
  | item (value : α)
  /-- There is nothing new. -/
  | empty
  /-- The given number of items is lost. -/
  | lagged (count : Nat)
  deriving DecidableEq, Repr

namespace Channel

variable {α : Type}

/-- The channel on which nothing has been sent. -/
def empty (capacity : Nat) : Channel α := ⟨capacity, 0, []⟩

def send (channel : Channel α) (item : α) : Channel α :=
  let kept := channel.kept ++ [item]
  { channel with
    sent := channel.sent + 1
    kept := kept.drop (kept.length - channel.capacity) }

/-- The position of the oldest item that is kept. -/
def oldest (channel : Channel α) : Nat := channel.sent - channel.kept.length

/-- What a reader at a position gets, and its next position. -/
def read (channel : Channel α) (position : Nat) : Reading α × Nat :=
  if position < channel.oldest then
    (.lagged (channel.oldest - position), channel.oldest)
  else
    match channel.kept[position - channel.oldest]? with
    | some item => (.item item, position + 1)
    | none => (.empty, position)

end Channel
end MazeAgent
