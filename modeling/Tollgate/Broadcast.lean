/-!
# Broadcast

A channel on which every notification is told to every receiver that exists when it is sent. The
channel keeps the latest `capacity` notifications; a receiver that falls behind by more is told how
many it has lost, and goes on with the oldest one kept. A notification sent while nobody listens is
not kept. When the last sending handle is gone, a receiver that has read everything finds the
channel closed.

Shutdown of the gateway is a broadcast of capacity one: the server and the health monitor each hold
a receiver, and one notification stops both.
-/

namespace Tollgate

/-- What a receiver finds without waiting. -/
inductive Received where
  /-- The next notification. -/
  | signal
  /-- Nothing has been sent since the last one. -/
  | empty
  /-- Nothing is left and nothing can come any more. -/
  | closed
  /-- So many notifications were lost; the next attempt finds one. -/
  | lagged (count : Nat)
deriving DecidableEq, Repr

/-- A channel with its handles and receivers, both numbered in the order they were made. -/
structure Broadcast where
  /-- Which sending handles are alive. -/
  handles : List Bool := [true]
  /-- How many notifications have been kept so far. -/
  sent : Nat := 0
  /-- For every receiver that is alive, how many of them it has passed. -/
  receivers : List (Option Nat) := []
deriving DecidableEq, Repr

namespace Broadcast

/-- Notifications kept for receivers that fall behind. -/
def capacity : Nat := 1

/-- A channel with one handle and no receivers. -/
def new : Broadcast := {}

/-- Some sending handle is alive. -/
def isOpen (b : Broadcast) : Bool :=
  b.handles.contains true

/-- Number of receivers that are alive. -/
def listeners (b : Broadcast) : Nat :=
  b.receivers.countP Option.isSome

/-- Make another handle: its number. -/
def clone (b : Broadcast) : Nat × Broadcast :=
  (b.handles.length, { b with handles := b.handles ++ [true] })

/-- Give up a handle. -/
def drop (b : Broadcast) (handle : Nat) : Broadcast :=
  { b with handles := b.handles.set handle false }

/-- Make a receiver that is told everything sent from now on: its number. A receiver made from
another receiver starts in the same way. -/
def subscribe (b : Broadcast) : Nat × Broadcast :=
  (b.receivers.length, { b with receivers := b.receivers ++ [some b.sent] })

/-- Give up a receiver. -/
def unsubscribe (b : Broadcast) (receiver : Nat) : Broadcast :=
  { b with receivers := b.receivers.set receiver none }

/-- Notify every receiver: how many there are. -/
def trigger (b : Broadcast) : Nat × Broadcast :=
  if b.listeners = 0 then (0, b) else (b.listeners, { b with sent := b.sent + 1 })

/-- What a receiver that has passed `passed` notifications finds, and how many it has passed then. -/
def next (b : Broadcast) (passed : Nat) : Received × Nat :=
  if b.sent ≤ passed then (if b.isOpen then .empty else .closed, passed)
  else if passed + capacity < b.sent then
    (.lagged (b.sent - capacity - passed), b.sent - capacity)
  else (.signal, passed + 1)

/-- Receive without waiting. A receiver that is gone finds the channel closed. -/
def receive (b : Broadcast) (receiver : Nat) : Received × Broadcast :=
  match b.receivers[receiver]? with
  | some (some passed) =>
    let (found, passed) := b.next passed
    (found, { b with receivers := b.receivers.set receiver (some passed) })
  | _ => (.closed, b)

end Broadcast

end Tollgate
