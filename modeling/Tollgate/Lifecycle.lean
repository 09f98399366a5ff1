import Tollgate.Broadcast

/-!
# Lifecycle

A running server waits for the shutdown broadcast twice: the part that takes requests on the receiver
it was given, and the monitor on a receiver that is made from it when the server starts. The server
has stopped when both waits are over.
-/

namespace Tollgate

/-- A running server, as far as shutdown is concerned. -/
structure Lifecycle where
  channel : Broadcast
  /-- The receiver on which requests stop being taken. -/
  requests : Nat
  /-- The receiver on which the monitor stops; nothing where it does not run. -/
  monitor : Option Nat
deriving DecidableEq, Repr

namespace Lifecycle

/-- Start a server with a receiver. The monitor's receiver is told what is sent from now on. -/
def start (channel : Broadcast) (receiver : Nat) (probing : Bool) : Lifecycle :=
  let (made, channel) := channel.subscribe
  if probing then { channel, requests := receiver, monitor := some made }
  else { channel := channel.unsubscribe made, requests := receiver, monitor := none }

/-- Ask the server to stop: how many were told. -/
def trigger (l : Lifecycle) : Nat × Lifecycle :=
  let (told, channel) := l.channel.trigger
  (told, { l with channel })

/-- A wait is over as soon as its receiver finds anything. -/
def waitIsOver (channel : Broadcast) (receiver : Nat) : Bool :=
  (channel.receive receiver).1 != .empty

/-- No more requests are taken. -/
def requestsStopped (l : Lifecycle) : Bool :=
  waitIsOver l.channel l.requests

/-- The monitor does not run any more. -/
def monitorStopped (l : Lifecycle) : Bool :=
  l.monitor.all (waitIsOver l.channel)

/-- The server has stopped. -/
def hasStopped (l : Lifecycle) : Bool :=
  l.requestsStopped && l.monitorStopped

end Lifecycle

end Tollgate
