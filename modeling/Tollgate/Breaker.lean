import Tollgate.Number.Width
import Tollgate.Time

/-!
# Circuit breaker

A breaker counts consecutive failures. The failure that brings the count to the threshold opens the
circuit until a deadline; an open circuit lets nothing pass before the deadline is over, and closes
at the first question asked after it. Any success closes the circuit and clears the count.

`openUntil` is set exactly while the circuit is open. Time alone never changes a breaker: only the
question whether traffic may pass closes an expired circuit.
-/

namespace Tollgate

/-- What recording a failure did to the circuit. -/
inductive FailureOutcome where
  /-- The circuit was closed and stays closed. -/
  | belowThreshold
  /-- This failure opened the circuit. -/
  | opened
  /-- The circuit was open already. -/
  | alreadyOpen
deriving DecidableEq, Repr

/-- The count of consecutive failures, and the deadline while the circuit is open. -/
structure Breaker where
  failures : Nat := 0
  openUntil : Option Timestamp := none
deriving DecidableEq, Repr

/-- When a breaker opens and for how long. -/
structure BreakerPolicy where
  failureThreshold : Nat := 5
  openSeconds : Nat := 60
deriving DecidableEq, Repr

namespace BreakerPolicy

/-- How long an opened circuit stays open. -/
def openFor (p : BreakerPolicy) : Duration :=
  .ofSeconds p.openSeconds

end BreakerPolicy

namespace Breaker

/-- A closed circuit without failures. -/
def closed : Breaker := {}

/-- The circuit is open. -/
def isOpen (b : Breaker) : Bool :=
  b.openUntil.isSome

/-- Whether traffic may pass at `now`; an open circuit past its deadline closes here. -/
def tryPass (b : Breaker) (now : Timestamp) : Bool × Breaker :=
  match b.openUntil with
  | none => (true, b)
  | some deadline => if deadline < now then (true, closed) else (false, b)

/-- Record a success, and tell whether it closed an open circuit. -/
def onSuccess (b : Breaker) : Bool × Breaker :=
  (b.isOpen, closed)

/-- Record a failure at `now`, opening a closed circuit once the count reaches `threshold`. -/
def onFailure (b : Breaker) (now : Timestamp) (threshold : Nat) (openFor : Duration) :
    FailureOutcome × Breaker :=
  let failures := Saturating.addUpTo maxUnsigned32 b.failures 1
  if b.isOpen then
    (.alreadyOpen, { b with failures })
  else if failures < threshold then
    (.belowThreshold, { b with failures })
  else
    (.opened, { failures, openUntil := some (now.after openFor) })

end Breaker

end Tollgate
