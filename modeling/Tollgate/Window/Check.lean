import Tollgate.Window.Store

/-!
# One check of a window

A check asks whether one more hit fits into a window. It makes up to three calls on the store, each
atomic by itself: it records its hit; if the window was full already it removes that hit again, and
then looks up the oldest hit to tell when the window frees up. Between two calls of one check, calls
of other checks may run, so a check is a state that moves by one call at a time (`Check.advance`).

`Check.run` makes the calls of one check in a row, each of them after the delay and with the failure
that `Faults` gives it; a check that has waited longer than its deadline is abandoned.
-/

namespace Tollgate

/-- What a metered check reports about its window. -/
structure QuotaState where
  limit : Nat
  remaining : Nat
  /-- The second at which the window frees up. -/
  resetAt : Int
  currentCount : Nat
deriving DecidableEq, Repr

/-- The outcome of a check; without a quota the request was not metered. -/
structure Decision where
  allowed : Bool
  quota : Option QuotaState
deriving DecidableEq, Repr

namespace Decision

/-- Allowed without having been counted. -/
def unmetered : Decision := ⟨true, none⟩

/-- Seconds from `now` until the window frees up, at least one. -/
def retryAfter (d : Decision) (now : Int) : Option Nat :=
  d.quota.map fun q => max 1 (Saturating.sub64 q.resetAt now).toNat

end Decision

/-- Seconds a key outlives its newest hit beyond the window. -/
def expiryBuffer : Nat := 10

/-- The question whether one more hit fits. -/
structure Check where
  key : String
  limit : Nat
  /-- Length of the window in seconds. -/
  window : Nat
  now : Int
  /-- The member that stands for this hit. -/
  member : String
deriving DecidableEq, Repr

/-- Where a check stands: which call it makes next, and what it has counted. -/
inductive Stage where
  | counting
  | undoing (count : Nat)
  | dating (count : Nat)
deriving DecidableEq, Repr

/-- A check between two calls, or decided. -/
inductive Progress where
  | waiting (stage : Stage)
  | decided (decision : Decision)
deriving DecidableEq, Repr

/-- A call on a store. -/
inductive StoreCall where
  | recordHit (key member : String) (now windowStart : Int) (ttl : Nat)
  | removeMember (key member : String)
  | oldestScore (key : String)
deriving DecidableEq, Repr

namespace Check

/-- The window as a signed word. -/
def windowLength (c : Check) : Int :=
  Saturating.ofUnsigned c.window

/-- Hits at or before this second are outside the window. -/
def windowStart (c : Check) : Int :=
  Saturating.sub64 c.now c.windowLength

/-- How long the key is kept. -/
def ttl (c : Check) : Nat :=
  Saturating.addUpTo maxUnsigned64 c.window expiryBuffer

/-- The call made at a stage. -/
def call (c : Check) : Stage → StoreCall
  | .counting => .recordHit c.key c.member c.now c.windowStart c.ttl
  | .undoing _ => .removeMember c.key c.member
  | .dating _ => .oldestScore c.key

/-- The decision when the hit fits behind `count` others. -/
def admission (c : Check) (count : Nat) : Decision :=
  ⟨true, some
    { limit := c.limit
      remaining := c.limit - count - 1
      resetAt := Saturating.add64 c.now c.windowLength
      currentCount := count + 1 }⟩

/-- The decision when `count` others fill the window and the oldest hit has this score. -/
def refusal (c : Check) (count : Nat) (oldest : Option Int) : Decision :=
  ⟨false, some
    { limit := c.limit
      remaining := 0
      resetAt := Saturating.add64 (oldest.getD c.now) c.windowLength
      currentCount := count }⟩

/-- What follows from the count of the other hits. -/
def counted (c : Check) (count : Nat) : Progress :=
  if c.limit ≤ count then .waiting (.undoing count) else .decided (c.admission count)

/-- Make the call of a stage on a store. -/
def advance (c : Check) (stage : Stage) (store : Store) : Progress × Store :=
  match stage with
  | .counting =>
    let (count, store) := store.recordHit c.key c.member c.now c.windowStart c.ttl
    (c.counted count, store)
  | .undoing count => (.waiting (.dating count), store.removeMember c.key c.member)
  | .dating count => (.decided (c.refusal count (store.oldestScore c.key)), store)

end Check

/-- What happens to a call before it takes effect. -/
structure Fault where
  delayMillis : Nat := 0
  fails : Bool := false
deriving DecidableEq, Repr

/-- The fault of each kind of call. -/
structure Faults where
  recordHit : Fault := {}
  removeMember : Fault := {}
  oldestScore : Fault := {}
deriving DecidableEq, Repr

namespace Faults

/-- The fault of the call made at a stage. -/
def ofStage (f : Faults) : Stage → Fault
  | .counting => f.recordHit
  | .undoing _ => f.removeMember
  | .dating _ => f.oldestScore

end Faults

/-- Why a check got no answer from its store. -/
inductive StoreFailure where
  /-- A call failed, without effect. -/
  | unavailable
  /-- The check was abandoned at its deadline, the pending call being without effect. -/
  | timeout
deriving DecidableEq, Repr

/-- A check being run: the store, the time waited, and the calls made, oldest first. -/
structure CheckRun where
  store : Store
  waitedMillis : Nat := 0
  calls : List StoreCall := []
deriving DecidableEq, Repr

namespace CheckRun

/-- Wait for the call of a stage and make it. -/
def step (r : CheckRun) (c : Check) (faults : Faults) (deadlineMillis : Nat) (stage : Stage) :
    Except StoreFailure Progress × CheckRun :=
  let fault := faults.ofStage stage
  let waited := r.waitedMillis + fault.delayMillis
  let calls := r.calls ++ [c.call stage]
  if 0 < fault.delayMillis ∧ deadlineMillis < waited then
    (.error .timeout, { r with waitedMillis := deadlineMillis, calls })
  else if fault.fails then
    (.error .unavailable, { r with waitedMillis := waited, calls })
  else
    let (progress, store) := c.advance stage r.store
    (.ok progress, { store, waitedMillis := waited, calls })

end CheckRun

namespace Check

/-- Run from a stage with at most `fuel` calls left; three are enough for every check. -/
def runFrom (c : Check) (faults : Faults) (deadlineMillis : Nat) :
    Nat → Stage → CheckRun → Except StoreFailure Decision × CheckRun
  | 0, _, r => (.error .timeout, r)
  | fuel + 1, stage, r =>
    match r.step c faults deadlineMillis stage with
    | (.error e, r) => (.error e, r)
    | (.ok (.decided d), r) => (.ok d, r)
    | (.ok (.waiting next), r) => c.runFrom faults deadlineMillis fuel next r

/-- Run a check from its first call to its decision. -/
def run (c : Check) (faults : Faults) (deadlineMillis : Nat) (store : Store) :
    Except StoreFailure Decision × CheckRun :=
  c.runFrom faults deadlineMillis 3 .counting { store }

end Check

end Tollgate
