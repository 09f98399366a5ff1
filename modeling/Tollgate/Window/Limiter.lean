import Tollgate.Config
import Tollgate.Metrics
import Tollgate.Text.Bytes
import Tollgate.Window.Check

/-!
# Rate limiter

A limiter turns checks of callers into decisions on a store. Each check gets a member of its own,
made of the second, the caller, the limiter's nonce and a sequence number. A limiter that is
disabled or has no store allows everything without counting; so does, for one check, a store that
fails or does not answer in time, and every such check is counted as an error.
-/

namespace Tollgate

/-- The member that stands for one hit: distinct for distinct nonces or sequence numbers. -/
def memberText (now : Int) (identifier : String) (nonce sequence : Nat) : String :=
  toString now ++ ":" ++ identifier ++ ":" ++ String.ofList (fixedHex 16 nonce) ++ "-"
    ++ toString sequence

/-- A rate limiter with its store and its log of errors. -/
structure Limiter where
  enabled : Bool
  store : Option Store
  global : Quota
  perUser : Quota
  /-- How long one check may wait for the store. -/
  timeoutMillis : Nat
  nonce : Nat := 0
  sequence : Nat := 0
  metrics : Metrics := []
deriving DecidableEq, Repr

/-- What one check of a limiter did. -/
structure Checked where
  decision : Decision
  /-- The calls made on the store, oldest first. -/
  calls : List StoreCall
  /-- Time spent waiting for the store. -/
  waitedMillis : Nat
  limiter : Limiter
deriving DecidableEq, Repr

namespace Limiter

/-- A limiter for a configuration on a given store. -/
def ofConfig (config : RateLimitConfig) (store : Option Store) : Limiter :=
  { enabled := config.enabled
    store
    global := config.global
    perUser := config.perUser
    timeoutMillis := config.storeTimeoutMillis }

/-- A limiter that allows everything. -/
def disabled : Limiter :=
  ofConfig { enabled := false } none

/-- A limiter for a configuration, with the store the configuration asks for. Only the store in
memory is always there; `remote` is what was reached of a remote one. -/
def connect (config : RateLimitConfig) (remote : Option Store) : Limiter :=
  if config.enabled then
    match config.store with
    | .memory => ofConfig config (some .empty)
    | .redis => ofConfig config remote
  else ofConfig config none

/-- A store is attached. -/
def isConnected (l : Limiter) : Bool :=
  l.store.isSome

/-- The identifier of hits without one. -/
def defaultIdentifier : String := "req"

/-- The sequence number after `n`; it is a 64-bit word and starts again at zero. -/
def nextSequence (n : Nat) : Nat :=
  (n + 1) % (maxUnsigned64 + 1)

/-- Check a key at `now`, under the given faults of the store. -/
def check (l : Limiter) (faults : Faults) (key : String) (quota : Quota)
    (identifier : Option String) (now : Int) : Checked :=
  match l.enabled, l.store with
  | true, some store =>
    let c : Check :=
      { key
        limit := quota.requests
        window := quota.windowSeconds
        now
        member := memberText now (identifier.getD defaultIdentifier) l.nonce l.sequence }
    let l := { l with sequence := nextSequence l.sequence }
    match c.run faults l.timeoutMillis store with
    | (.ok decision, r) =>
      ⟨decision, r.calls, r.waitedMillis, { l with store := some r.store }⟩
    | (.error _, r) =>
      ⟨.unmetered, r.calls, r.waitedMillis,
        { l with
          store := some r.store
          metrics := l.metrics ++ [.increment Metrics.limiterErrors] }⟩
  | _, _ => ⟨.unmetered, [], 0, l⟩

/-- The key of a caller's address. -/
def globalKey (address : String) : String :=
  "ratelimit:global:" ++ address

/-- The key of an authenticated user. -/
def userKey (user : String) : String :=
  "ratelimit:user:" ++ user

/-- Check the window of a caller's address. -/
def checkGlobal (l : Limiter) (faults : Faults) (address : String) (now : Int) : Checked :=
  l.check faults (globalKey address) l.global (some address) now

/-- Check the window of an authenticated user. -/
def checkUser (l : Limiter) (faults : Faults) (user : String) (now : Int) : Checked :=
  l.check faults (userKey user) l.perUser (some user) now

end Limiter

end Tollgate
