import Tollgate.Number.Double
import Tollgate.Number.Width

/-!
# Time

Instants of the wall clock and lengths of time, both exact to the nanosecond. Instants end at
`Timestamp.latest`; a deadline that would lie beyond it is that instant.
-/

namespace Tollgate

/-- Nanoseconds in one second. -/
def nanosPerSecond : Nat := 1000000000

/-- A length of time. -/
structure Duration where
  nanos : Nat
deriving DecidableEq, Repr

namespace Duration

/-- No time at all. -/
def zero : Duration := ⟨0⟩

/-- Seconds and a fraction in nanoseconds. -/
def ofParts (seconds nanos : Nat) : Duration :=
  ⟨seconds * nanosPerSecond + nanos⟩

/-- Whole seconds. -/
def ofSeconds (seconds : Nat) : Duration :=
  ofParts seconds 0

/-- Milliseconds. -/
def ofMillis (millis : Nat) : Duration :=
  ⟨millis * 1000000⟩

/-- Whole milliseconds elapsed. -/
def millis (d : Duration) : Nat :=
  d.nanos / 1000000

/-- One length after the other. -/
def add (d e : Duration) : Duration :=
  ⟨d.nanos + e.nanos⟩

instance : Add Duration := ⟨add⟩

/-- Seconds as a double: the rounded whole seconds plus the rounded fraction, rounded. -/
def seconds (d : Duration) : Magnitude :=
  (Magnitude.ofQuotient (d.nanos / nanosPerSecond) 1).add
    (Magnitude.ofQuotient (d.nanos % nanosPerSecond) nanosPerSecond)

/-- Milliseconds with two decimals, such as `12.34`. -/
def millisText (d : Duration) : String :=
  (d.seconds.scale 1000).twoPlaces

end Duration

/-- An instant, in nanoseconds since the beginning of 1970. -/
structure Timestamp where
  nanos : Int
deriving DecidableEq, Repr

namespace Timestamp

instance : LT Timestamp := ⟨fun s t => s.nanos < t.nanos⟩
instance : LE Timestamp := ⟨fun s t => s.nanos ≤ t.nanos⟩
instance (s t : Timestamp) : Decidable (s < t) := inferInstanceAs (Decidable (s.nanos < t.nanos))
instance (s t : Timestamp) : Decidable (s ≤ t) := inferInstanceAs (Decidable (s.nanos ≤ t.nanos))

/-- Seconds since 1970 and a fraction in nanoseconds. -/
def ofParts (seconds : Int) (nanos : Nat) : Timestamp :=
  ⟨seconds * nanosPerSecond + nanos⟩

/-- The last instant of the year 262142, the latest there is. -/
def latest : Timestamp :=
  ofParts 8210266876799 999999999

/-- Whole seconds since 1970, rounded down. -/
def seconds (t : Timestamp) : Int :=
  t.nanos / nanosPerSecond

/-- Nanoseconds within the second. -/
def subsecond (t : Timestamp) : Nat :=
  (t.nanos % nanosPerSecond).toNat

/-- Whole milliseconds since 1970, rounded down. -/
def millis (t : Timestamp) : Int :=
  t.nanos / 1000000

/-- The instant `d` after `t`, at most the latest one. -/
def after (t : Timestamp) (d : Duration) : Timestamp :=
  ⟨min (t.nanos + d.nanos) latest.nanos⟩

/-- The instant `d` after `t`, without a bound: how a running clock moves. -/
def advance (t : Timestamp) (d : Duration) : Timestamp :=
  ⟨t.nanos + d.nanos⟩

end Timestamp

end Tollgate
