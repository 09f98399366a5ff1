import Tollgate.Keyed
import Tollgate.Number.Width

/-!
# Window store

Scored members by key: the hits of a caller, each scored by the second it was made in. A hit is
recorded in one step that first drops what has expired or left the window, then counts what is
left, then adds the hit and refreshes the key's deadline. Keys nobody asks for are dropped by a
sweep that runs with a recorded hit, at most once in `sweepInterval` seconds.
-/

namespace Tollgate

/-- The members of one key with their scores, and when the key expires. -/
structure HitSet where
  hits : List (String × Int) := []
  expiresAt : Option Int := none
deriving DecidableEq, Repr

namespace HitSet

/-- The deadline has been reached at `now`. A set without a deadline never expires. -/
def isExpired (s : HitSet) (now : Int) : Bool :=
  match s.expiresAt with
  | some deadline => decide (deadline ≤ now)
  | none => false

/-- The hits that still count at `now` for a window that starts after `windowStart`. -/
def live (s : HitSet) (now windowStart : Int) : List (String × Int) :=
  (if s.isExpired now then [] else s.hits).filter fun h => windowStart < h.2

/-- The lowest score. -/
def oldest? (s : HitSet) : Option Int :=
  (s.hits.map Prod.snd).min?

end HitSet

/-- All keys with their members, and when the next sweep is due. -/
structure Store where
  sets : List (String × HitSet) := []
  nextSweep : Int := 0
deriving DecidableEq, Repr

namespace Store

/-- Seconds between sweeps. -/
def sweepInterval : Int := 60

/-- A store without keys. -/
def empty : Store := {}

/-- The members of a key. -/
def hitSet (s : Store) (key : String) : HitSet :=
  (Keyed.get? key s.sets).getD {}

/-- Drop the expired keys, if a sweep is due. -/
def sweep (s : Store) (now : Int) : Store :=
  if now < s.nextSweep then s
  else
    { sets := s.sets.filter fun e => !e.2.isExpired now
      nextSweep := Saturating.add64 now sweepInterval }

/-- Put a member in directly, leaving the deadline of its key as it is. -/
def insert (s : Store) (key member : String) (score : Int) : Store :=
  let set := s.hitSet key
  { s with sets := Keyed.put key { set with hits := Keyed.put member score set.hits } s.sets }

/-- Record a hit at `now`: the number of hits counted before it was added. -/
def recordHit (s : Store) (key member : String) (now windowStart : Int) (ttl : Nat) :
    Nat × Store :=
  let swept := s.sweep now
  let live := (swept.hitSet key).live now windowStart
  let set : HitSet :=
    { hits := Keyed.put member now live
      expiresAt := some (Saturating.add64 now (Saturating.ofUnsigned ttl)) }
  (live.length, { swept with sets := Keyed.put key set swept.sets })

/-- Remove one member. The key stays, even without members. -/
def removeMember (s : Store) (key member : String) : Store :=
  let without (set : HitSet) : HitSet := { set with hits := Keyed.erase member set.hits }
  { s with sets := Keyed.modify key without s.sets }

/-- The lowest score of a key. -/
def oldestScore (s : Store) (key : String) : Option Int :=
  (s.hitSet key).oldest?

/-- Number of members of a key. -/
def size (s : Store) (key : String) : Nat :=
  (s.hitSet key).hits.length

/-- Number of keys held, expired or not. -/
def keyCount (s : Store) : Nat :=
  s.sets.length

/-- When a key expires. -/
def expiresAt (s : Store) (key : String) : Option Int :=
  (s.hitSet key).expiresAt

end Store

end Tollgate
