import Tollgate.Lifecycle
import Tollgate.Proofs.Broadcast.Delivery

/-!
# When a server stops

A server is given a receiver, makes another one for its monitor when it starts, and has stopped when
both have found something. Between these moments anybody else may do anything on the channel, and
the two tasks look at their receivers at any time.

Requests stop being taken if anything was sent since the server's receiver was made, but the monitor
stops only if something was sent since the start (`Lifecycle.stops_iff`). A notification that comes
in between ends one wait and not the other: the server does not return until it is notified again
(`Lifecycle.notified_before_start`).

## Main results

* `Lifecycle.Awaits.look`: what looking at a receiver does to its task.
* `Lifecycle.stops_iff`: which of the two waits are over, in every order of steps.
-/

namespace Tollgate

namespace Lifecycle

open Broadcast (Step)

/-- What happens once a server has started. -/
inductive Move where
  /-- Somebody else takes a step on the channel. -/
  | elsewhere (s : Step)
  /-- The task that takes requests looks at its receiver. -/
  | requests
  /-- The monitor looks at its receiver. -/
  | monitor
deriving DecidableEq, Repr

/-- The move sends a notification. -/
def Move.triggers : Move → Bool
  | elsewhere s => s.triggers
  | _ => false

/-- A task looks at its receiver. It is over, its receiver given up, if it finds anything, and goes on
waiting otherwise. -/
def look (channel : Broadcast) (receiver : Nat) : Broadcast :=
  if waitIsOver channel receiver then (channel.receive receiver).2.unsubscribe receiver
  else (channel.receive receiver).2

/-- What a move makes of a server. -/
def move (l : Lifecycle) : Move → Lifecycle
  | .elsewhere s => { l with channel := l.channel.perform s }
  | .requests => { l with channel := look l.channel l.requests }
  | .monitor => { l with channel := l.monitor.elim l.channel (look l.channel) }

/-- All moves in turn. -/
def proceed (l : Lifecycle) (moves : List Move) : Lifecycle :=
  moves.foldl move l

/-- The receiver has been given up. -/
def isGone (channel : Broadcast) (receiver : Nat) : Bool :=
  channel.receivers[receiver]? == some none

/-- Both tasks are over, so that the server returns. -/
def hasReturned (l : Lifecycle) : Bool :=
  isGone l.channel l.requests && l.monitor.all (isGone l.channel)

/-- The move is one of the server, or a step of somebody else that neither gives up this handle nor is
taken by the owner of one of the server's receivers. -/
def Move.Spares (l : Lifecycle) (handle : Nat) : Move → Prop
  | .elsewhere s => s ≠ .drop handle ∧ ¬s.isOf l.requests ∧ ∀ r, l.monitor = some r → ¬s.isOf r
  | _ => True

variable {b : Broadcast} {r other handle sent : Nat} {s : Step}

/-! ### Tasks -/

/-- A task that waits with a receiver, where `sent` counts what was sent since that was made: it is
behind by all of it, or over. -/
inductive Awaits (b : Broadcast) (r sent : Nat) : Prop where
  | waiting (h : b.IsBehind r sent)
  | ended (hsent : 0 < sent) (h : b.receivers[r]? = some none)

/-- Looking at a receiver is a step or two of its owner. -/
theorem exists_look_eq (b : Broadcast) (r : Nat) :
    ∃ steps : List Step, look b r = b.run steps ∧
      ∀ s ∈ steps, s = .receive r ∨ s = .unsubscribe r := by
  rw [look]
  split
  · exact ⟨[.receive r, .unsubscribe r], rfl, by simp⟩
  · exact ⟨[.receive r], rfl, by simp⟩

namespace Awaits

/-- A task waits, or has waited, with a receiver that was made. -/
theorem lt_length (h : Awaits b r sent) : r < b.receivers.length := by
  cases h with
  | waiting h =>
      obtain ⟨passed, hpassed, -⟩ := h
      exact (List.getElem?_eq_some_iff.mp hpassed).1
  | ended _ h => exact (List.getElem?_eq_some_iff.mp h).1

/-- A step of somebody else keeps the task where it is. -/
theorem perform (h : Awaits b r sent) (hs : ¬s.isOf r) :
    Awaits (b.perform s) r (sent + if s.triggers then 1 else 0) := by
  cases h with
  | waiting h => exact .waiting (h.perform hs)
  | ended hsent h => exact .ended (Nat.add_pos_left hsent _) (Broadcast.getElem?_receivers_perform h s)

/-- Steps of somebody else that send nothing change nothing for the task. -/
theorem run {steps : List Step} (h : Awaits b r sent)
    (hsteps : ∀ s ∈ steps, ¬s.isOf r ∧ s.triggers = false) : Awaits (b.run steps) r sent := by
  induction steps generalizing b with
  | nil => exact h
  | cons s steps ih =>
      obtain ⟨hs, hquiet⟩ := hsteps s List.mem_cons_self
      have hnext := h.perform hs
      rw [hquiet, if_neg Bool.false_ne_true] at hnext
      exact ih hnext fun t ht => hsteps t (List.mem_cons_of_mem s ht)

/-- A task that looks at its receiver leaves the others where they are. -/
theorem look_of_ne (h : Awaits b r sent) (hne : other ≠ r) : Awaits (look b other) r sent := by
  obtain ⟨steps, hlook, hsteps⟩ := exists_look_eq b other
  rw [hlook]
  refine h.run fun s hs => ?_
  rcases hsteps s hs with rfl | rfl
  · exact ⟨by simpa [Step.isOf] using hne, rfl⟩
  · exact ⟨by simpa [Step.isOf] using hne, rfl⟩

/-- **The wait is over** if and only if something was sent since the receiver was made. -/
theorem waitIsOver_iff (h : Awaits b r sent) (hopen : b.isOpen = true) :
    waitIsOver b r = true ↔ 0 < sent := by
  rw [waitIsOver, bne_iff_ne]
  cases h with
  | waiting h =>
      rw [h.receive.1, hopen]
      rcases sent with _ | _ | sent <;> simp [Broadcast.found]
  | ended hsent h =>
      simp [Broadcast.receive, h, hsent]

/-- **A task that looks at its receiver** is over then if and only if something was sent since that was
made. -/
theorem look (h : Awaits b r sent) (hopen : b.isOpen = true) :
    Awaits (look b r) r sent ∧ (isGone (look b r) r = true ↔ 0 < sent) := by
  have hwait := h.waitIsOver_iff hopen
  rw [Lifecycle.look]
  split
  · next hover =>
      have hsent : 0 < sent := hwait.mp hover
      have hlt : r < (b.receive r).2.receivers.length := by
        rw [← List.length_map Option.isSome, Broadcast.map_isSome_receive, List.length_map]
        exact h.lt_length
      have hgone : ((b.receive r).2.unsubscribe r).receivers[r]? = some none :=
        List.getElem?_set_self hlt
      exact ⟨.ended hsent hgone, by simp [isGone, hgone, hsent]⟩
  · next hwaits =>
      have hnone : sent = 0 := Nat.eq_zero_of_not_pos fun hsent => hwaits (hwait.mpr hsent)
      subst hnone
      cases h with
      | waiting h =>
          have hrest := h.receive.2
          refine ⟨.waiting hrest, ?_⟩
          obtain ⟨passed, hpassed, -⟩ := hrest
          simp [isGone, hpassed]
      | ended hsent h => cases hsent

end Awaits

/-! ### Servers -/

/-- Looking at a receiver makes and gives up no handles. -/
theorem handles_look (b : Broadcast) (r : Nat) : (look b r).handles = b.handles := by
  rw [look]
  split
  · exact b.handles_receive r
  · exact b.handles_receive r

/-- A task that looks at its receiver does not touch the others. -/
theorem isGone_look_of_ne (b : Broadcast) (hne : other ≠ r) : isGone (look b other) r = isGone b r := by
  have hreceive : (b.receive other).2.receivers[r]? = b.receivers[r]? := by
    rw [Broadcast.receive]
    split
    · exact List.getElem?_set_ne hne
    · rfl
  rw [isGone, isGone, look]
  split
  · rw [Broadcast.unsubscribe, List.getElem?_set_ne hne, hreceive]
  · rw [hreceive]

/-- A server that has started, as long as a handle is alive: `asked` notifications were sent since its
receiver was made, and `watched` since its monitor's was. -/
structure Ongoing (l : Lifecycle) (handle asked watched : Nat) : Prop where
  handle : l.channel.handles[handle]? = some true
  requests : Awaits l.channel l.requests asked
  monitor : ∀ r, l.monitor = some r → r ≠ l.requests ∧ Awaits l.channel r watched

variable {l : Lifecycle} {asked watched : Nat} {m : Move} {moves : List Move}

/-- A move does not exchange the receivers of a server. -/
theorem spares_move (l : Lifecycle) (m other : Move) :
    other.Spares (l.move m) handle ↔ other.Spares l handle := by
  cases m <;> rfl

/-- A server keeps its monitor's receiver. -/
theorem monitor_proceed (l : Lifecycle) (moves : List Move) : (l.proceed moves).monitor = l.monitor := by
  induction moves generalizing l with
  | nil => rfl
  | cons m moves ih => exact (ih (l.move m)).trans (by cases m <;> rfl)

/-- A server has a monitor if it is to probe. -/
theorem isSome_monitor_start (channel : Broadcast) (receiver : Nat) (probing : Bool) :
    (start channel receiver probing).monitor.isSome = probing := by
  cases probing <;> rfl

namespace Ongoing

/-- The channel of a server that has started is open. -/
theorem isOpen (h : Ongoing l handle asked watched) : l.channel.isOpen = true :=
  Broadcast.isOpen_of_getElem? h.handle

/-- **A move** counts for both tasks if it sends a notification. -/
theorem move (h : Ongoing l handle asked watched) (hm : m.Spares l handle) :
    Ongoing (l.move m) handle (asked + if m.triggers then 1 else 0)
      (watched + if m.triggers then 1 else 0) := by
  cases m with
  | elsewhere s =>
      obtain ⟨hkept, hrequests, hmonitor⟩ := hm
      exact
        { handle := Broadcast.getElem?_handles_perform h.handle hkept
          requests := h.requests.perform hrequests
          monitor := fun r hr => ⟨(h.monitor r hr).1, (h.monitor r hr).2.perform (hmonitor r hr)⟩ }
  | requests =>
      exact
        { handle := (congrArg (·[handle]?) (handles_look _ _)).trans h.handle
          requests := (h.requests.look h.isOpen).1
          monitor := fun r hr =>
            ⟨(h.monitor r hr).1, (h.monitor r hr).2.look_of_ne (h.monitor r hr).1.symm⟩ }
  | monitor =>
      rw [Lifecycle.move]
      rcases hmonitor : l.monitor with _ | watcher
      · exact
          { handle := h.handle
            requests := h.requests
            monitor := fun r hr => h.monitor r (hmonitor ▸ hr) }
      · obtain ⟨hne, hwatcher⟩ := h.monitor watcher hmonitor
        exact
          { handle := (congrArg (·[handle]?) (handles_look _ _)).trans h.handle
            requests := h.requests.look_of_ne hne
            monitor := fun r hr => by
              obtain rfl : watcher = r := Option.some.inj hr
              exact ⟨hne, (hwatcher.look h.isOpen).1⟩ }

/-- **All moves in turn** count for both tasks by the notifications they send. -/
theorem proceed (h : Ongoing l handle asked watched) (hmoves : ∀ m ∈ moves, m.Spares l handle) :
    Ongoing (l.proceed moves) handle (asked + moves.countP Move.triggers)
      (watched + moves.countP Move.triggers) := by
  induction moves generalizing l asked watched with
  | nil => exact h
  | cons m moves ih =>
      have hlater := ih (h.move (hmoves m List.mem_cons_self)) fun other hother =>
        (spares_move l m other).mpr (hmoves other (List.mem_cons_of_mem m hother))
      rw [List.countP_cons, Nat.add_comm (moves.countP Move.triggers), ← Nat.add_assoc,
        ← Nat.add_assoc]
      exact hlater

/-- Requests stop being taken once anything was sent since the server's receiver was made. -/
theorem requestsStopped_iff (h : Ongoing l handle asked watched) :
    l.requestsStopped = true ↔ 0 < asked :=
  h.requests.waitIsOver_iff h.isOpen

/-- The monitor stops once anything was sent since its receiver was made. -/
theorem monitorStopped_iff (h : Ongoing l handle asked watched) :
    l.monitorStopped = true ↔ l.monitor.isSome = true → 0 < watched := by
  rw [monitorStopped]
  rcases hmonitor : l.monitor with _ | watcher
  · simp
  · have hwait := (h.monitor watcher hmonitor).2.waitIsOver_iff h.isOpen
    simpa using hwait

/-- A server whose tasks look at their receivers returns if both waits are over, and only then. -/
theorem hasReturned_iff (h : Ongoing l handle asked watched) :
    ((l.move .requests).move .monitor).hasReturned = true ↔
      0 < asked ∧ (l.monitor.isSome = true → 0 < watched) := by
  have hlooked : Ongoing (l.move .requests) handle asked watched := h.move trivial
  have hrequests := (h.requests.look h.isOpen).2
  obtain ⟨channel, receiver, _ | watcher⟩ := l
  · simpa [Lifecycle.move, hasReturned] using hrequests
  · obtain ⟨hne, hwatcher⟩ := hlooked.monitor watcher rfl
    have hmonitor := (hwatcher.look hlooked.isOpen).2
    have hstill : isGone (look (look channel receiver) watcher) receiver
        = isGone (look channel receiver) receiver := isGone_look_of_ne _ hne
    simp only [Lifecycle.move] at hmonitor
    simp only [hasReturned, Lifecycle.move, Option.elim_some, Option.all_some, hstill,
      Bool.and_eq_true, hmonitor, Option.isSome_some, true_imp_iff]
    exact and_congr_left' hrequests

end Ongoing

/-- A server that starts has been asked by what was sent before, and its monitor by nothing. -/
theorem ongoing_start {channel : Broadcast} {between : List Step}
    (hhandle : channel.handles[handle]? = some true)
    (hbetween : ∀ s ∈ between, s ≠ .drop handle ∧ ¬s.isOf channel.subscribe.1) (probing : Bool) :
    Ongoing (start (channel.subscribe.2.run between) channel.subscribe.1 probing) handle
      (between.countP Step.triggers) 0 := by
  have hgiven : Awaits (channel.subscribe.2.run between) channel.subscribe.1
      (0 + between.countP Step.triggers) :=
    .waiting ((Broadcast.isBehind_subscribe channel).run fun s hs => (hbetween s hs).2)
  rw [Nat.zero_add] at hgiven
  have hkept : (channel.subscribe.2.run between).handles[handle]? = some true :=
    Broadcast.getElem?_handles_run hhandle fun s hs => (hbetween s hs).1
  generalize channel.subscribe.2.run between = b at hgiven hkept
  have hne : b.receivers.length ≠ channel.subscribe.1 := Nat.ne_of_gt hgiven.lt_length
  have hmade : Awaits b.subscribe.2 channel.subscribe.1 (between.countP Step.triggers) :=
    hgiven.perform (s := .subscribe handle) (by simp [Step.isOf])
  cases probing with
  | true =>
      exact
        { handle := hkept
          requests := hmade
          monitor := fun r hr => by
            obtain rfl : b.receivers.length = r := Option.some.inj hr
            exact ⟨hne, .waiting (Broadcast.isBehind_subscribe b)⟩ }
  | false =>
      exact
        { handle := hkept
          requests := hmade.perform (s := .unsubscribe b.receivers.length)
            (by simp [Step.isOf, hne])
          monitor := fun r hr => by cases hr }

/-- Notifications were sent if and only if one was. -/
theorem countP_triggers_pos_iff {steps : List Step} :
    0 < steps.countP Step.triggers ↔ ∃ h, Step.trigger h ∈ steps := by
  rw [List.countP_pos_iff]
  constructor
  · rintro ⟨s, hs, htriggers⟩
    cases s with
    | trigger h => exact ⟨h, hs⟩
    | _ => cases htriggers
  · rintro ⟨h, hs⟩
    exact ⟨_, hs, rfl⟩

/-- Notifications were sent by moves if and only if one was. -/
theorem countP_triggers_pos_iff_moves :
    0 < moves.countP Move.triggers ↔ ∃ h, Move.elsewhere (.trigger h) ∈ moves := by
  rw [List.countP_pos_iff]
  constructor
  · rintro ⟨m, hm, htriggers⟩
    cases m with
    | elsewhere s =>
        cases s with
        | trigger h => exact ⟨h, hm⟩
        | _ => cases htriggers
    | requests | monitor => cases htriggers
  · rintro ⟨h, hm⟩
    exact ⟨_, hm, rfl⟩

/-- **When a server stops** that was given a receiver and started, with any steps `between` these two
and any moves since: requests stop being taken if something was sent since the receiver was made,
the monitor stops if something was sent since the start, and the server returns, once both tasks have
looked at their receivers, if both are so. -/
theorem stops_iff {channel : Broadcast} {between : List Step}
    (hhandle : channel.handles[handle]? = some true)
    (hbetween : ∀ s ∈ between, s ≠ .drop handle ∧ ¬s.isOf channel.subscribe.1) (probing : Bool)
    (hmoves : ∀ m ∈ moves,
      m.Spares (start (channel.subscribe.2.run between) channel.subscribe.1 probing) handle) :
    let l := (start (channel.subscribe.2.run between) channel.subscribe.1 probing).proceed moves
    let before := ∃ h, Step.trigger h ∈ between
    let since := ∃ h, Move.elsewhere (.trigger h) ∈ moves
    (l.requestsStopped = true ↔ before ∨ since) ∧
      (l.monitorStopped = true ↔ probing = true → since) ∧
      (l.hasStopped = true ↔ (before ∨ since) ∧ (probing = true → since)) ∧
      (((l.move .requests).move .monitor).hasReturned = true ↔
        (before ∨ since) ∧ (probing = true → since)) := by
  intro l before since
  have hongoing : Ongoing l handle (between.countP Step.triggers + moves.countP Move.triggers)
      (0 + moves.countP Move.triggers) :=
    (ongoing_start hhandle hbetween probing).proceed hmoves
  have hasked : 0 < between.countP Step.triggers + moves.countP Move.triggers ↔ before ∨ since := by
    rw [Nat.add_pos_iff_pos_or_pos, countP_triggers_pos_iff, countP_triggers_pos_iff_moves]
  have hwatched : (l.monitor.isSome = true → 0 < 0 + moves.countP Move.triggers) ↔
      (probing = true → since) := by
    rw [Nat.zero_add, countP_triggers_pos_iff_moves, monitor_proceed, isSome_monitor_start]
  have hrequests := hongoing.requestsStopped_iff
  have hmonitor := hongoing.monitorStopped_iff
  have hreturned := hongoing.hasReturned_iff
  rw [hasked] at hrequests hreturned
  rw [hwatched] at hmonitor hreturned
  refine ⟨hrequests, hmonitor, ?_, hreturned⟩
  rw [hasStopped, Bool.and_eq_true, hrequests, hmonitor]

/-- Notified before the start and after it, the first time with the task that takes requests looking
at its receiver, a server that probes stops. -/
theorem stops_iff_notified_twice :
    let given := Broadcast.new.subscribe
    let between := [Step.trigger 0]
    let moves := [Move.requests, .elsewhere (.clone 0), .elsewhere (.trigger 1), .monitor]
    let started := start (given.2.run between) given.1 true
    let l := started.proceed moves
    Broadcast.new.handles[0]? = some true ∧ (∀ s ∈ between, s ≠ .drop 0 ∧ ¬s.isOf given.1) ∧
      (∀ m ∈ moves, m.Spares started 0) ∧ l.hasStopped = true ∧
      ((l.move .requests).move .monitor).hasReturned = true := by
  intro given between moves started l
  have hbetween : ∀ s ∈ between, s ≠ .drop 0 ∧ ¬s.isOf given.1 := by
    simp [between, Step.isOf]
  have hmoves : ∀ m ∈ moves, m.Spares started 0 := by
    simp [moves, Move.Spares, Step.isOf]
  have hsent : ∃ h, Move.elsewhere (.trigger h) ∈ moves := ⟨1, by decide⟩
  obtain ⟨-, -, hstopped, hreturned⟩ := stops_iff rfl hbetween true hmoves
  exact ⟨rfl, hbetween, hmoves, hstopped.mpr ⟨.inr hsent, fun _ => hsent⟩,
    hreturned.mpr ⟨.inr hsent, fun _ => hsent⟩⟩

/-- **A notification before the start** is told to one of the two tasks only: it ends the wait of the
task that takes requests, the monitor goes on, and the server does not return. -/
theorem notified_before_start :
    let (receiver, channel) := Broadcast.new.subscribe
    let (told, channel) := channel.trigger
    let l := start channel receiver true
    told = 1 ∧ l.requestsStopped = true ∧ l.monitorStopped = false ∧ l.hasStopped = false ∧
      ((l.move .requests).move .monitor).hasReturned = false := by
  decide

end Lifecycle

end Tollgate
