import Moban.OrderedSets
import Moban.Runs

/-!
# The timer queue of an event loop

Timers live in a heap and are known by address. Two ordered sets index the queued
ones: by expiration and address, and by address and sequence number. A third set
records the identifiers cancelled while expired timers are being called.

Dispatching is not one step. Reading the timer descriptor takes the expired batch out
of both sets, each callback of the batch is a step of its own, and finishing restarts
or deletes the batch. Whatever a callback does stands between those steps, so adding
and cancelling from inside a callback needs no separate semantics.

An operation without a result has failed: an assertion does not hold, or an address is
used whose timer has been deleted. Timestamps are unbounded integers counting
microseconds, and sequence numbers do not wrap. Addresses may be reused at any time
after a deletion. Logging and the loop-thread check have no effect here.
-/

namespace Moban

open OrderedSets Runs

/-- A positive timestamp is valid; the default one is not. -/
def Timestamp.valid (microSecondsSinceEpoch : Int) : Bool := decide (0 < microSecondsSinceEpoch)

/-- What the timer code observes of a floating-point interval: whether it is positive
and its truncation to microseconds. Truncation does not change the sign. -/
structure Interval where
  positive : Bool
  micros : Int
  forward : positive = true → 0 ≤ micros
deriving DecidableEq

/-- The interval of a one-shot timer. -/
def Interval.oneShot : Interval := ⟨false, 0, by decide⟩

/-- The interval of a timer that repeats. -/
def Interval.every (micros : Nat) : Interval := ⟨true, micros, fun _ => Int.natCast_nonneg micros⟩

/-- A timer object. It repeats exactly if its interval is positive, and the callback is
identified by the sequence number. -/
structure Timer where
  expiration : Int
  interval : Interval
  repeats : Bool
  sequence : Int
  kind : repeats = interval.positive
deriving DecidableEq

/-- A handle given to callers. The default one has no timer and sequence zero. -/
structure TimerId where
  timer : Nat := 0
  sequence : Int := 0
deriving DecidableEq

/-- A queued expiration and the address of its timer, ordered in that way. -/
abbrev Entry := Int ×ₗ Nat

/-- The address and the sequence number of a timer. -/
abbrev ActiveTimer := Nat ×ₗ Int

def Entry.time (entry : Entry) : Int := (ofLex entry).1

def Entry.timer (entry : Entry) : Nat := (ofLex entry).2

/-- The largest pointer value, used as the search sentry. -/
def UINTPTR_MAX : Nat := 2 ^ 64 - 1

/-- A relative time as the descriptor interface takes it. -/
structure Timespec where
  sec : Int
  nsec : Int
deriving DecidableEq

/-- The two times at which the descriptor is set: `now` is read from the clock to compute the
time that remains, and the relative time counts from the later settime call. -/
structure Readings where
  now : Int
  settime : Int
  ordered : now ≤ settime
deriving DecidableEq

/-- No time passes between the two. -/
def Readings.once (clock : Int) : Readings := ⟨clock, clock, le_refl clock⟩

/-- An armed descriptor: when it expires and the readings it was set with. It stays in this
form after its deadline until it is read. -/
structure Alarm where
  deadline : Int
  clock : Readings
deriving DecidableEq

/-- What happens to timers, in order. -/
inductive TimerEvent where
  | created (timer : Nat) (sequence : Int) (repeats : Bool)
  | added (timer : Nat) (sequence : Int)
  | cancelled (id : TimerId)
  | ran (sequence expiration now : Int)
  | deleted (sequence : Int)
deriving DecidableEq

/-- The dispatch in progress: its clock reading, the expired batch, and the part of
the batch whose callbacks have not been called yet. -/
structure Dispatch where
  now : Int
  expired : List Entry
  remaining : List Entry
deriving DecidableEq

/-- The queue together with the heap of timers and the timer descriptor. Timers that
were created and are still to be added wait in `posted`. -/
structure TimerQueue where
  heap : Nat → Option Timer
  numCreated : Int
  posted : List Nat
  timers : OrderedSet Entry
  activeTimers : OrderedSet ActiveTimer
  callingExpiredTimers : Bool
  cancelingTimers : OrderedSet ActiveTimer
  timerfd : Option Alarm
  dispatch : Option Dispatch
  log : List TimerEvent

namespace TimerQueue

def initial : TimerQueue where
  heap := fun _ => none
  numCreated := 0
  posted := []
  timers := .empty
  activeTimers := .empty
  callingExpiredTimers := false
  cancelingTimers := .empty
  timerfd := none
  dispatch := none
  log := []

/-! ## The timer descriptor -/

def howMuchTimeFromNow (expiration now : Int) : Timespec :=
  let microseconds := if expiration - now < 100 then 100 else expiration - now
  { sec := microseconds.tdiv 1000000, nsec := microseconds.tmod 1000000 * 1000 }

/-- Setting the zero time disarms the descriptor; any other time is relative to the
moment of the call. -/
def timerfdSettime (value : Timespec) (clock : Readings) : Option Alarm :=
  if value.sec = 0 ∧ value.nsec = 0 then none
  else some { deadline := clock.settime + value.sec * 1000000 + value.nsec.tdiv 1000, clock }

/-- The remaining time is computed from the first reading and set at the second. -/
def resetTimerfd (s : TimerQueue) (expiration : Int) (clock : Readings) : TimerQueue :=
  { s with timerfd := timerfdSettime (howMuchTimeFromNow expiration clock.now) clock }

/-- Reading consumes an expiration that has happened and leaves an armed descriptor. -/
def readTimerfd (s : TimerQueue) (clock : Int) : TimerQueue :=
  { s with timerfd := s.timerfd.filter fun alarm => decide (clock < alarm.deadline) }

/-! ## Timer objects -/

def Timer.restart (timer : Timer) (now : Int) : Timer :=
  if timer.repeats then { timer with expiration := now + timer.interval.micros }
  else { timer with expiration := 0 }

/-- Allocate a timer and number it. It is handed to the loop once, later. -/
def newTimer (s : TimerQueue) (address : Nat) (expiration : Int) (interval : Interval) :
    TimerQueue :=
  let sequence := s.numCreated + 1
  let timer : Timer :=
    { expiration := expiration, interval := interval, repeats := interval.positive
      sequence := sequence, kind := rfl }
  { s with
    heap := Function.update s.heap address (some timer)
    numCreated := sequence
    posted := address :: s.posted
    log := s.log ++ [.created address sequence interval.positive] }

/-- Deleting an address without a live timer is a failure. -/
def delete (s : TimerQueue) (address : Nat) : Option TimerQueue := do
  let timer ← s.heap address
  return { s with
    heap := Function.update s.heap address none
    log := s.log ++ [.deleted timer.sequence] }

/-! ## Operations of the loop thread -/

/-- Enter a timer into both sets, and whether it is the earliest. -/
def insert (s : TimerQueue) (address : Nat) : Option (Bool × TimerQueue) := do
  guard (s.timers.size = s.activeTimers.size)
  let timer ← s.heap address
  let earliestChanged :=
    match s.timers.first with
    | none => true
    | some earliest => decide (timer.expiration < Entry.time earliest)
  let entry : Entry := toLex (timer.expiration, address)
  let active : ActiveTimer := toLex (address, timer.sequence)
  guard (entry ∉ s.timers)
  guard (active ∉ s.activeTimers)
  let inserted : TimerQueue :=
    { s with timers := s.timers.insert entry, activeTimers := s.activeTimers.insert active }
  guard (inserted.timers.size = inserted.activeTimers.size)
  return (earliestChanged, inserted)

/-- The alarm is set anew only for a timer that is the earliest. -/
def addTimerInLoop (s : TimerQueue) (address : Nat) (clock : Readings) : Option TimerQueue := do
  let (earliestChanged, inserted) ← s.insert address
  let timer ← inserted.heap address
  let added : TimerQueue :=
    { inserted with
      posted := inserted.posted.erase address
      log := inserted.log ++ [.added address timer.sequence] }
  if earliestChanged then
    return added.resetTimerfd timer.expiration clock
  else
    return added

/-- A cancel that finds no active timer is remembered while callbacks are being called. -/
def cancelInLoop (s : TimerQueue) (id : TimerId) : Option TimerQueue := do
  let requested : TimerQueue := { s with log := s.log ++ [.cancelled id] }
  guard (requested.timers.size = requested.activeTimers.size)
  let active : ActiveTimer := toLex (id.timer, id.sequence)
  let cancelled ←
    if active ∈ requested.activeTimers then do
      let timer ← requested.heap id.timer
      let entry : Entry := toLex (timer.expiration, id.timer)
      guard (entry ∈ requested.timers)
      let deleted ← { requested with timers := requested.timers.erase entry }.delete id.timer
      some { deleted with activeTimers := deleted.activeTimers.erase active }
    else if requested.callingExpiredTimers then
      some { requested with cancelingTimers := requested.cancelingTimers.insert active }
    else
      some requested
  guard (cancelled.timers.size = cancelled.activeTimers.size)
  return cancelled

/-- Take one expired timer out of the set of active ones. -/
def eraseActive (s : TimerQueue) (entry : Entry) : Option TimerQueue := do
  let timer ← s.heap (Entry.timer entry)
  let active : ActiveTimer := toLex (Entry.timer entry, timer.sequence)
  guard (active ∈ s.activeTimers)
  return { s with activeTimers := s.activeTimers.erase active }

/-- Take all timers out that are due. -/
def getExpired (s : TimerQueue) (now : Int) : Option (List Entry × TimerQueue) := do
  guard (s.timers.size = s.activeTimers.size)
  let sentry : Entry := toLex (now, UINTPTR_MAX)
  let expired := s.timers.below sentry
  let rest := s.timers.cut sentry
  guard (∀ earliest ∈ rest.first, now < Entry.time earliest)
  let erased ← expired.foldlM eraseActive { s with timers := rest }
  guard (erased.timers.size = erased.activeTimers.size)
  return (expired, erased)

/-- The part of `handleRead` before the first callback. -/
def handleRead (s : TimerQueue) (now readAt : Int) : Option TimerQueue := do
  let (expired, taken) ← (s.readTimerfd readAt).getExpired now
  return { taken with
    callingExpiredTimers := true
    cancelingTimers := .empty
    dispatch := some { now := now, expired := expired, remaining := expired } }

/-- Call the callback of the next timer of the batch. -/
def runNext (s : TimerQueue) : Option TimerQueue := do
  let dispatch ← s.dispatch
  let entry ← dispatch.remaining.head?
  let timer ← s.heap (Entry.timer entry)
  return { s with
    dispatch := some { dispatch with remaining := dispatch.remaining.tail }
    log := s.log ++ [.ran timer.sequence timer.expiration dispatch.now] }

/-- Restart or delete one timer of the batch. -/
def resetOne (now : Int) (s : TimerQueue) (entry : Entry) : Option TimerQueue := do
  let address := Entry.timer entry
  let timer ← s.heap address
  let active : ActiveTimer := toLex (address, timer.sequence)
  if timer.repeats ∧ active ∉ s.cancelingTimers then
    let restarted : TimerQueue :=
      { s with heap := Function.update s.heap address (some (Timer.restart timer now)) }
    let (_, inserted) ← restarted.insert address
    return inserted
  else
    s.delete address

/-- Settle the timers of the batch and set the alarm for the earliest one left. -/
def reset (s : TimerQueue) (expired : List Entry) (now : Int) (clock : Readings) :
    Option TimerQueue := do
  let settled ← expired.foldlM (resetOne now) s
  let nextExpire ←
    match settled.timers.first with
    | none => some 0
    | some earliest => (settled.heap (Entry.timer earliest)).map Timer.expiration
  if Timestamp.valid nextExpire then
    return settled.resetTimerfd nextExpire clock
  else
    return settled

/-- The part of `handleRead` after the last callback. -/
def finishRead (s : TimerQueue) (clock : Readings) : Option TimerQueue := do
  let dispatch ← s.dispatch
  { s with callingExpiredTimers := false, dispatch := none }.reset
    dispatch.expired dispatch.now clock

/-! ## Runs -/

/-- One step of a run. Clock readings are chosen by the environment. -/
inductive Label where
  | newTimer (address : Nat) (expiration : Int) (interval : Interval)
  | addTimerInLoop (address : Nat) (clock : Readings)
  | cancelInLoop (id : TimerId)
  | handleRead (now readAt : Int)
  | runNext
  | finishRead (clock : Readings)
deriving DecidableEq

/-- The callbacks still to be called by the dispatch in progress. -/
def waiting (s : TimerQueue) : List Entry := (s.dispatch.map Dispatch.remaining).getD []

/-- The batch of the dispatch in progress. -/
def batch (s : TimerQueue) : List Entry := (s.dispatch.map Dispatch.expired).getD []

/-- The allocator returns a free address below the largest pointer value, a created
timer is added once, and dispatching does not nest. -/
def Enabled (s : TimerQueue) : Label → Prop
  | .newTimer address _ _ => s.heap address = none ∧ address < UINTPTR_MAX
  | .addTimerInLoop address _ => address ∈ s.posted
  | .cancelInLoop _ => True
  | .handleRead _ _ => s.dispatch = none
  | .runNext => s.waiting ≠ []
  | .finishRead _ => s.dispatch ≠ none ∧ s.waiting = []

instance (s : TimerQueue) : (label : Label) → Decidable (s.Enabled label)
  | .newTimer .. | .finishRead _ => instDecidableAnd
  | .addTimerInLoop address _ => inferInstanceAs (Decidable (address ∈ s.posted))
  | .cancelInLoop _ => instDecidableTrue
  | .handleRead .. => decEq _ _
  | .runNext => instDecidableNot

def step (s : TimerQueue) : Label → Option TimerQueue
  | .newTimer address expiration interval => some (s.newTimer address expiration interval)
  | .addTimerInLoop address clock => s.addTimerInLoop address clock
  | .cancelInLoop id => s.cancelInLoop id
  | .handleRead now readAt => s.handleRead now readAt
  | .runNext => s.runNext
  | .finishRead clock => s.finishRead clock

def system : System TimerQueue Label where
  step := step
  enabled := Enabled

instance (s : TimerQueue) (label : Label) : Decidable (system.enabled s label) :=
  inferInstanceAs (Decidable (s.Enabled label))

end TimerQueue

namespace TimerEvent

/-- The call of the callback with this sequence number. -/
def isRun (sequence : Int) : TimerEvent → Bool
  | .ran called _ _ => called == sequence
  | _ => false

/-- The deletion of the timer with this sequence number. -/
def isDeletion (sequence : Int) : TimerEvent → Bool
  | .deleted removed => removed == sequence
  | _ => false

/-- How often the callback with this sequence number has been called. -/
def runs (log : List TimerEvent) (sequence : Int) : Nat := log.countP (isRun sequence)

/-- How often a timer with this sequence number has been deleted. -/
def deletions (log : List TimerEvent) (sequence : Int) : Nat := log.countP (isDeletion sequence)

theorem runs_snoc (log : List TimerEvent) (event : TimerEvent) (sequence : Int) :
    runs (log ++ [event]) sequence =
      runs log sequence + if event.isRun sequence then 1 else 0 := by
  simp [runs, List.countP_append, List.countP_singleton]

/-- A longer log has no fewer calls. -/
theorem runs_mono {log longer : List TimerEvent} (grown : log <+: longer) (sequence : Int) :
    runs log sequence ≤ runs longer sequence :=
  grown.sublist.countP_le

theorem deletions_snoc (log : List TimerEvent) (event : TimerEvent) (sequence : Int) :
    deletions (log ++ [event]) sequence =
      deletions log sequence + if event.isDeletion sequence then 1 else 0 := by
  simp [deletions, List.countP_append, List.countP_singleton]

end TimerEvent

end Moban
