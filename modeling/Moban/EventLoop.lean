import Moban.Runs

/-!
# The event loop and its functor queue

One thread runs the loop; any thread may queue functors and request the end of the
loop. A step is what one thread does between two points at which another thread can
observe it: a critical section, a store, or a write to the wakeup descriptor together
with the return that follows. The loop thread's own position is part of the state,
with the vector of functors that a batch has taken out of the queue.

User code runs in the loop thread outside `loop`, in event callbacks, in functors, and
in the destructors of what functors captured, when the vector is destroyed. Which other
events a poll reports, and what user code computes, is left open. The wakeup counter
does not overflow, and functors return normally.
-/

namespace Moban

open Runs

/-- A thread that uses the loop: the loop's own or some other one. -/
inductive Caller where
  | loop
  | thread (identifier : Nat)
deriving DecidableEq

/-- A queued functor. Its ticket is its position among all functors ever queued, and
the batch is the number of batches taken out of the queue before it was queued. -/
structure Task (F : Type) where
  ticket : Nat
  functor : F
  batch : Nat
deriving DecidableEq

/-- A call that has had its effect on the loop and has not returned yet. -/
inductive Call where
  | queueInLoop (ticket : Nat)
  | quit
deriving DecidableEq

/-- Where the loop thread is. While it handles events, the wakeup channel may be among
the active ones and still to be read. -/
inductive Phase (F : Type) where
  | outside
  | testing
  | polling
  | handling (ready : Bool)
  | swapping
  | running (functors : List (Task F))
  | destroying
deriving DecidableEq

/-- The loop object, the position of its thread, the calls in progress, and the history
of its queue. -/
structure EventLoop (F : Type) where
  looping : Bool
  quit : Bool
  started : Bool
  eventHandling : Bool
  callingPendingFunctors : Bool
  wakeupFd : Nat
  pendingFunctors : List (Task F)
  phase : Phase F
  calls : Caller → Option Call
  appended : List (Task F)
  executed : List (Task F × Nat)
  returned : List Nat
  batches : Nat

namespace EventLoop

variable {F : Type}

def initial : EventLoop F where
  looping := false
  quit := false
  started := false
  eventHandling := false
  callingPendingFunctors := false
  wakeupFd := 0
  pendingFunctors := []
  phase := .outside
  calls := fun _ => none
  appended := []
  executed := []
  returned := []
  batches := 0

def isInLoopThread (caller : Caller) : Bool := decide (caller = .loop)

def wakeup (s : EventLoop F) : EventLoop F := { s with wakeupFd := s.wakeupFd + 1 }

/-- Reading resets the counter. Reading a counter of zero ends the process. -/
def handleRead (s : EventLoop F) : Option (EventLoop F) := do
  guard (0 < s.wakeupFd)
  return { s with wakeupFd := 0 }

/-! ## Calls from any thread -/

/-- The critical section of `queueInLoop`. -/
def queueInLoop (s : EventLoop F) (caller : Caller) (functor : F) : EventLoop F :=
  let task : Task F :=
    { ticket := s.appended.length, functor := functor, batch := s.batches }
  { s with
    pendingFunctors := s.pendingFunctors ++ [task]
    calls := Function.update s.calls caller (some (.queueInLoop task.ticket))
    appended := s.appended ++ [task] }

/-- The store of `quit`. -/
def requestQuit (s : EventLoop F) (caller : Caller) : EventLoop F :=
  { s with quit := true, calls := Function.update s.calls caller (some .quit) }

/-- The rest of a call: wake the loop up if the call has to, and return. -/
def complete (s : EventLoop F) (caller : Caller) : EventLoop F :=
  let done : EventLoop F := { s with calls := Function.update s.calls caller none }
  match s.calls caller with
  | none => s
  | some (.queueInLoop ticket) =>
      let noted : EventLoop F := { done with returned := ticket :: s.returned }
      if !isInLoopThread caller || s.callingPendingFunctors then noted.wakeup else noted
  | some .quit => if !isInLoopThread caller then done.wakeup else done

/-! ## Steps of the loop thread -/

/-- Entering `loop`. Only a later entry clears an earlier quit request. -/
def loop (s : EventLoop F) : Option (EventLoop F) := do
  guard (s.looping = false)
  return { s with
    looping := true
    quit := if s.started then false else s.quit
    started := true
    phase := .testing }

/-- The loop condition. -/
def test (s : EventLoop F) : EventLoop F :=
  if s.quit then { s with looping := false, phase := .outside }
  else { s with phase := .polling }

/-- The poll returns, with or without the wakeup channel among the active ones. -/
def poll (s : EventLoop F) (ready : Bool) : EventLoop F :=
  { s with eventHandling := true, phase := .handling ready }

/-- The active wakeup channel handles its event. -/
def handleWakeup (s : EventLoop F) : Option (EventLoop F) := do
  let read ← s.handleRead
  return { read with phase := .handling false }

/-- The end of event handling and the beginning of `doPendingFunctors`. -/
def beginFunctors (s : EventLoop F) : EventLoop F :=
  { s with eventHandling := false, callingPendingFunctors := true, phase := .swapping }

/-- The critical section of `doPendingFunctors`. -/
def swapFunctors (s : EventLoop F) : EventLoop F :=
  { s with
    pendingFunctors := []
    phase := .running s.pendingFunctors
    batches := s.batches + 1 }

/-- Call the next functor of the batch. -/
def runFunctor (s : EventLoop F) : EventLoop F :=
  match s.phase with
  | .running (task :: rest) =>
      { s with phase := .running rest, executed := s.executed ++ [(task, s.batches)] }
  | _ => s

/-- After the last functor; the vector is still to be destroyed. -/
def endFunctors (s : EventLoop F) : EventLoop F :=
  { s with callingPendingFunctors := false, phase := .destroying }

/-- The vector of functors has been destroyed. -/
def destroyFunctors (s : EventLoop F) : EventLoop F := { s with phase := .testing }

/-! ## Runs -/

inductive Label (F : Type) where
  | queueInLoop (caller : Caller) (functor : F)
  | quit (caller : Caller)
  | complete (caller : Caller)
  | loop
  | test
  | poll (ready : Bool)
  | handleWakeup
  | beginFunctors
  | swapFunctors
  | runFunctor
  | endFunctors
  | destroyFunctors
deriving DecidableEq

/-- The loop thread is at a point where it may execute user code. -/
def userCode (s : EventLoop F) : Bool :=
  match s.phase with
  | .outside | .handling _ | .running _ | .destroying => true
  | .testing | .polling | .swapping => false

/-- A thread can make a call if it has no other call in progress and, in the loop
thread, if user code is running. -/
def MayCall (s : EventLoop F) (caller : Caller) : Prop :=
  s.calls caller = none ∧ (caller = .loop → s.userCode = true)

/-- A batch has been taken out and is not finished. -/
def hasFunctor (s : EventLoop F) : Bool :=
  match s.phase with
  | .running (_ :: _) => true
  | _ => false

/-- The loop thread proceeds from its position once its own call has returned. A poll
reports the wakeup channel only if the counter is not zero. -/
def Enabled (s : EventLoop F) : Label F → Prop
  | .queueInLoop caller _ => s.MayCall caller
  | .quit caller => s.MayCall caller
  | .complete caller => s.calls caller ≠ none
  | .loop => s.calls .loop = none ∧ s.phase = .outside
  | .test => s.phase = .testing
  | .poll ready => s.phase = .polling ∧ (ready = true → 0 < s.wakeupFd)
  | .handleWakeup => s.calls .loop = none ∧ s.phase = .handling true
  | .beginFunctors => s.calls .loop = none ∧ s.phase = .handling false
  | .swapFunctors => s.phase = .swapping
  | .runFunctor => s.calls .loop = none ∧ s.hasFunctor = true
  | .endFunctors => s.calls .loop = none ∧ s.phase = .running []
  | .destroyFunctors => s.calls .loop = none ∧ s.phase = .destroying

def step (s : EventLoop F) : Label F → Option (EventLoop F)
  | .queueInLoop caller functor => some (s.queueInLoop caller functor)
  | .quit caller => some (s.requestQuit caller)
  | .complete caller => some (s.complete caller)
  | .loop => s.loop
  | .test => some s.test
  | .poll ready => some (s.poll ready)
  | .handleWakeup => s.handleWakeup
  | .beginFunctors => some s.beginFunctors
  | .swapFunctors => some s.swapFunctors
  | .runFunctor => some s.runFunctor
  | .endFunctors => some s.endFunctors
  | .destroyFunctors => some s.destroyFunctors

instance (s : EventLoop F) (caller : Caller) : Decidable (s.MayCall caller) := instDecidableAnd

instance [DecidableEq F] (s : EventLoop F) : (label : Label F) → Decidable (s.Enabled label)
  | .queueInLoop caller _ => inferInstanceAs (Decidable (s.MayCall caller))
  | .quit caller => inferInstanceAs (Decidable (s.MayCall caller))
  | .complete _ => instDecidableNot
  | .loop | .poll _ | .handleWakeup | .beginFunctors | .runFunctor | .endFunctors
  | .destroyFunctors => instDecidableAnd
  | .test | .swapFunctors => decEq _ _

def system : System (EventLoop F) (Label F) where
  step := step
  enabled := Enabled

instance [DecidableEq F] (s : EventLoop F) (label : Label F) : Decidable (system.enabled s label) :=
  inferInstanceAs (Decidable (s.Enabled label))

end EventLoop

end Moban
