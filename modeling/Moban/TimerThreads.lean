import Moban.LoopOrder
import Moban.TimerCancel

/-!
# Timers used from several threads

Adding and cancelling go through `runInLoop`: another thread queues a functor, the loop
thread acts at once. A call of `addTimer` in another thread allocates the timer, queues
the functor that adds it, and afterwards reads the sequence number through the pointer.
By then the loop may have run the functor and even deleted the timer, so what is read is
the number of whatever timer lives at that address, or anything at all if none does.

A handle is the identifier a call returned together with the number the timer was really
created under; the latter is known to nobody in the program. Timer callbacks are called
while the loop handles events. Other functors stand for user code that runs in the loop
thread.
-/

namespace Moban

open OrderedSets Runs

/-- The result of a call of `addTimer` and the true number of its timer. -/
structure Handle where
  id : TimerId
  sequence : Int
deriving DecidableEq

/-- The functors that timers and their users put into the loop's queue. -/
inductive TimerFunctor where
  | addTimerInLoop (address : Nat)
  | cancelInLoop (handle : Handle)
  | other
deriving DecidableEq

/-- A call of `addTimer` in another thread: the allocated timer, and whether the functor
that adds it has been queued. -/
structure Adding where
  address : Nat
  sequence : Int
  posted : Bool
deriving DecidableEq

/-- A loop with its timer queue, the calls of `addTimer` in progress, the handles that
were returned, and the timers whose cancel the loop has processed. -/
structure TimerThreads where
  loop : EventLoop TimerFunctor
  queue : TimerQueue
  adding : Nat → Option Adding
  handles : List Handle
  cancelled : List Int

namespace TimerThreads

/-- At the start only the default identifier is known. -/
def initial : TimerThreads where
  loop := .initial
  queue := .initial
  adding := fun _ => none
  handles := [{ id := {}, sequence := 0 }]
  cancelled := []

/-! ## The two calls -/

/-- `addTimer` in another thread, up to the allocation. -/
def allocate (s : TimerThreads) (thread address : Nat) (expiration : Int)
    (interval : Interval) : TimerThreads :=
  let created := s.queue.newTimer address expiration interval
  { s with
    queue := created
    adding := Function.update s.adding thread
      (some { address := address, sequence := created.numCreated, posted := false }) }

/-- `addTimer` in another thread queues the functor that adds the timer. -/
def post (s : TimerThreads) (thread : Nat) : Option TimerThreads := do
  let call ← s.adding thread
  return { s with
    loop := s.loop.queueInLoop (.thread thread) (.addTimerInLoop call.address)
    adding := Function.update s.adding thread (some { call with posted := true }) }

/-- `addTimer` in another thread returns the sequence number it has read. -/
def returnId (s : TimerThreads) (thread : Nat) (sequence : Int) : Option TimerThreads := do
  let call ← s.adding thread
  let handle : Handle :=
    { id := { timer := call.address, sequence := sequence }, sequence := call.sequence }
  return { s with
    adding := Function.update s.adding thread none
    handles := handle :: s.handles }

/-- `addTimer` in the loop thread adds the timer at once. -/
def addTimer (s : TimerThreads) (address : Nat) (expiration : Int) (interval : Interval)
    (clock : Readings) : Option TimerThreads := do
  let created := s.queue.newTimer address expiration interval
  let added ← created.addTimerInLoop address clock
  let timer ← added.heap address
  let handle : Handle :=
    { id := { timer := address, sequence := timer.sequence }, sequence := created.numCreated }
  return { s with queue := added, handles := handle :: s.handles }

/-- The effect of a cancel in the loop thread. -/
def cancelInLoop (s : TimerThreads) (handle : Handle) : Option TimerThreads := do
  let queue ← s.queue.cancelInLoop handle.id
  return { s with queue := queue, cancelled := handle.sequence :: s.cancelled }

def cancel (s : TimerThreads) (caller : Caller) (handle : Handle) : Option TimerThreads :=
  if EventLoop.isInLoopThread caller then s.cancelInLoop handle
  else some { s with loop := s.loop.queueInLoop caller (.cancelInLoop handle) }

/-- The loop calls the next functor of its batch. -/
def runFunctor (s : TimerThreads) (clock : Readings) : Option TimerThreads := do
  let task ← s.loop.phase.functors.head?
  let called : TimerThreads := { s with loop := s.loop.runFunctor }
  match task.functor with
  | .addTimerInLoop address => do
      let queue ← called.queue.addTimerInLoop address clock
      return { called with queue := queue }
  | .cancelInLoop handle => called.cancelInLoop handle
  | .other => some called

/-! ## Runs -/

/-- What another thread, the loop thread in user code, or the loop itself does next. -/
inductive Label where
  | allocate (thread address : Nat) (expiration : Int) (interval : Interval)
  | post (thread : Nat)
  | returnId (thread : Nat) (sequence : Int)
  | addTimer (address : Nat) (expiration : Int) (interval : Interval) (clock : Readings)
  | cancel (caller : Caller) (handle : Handle)
  | handleRead (now readAt : Int)
  | runNext
  | finishRead (clock : Readings)
  | runFunctor (clock : Readings)
  | loop (label : EventLoop.Label TimerFunctor)
deriving DecidableEq

/-- No thread uses the loop otherwise while it is inside `addTimer`. -/
def Unoccupied (s : TimerThreads) : Caller → Prop
  | .loop => True
  | .thread identifier => s.adding identifier = none

/-- The steps that the loop takes by itself. Timer functors are queued and called by the
steps above, and the loop does not proceed while it is inside the timer dispatch. -/
def Passes (s : TimerThreads) : EventLoop.Label TimerFunctor → Prop
  | .queueInLoop caller functor => functor = .other ∧ s.Unoccupied caller
  | .quit caller => s.Unoccupied caller
  | .handleWakeup => s.queue.dispatch = none
  | .beginFunctors => s.queue.dispatch = none
  | .runFunctor => False
  | _ => True

/-- The event loop is inside the callback of a channel. -/
def Dispatching (s : TimerThreads) : Prop :=
  s.loop.calls .loop = none ∧ s.loop.phase.eventful = true

/-- A call in progress whose functor has, or has not, been queued. -/
def isAdding (s : TimerThreads) (thread : Nat) (posted : Bool) : Bool :=
  match s.adding thread with
  | none => false
  | some call => call.posted == posted

/-- The number read by `returnId` is that of the timer at the address, if there is one. -/
def Reads (s : TimerThreads) (thread : Nat) (sequence : Int) : Prop :=
  ∀ call ∈ s.adding thread, ∀ timer ∈ s.queue.heap call.address, timer.sequence = sequence

def Enabled (s : TimerThreads) : Label → Prop
  | .allocate thread address expiration interval =>
      s.loop.MayCall (.thread thread) ∧ s.adding thread = none ∧
        s.queue.Enabled (.newTimer address expiration interval)
  | .post thread => s.loop.MayCall (.thread thread) ∧ s.isAdding thread false = true
  | .returnId thread sequence =>
      s.loop.MayCall (.thread thread) ∧ s.isAdding thread true = true ∧ s.Reads thread sequence
  | .addTimer address expiration interval _ =>
      s.loop.MayCall .loop ∧ s.queue.Enabled (.newTimer address expiration interval)
  | .cancel caller handle =>
      s.loop.MayCall caller ∧ s.Unoccupied caller ∧ handle ∈ s.handles
  | .handleRead now readAt => s.Dispatching ∧ s.queue.Enabled (.handleRead now readAt)
  | .runNext => s.Dispatching ∧ s.queue.Enabled .runNext
  | .finishRead clock => s.Dispatching ∧ s.queue.Enabled (.finishRead clock)
  | .runFunctor _ => s.loop.Enabled .runFunctor
  | .loop label => s.loop.Enabled label ∧ s.Passes label

/-- The timer queue alone takes this step. -/
def onQueue (s : TimerThreads) (label : TimerQueue.Label) : Option TimerThreads := do
  let queue ← s.queue.step label
  return { s with queue := queue }

def step (s : TimerThreads) : Label → Option TimerThreads
  | .allocate thread address expiration interval =>
      some (s.allocate thread address expiration interval)
  | .post thread => s.post thread
  | .returnId thread sequence => s.returnId thread sequence
  | .addTimer address expiration interval clock =>
      s.addTimer address expiration interval clock
  | .cancel caller handle => s.cancel caller handle
  | .handleRead now readAt => s.onQueue (.handleRead now readAt)
  | .runNext => s.onQueue .runNext
  | .finishRead clock => s.onQueue (.finishRead clock)
  | .runFunctor clock => s.runFunctor clock
  | .loop label => do
      let loop ← s.loop.step label
      return { s with loop := loop }

instance (s : TimerThreads) : (caller : Caller) → Decidable (s.Unoccupied caller)
  | .loop => instDecidableTrue
  | .thread _ => decEq _ _

instance (s : TimerThreads) : (label : EventLoop.Label TimerFunctor) → Decidable (s.Passes label)
  | .queueInLoop .. => instDecidableAnd
  | .quit caller => inferInstanceAs (Decidable (s.Unoccupied caller))
  | .handleWakeup | .beginFunctors => decEq _ _
  | .runFunctor => instDecidableFalse
  | .complete _ | .loop | .test | .poll _ | .swapFunctors | .endFunctors | .destroyFunctors =>
      instDecidableTrue

instance (s : TimerThreads) : Decidable s.Dispatching := instDecidableAnd

instance (s : TimerThreads) (thread : Nat) (sequence : Int) :
    Decidable (s.Reads thread sequence) := inferInstanceAs (Decidable (∀ _ ∈ _, _))

instance (s : TimerThreads) : (label : Label) → Decidable (s.Enabled label)
  | .allocate .. | .post _ | .returnId .. | .addTimer .. | .cancel .. | .handleRead ..
  | .runNext | .finishRead _ | .loop _ => instDecidableAnd
  | .runFunctor _ => inferInstanceAs (Decidable (s.loop.Enabled .runFunctor))

def system : System TimerThreads Label where
  step := step
  enabled := Enabled

instance (s : TimerThreads) (label : Label) : Decidable (system.enabled s label) :=
  inferInstanceAs (Decidable (s.Enabled label))

end TimerThreads

end Moban
