import Moban.Runs

/-!
# The thread pool

Workers take tasks out of a shared queue. A step is what one thread does while no other
thread can observe it: the queue is accessed under the mutex, but `stop` changes `running`
without holding it, so a critical section that reads the flag twice, or reads it and then
changes the queue, is two steps with the mutex held in between.

Threads that call `run` have no identity here: one of them may hold the mutex, and any
number of them may still have to notify a worker. `start` and `stop` are not called
concurrently with each other, and threads can be created. A task ends by returning or by
throwing an exception, which ends its worker. Tasks are numbered in the order in which they
were accepted.
-/

namespace Moban

open Runs

inductive Worker where
  /-- Before the lock of the mutex, at the top of the loop or after waking up. -/
  | locking
  /-- Blocked on the condition variable. -/
  | waiting
  /-- Past the wait, with the mutex held. -/
  | taking
  | executing (task : Nat)
  | finished
  | crashed
deriving DecidableEq

namespace Worker

/-- The thread of the worker has not ended. -/
def alive : Worker → Bool
  | finished | crashed => false
  | _ => true

def notified : Worker → Worker
  | waiting => locking
  | worker => worker

def isExecuting : Worker → Bool
  | executing _ => true
  | _ => false

end Worker

/-- The holder of the mutex: a worker in its loop or a thread that calls `run`. -/
inductive Holder where
  | worker (index : Nat)
  | caller
deriving DecidableEq

/-- Where the thread is that starts and stops the pool. -/
inductive Owner where
  | idle
  | starting (left : Nat)
  | stopping
  | joining (index : Nat)
deriving DecidableEq

namespace Owner

/-- There is a thread left to create. -/
def starts : Owner → Bool
  | starting (_ + 1) => true
  | _ => false

/-- The pool is being stopped. -/
def stops : Owner → Bool
  | stopping | joining _ => true
  | _ => false

end Owner

/-- The pool, the positions of the threads that use it, and the history of its tasks. -/
structure ThreadPool where
  running : Bool
  queue : List Nat
  threads : List Worker
  mutex : Option Holder
  /-- The calls of `run` that have left the critical section and not notified a worker. -/
  notifying : Nat
  owner : Owner
  /-- The number of tasks that were accepted. -/
  accepted : Nat
  /-- The tasks that were called, in order. -/
  executed : List Nat
deriving DecidableEq

namespace ThreadPool

def initial : ThreadPool where
  running := false
  queue := []
  threads := []
  mutex := none
  notifying := 0
  owner := .idle
  accepted := 0
  executed := []

def setWorker (s : ThreadPool) (index : Nat) (worker : Worker) : ThreadPool :=
  { s with threads := s.threads.set index worker }

/-! ## Starting and stopping -/

/-- A pool that runs is left as it is. A negative number of threads cannot be reserved: the
exception leaves the pool running without threads, as does the number zero. -/
def start (s : ThreadPool) (numThread : Int) : ThreadPool :=
  if s.running then s
  else if numThread ≤ 0 then { s with running := true }
  else { s with running := true, owner := .starting numThread.toNat }

/-- Create the next thread, and return after the last one. -/
def spawn (s : ThreadPool) : ThreadPool :=
  match s.owner with
  | .starting (left + 1) =>
      { s with
        threads := s.threads ++ [.locking]
        owner := if left = 0 then .idle else .starting left }
  | _ => s

/-- The exchange of the flag, with which a pool that does not run returns. -/
def stop (s : ThreadPool) : ThreadPool :=
  if s.running then { s with running := false, owner := .stopping } else s

def notifyAll (s : ThreadPool) : ThreadPool :=
  { s with threads := s.threads.map Worker.notified, owner := .joining 0 }

/-- The next thread has ended. -/
def join (s : ThreadPool) : ThreadPool :=
  match s.owner with
  | .joining index => { s with owner := .joining (index + 1) }
  | _ => s

/-- The end of `stop`. -/
def clear (s : ThreadPool) : ThreadPool := { s with threads := [], owner := .idle }

/-! ## Submitting a task -/

/-- Lock the mutex and test the flag. A pool that does not run throws. -/
def run (s : ThreadPool) : ThreadPool :=
  if s.running then { s with mutex := some .caller } else s

/-- Append the task and unlock the mutex. -/
def emplaceBack (s : ThreadPool) : ThreadPool :=
  { s with
    queue := s.queue ++ [s.accepted]
    mutex := none
    notifying := s.notifying + 1
    accepted := s.accepted + 1 }

/-- Notify a worker, if one waits. -/
def notifyOne (s : ThreadPool) (woken : Option Nat) : ThreadPool :=
  let notified := { s with notifying := s.notifying - 1 }
  match woken with
  | some index => notified.setWorker index .locking
  | none => notified

/-! ## The loop of a worker -/

/-- Lock the mutex and test the condition of the wait, which unlocks it again to block. -/
def wait (s : ThreadPool) (index : Nat) : ThreadPool :=
  if s.running ∧ s.queue = [] then s.setWorker index .waiting
  else { s.setWorker index .taking with mutex := some (.worker index) }

/-- Leave the loop, or take the first task, and unlock the mutex. There is no first task in an
empty queue. -/
def take (s : ThreadPool) (index : Nat) : Option ThreadPool :=
  if ¬ s.running ∧ s.queue = [] then
    some { s.setWorker index .finished with mutex := none }
  else
    match s.queue with
    | [] => none
    | task :: rest =>
        some { s.setWorker index (.executing task) with
          queue := rest
          mutex := none
          executed := s.executed ++ [task] }

/-- The task returns, or throws an exception that ends the thread. -/
def endTask (s : ThreadPool) (index : Nat) (throws : Bool) : ThreadPool :=
  s.setWorker index (if throws then .crashed else .locking)

/-! ## Runs -/

inductive Label where
  | start (numThread : Int)
  | spawn
  | stop
  | notifyAll
  | join
  | clear
  | run
  | emplaceBack
  | notifyOne (woken : Option Nat)
  | wait (index : Nat)
  | wake (index : Nat)
  | take (index : Nat)
  | endTask (index : Nat) (throws : Bool)
deriving DecidableEq

/-- The label is the beginning of a call of the pool. -/
def Label.isCall : Label → Bool
  | .start _ | .stop | .run => true
  | _ => false

def step (s : ThreadPool) : Label → Option ThreadPool
  | .start numThread => some (s.start numThread)
  | .spawn => some s.spawn
  | .stop => some s.stop
  | .notifyAll => some s.notifyAll
  | .join => some s.join
  | .clear => some s.clear
  | .run => some s.run
  | .emplaceBack => some s.emplaceBack
  | .notifyOne woken => some (s.notifyOne woken)
  | .wait index => some (s.wait index)
  | .wake index => some (s.setWorker index .locking)
  | .take index => s.take index
  | .endTask index throws => some (s.endTask index throws)

/-- The thread that `stop` joins next has ended. -/
def joinable (s : ThreadPool) : Bool :=
  match s.owner with
  | .joining index => s.threads[index]?.any fun worker => !worker.alive
  | _ => false

/-- What may happen next. Notifying wakes some worker up if one waits, and a worker may also
wake up without being notified. -/
def Enabled (s : ThreadPool) : Label → Prop
  | .start _ | .stop => s.owner = .idle
  | .spawn => s.owner.starts = true
  | .notifyAll => s.owner = .stopping ∧ s.mutex = none
  | .join => s.joinable = true
  | .clear => s.owner = .joining s.threads.length
  | .run => s.mutex = none
  | .emplaceBack => s.mutex = some .caller
  | .notifyOne none => 0 < s.notifying ∧ .waiting ∉ s.threads
  | .notifyOne (some index) => 0 < s.notifying ∧ s.threads[index]? = some .waiting
  | .wait index => s.mutex = none ∧ s.threads[index]? = some .locking
  | .wake index => s.threads[index]? = some .waiting
  | .take index => s.threads[index]? = some .taking
  | .endTask index _ => s.threads[index]?.any Worker.isExecuting = true

instance (s : ThreadPool) : (label : Label) → Decidable (s.Enabled label)
  | .start _ | .stop | .spawn | .join | .clear | .run | .emplaceBack | .wake _ | .take _
  | .endTask .. => decEq _ _
  | .notifyAll | .notifyOne none | .notifyOne (some _) | .wait _ => instDecidableAnd

def system : System ThreadPool Label where
  step := step
  enabled := Enabled

instance (s : ThreadPool) (label : Label) : Decidable (system.enabled s label) :=
  inferInstanceAs (Decidable (s.Enabled label))

/-! ## What a step does -/

/-- The effects of the steps, with what their guards say about the state before. -/
inductive Moves (s : ThreadPool) : Label → ThreadPool → Prop where
  /-- The pool runs already, or does not run, and the call returns or throws. -/
  | refuses {label : Label} (call : label.isCall = true) : Moves s label s
  | startsNone {numThread : Int} (idle : s.owner = .idle) (stopped : s.running = false)
      (unstaffed : numThread ≤ 0) : Moves s (.start numThread) { s with running := true }
  | starts {numThread : Int} {left : Nat} (idle : s.owner = .idle) (stopped : s.running = false) :
      Moves s (.start numThread) { s with running := true, owner := .starting (left + 1) }
  | spawns {left : Nat} (starting : s.owner = .starting (left + 1)) :
      Moves s .spawn { s with
        threads := s.threads ++ [.locking]
        owner := if left = 0 then .idle else .starting left }
  | stops (idle : s.owner = .idle) (running : s.running = true) :
      Moves s .stop { s with running := false, owner := .stopping }
  | notifiesAll (stopping : s.owner = .stopping) (free : s.mutex = none) :
      Moves s .notifyAll { s with
        threads := s.threads.map Worker.notified
        owner := .joining 0 }
  | joins {index : Nat} {worker : Worker} (joining : s.owner = .joining index)
      (found : s.threads[index]? = some worker) (ended : worker.alive = false) :
      Moves s .join { s with owner := .joining (index + 1) }
  | clears (joining : s.owner = .joining s.threads.length) :
      Moves s .clear { s with threads := [], owner := .idle }
  | calls (free : s.mutex = none) (running : s.running = true) :
      Moves s .run { s with mutex := some .caller }
  | emplaces (held : s.mutex = some .caller) : Moves s .emplaceBack s.emplaceBack
  | notifiesNone (notifying : 0 < s.notifying) :
      Moves s (.notifyOne none) { s with notifying := s.notifying - 1 }
  | notifies {index : Nat} (notifying : 0 < s.notifying)
      (waiting : s.threads[index]? = some .waiting) :
      Moves s (.notifyOne (some index))
        { s.setWorker index .locking with notifying := s.notifying - 1 }
  | wakes {index : Nat} (waiting : s.threads[index]? = some .waiting) :
      Moves s (.wake index) (s.setWorker index .locking)
  | waits {index : Nat} (free : s.mutex = none) (locking : s.threads[index]? = some .locking)
      (running : s.running = true) (empty : s.queue = []) :
      Moves s (.wait index) (s.setWorker index .waiting)
  | enters {index : Nat} (free : s.mutex = none) (locking : s.threads[index]? = some .locking)
      (ready : s.running = false ∨ s.queue ≠ []) :
      Moves s (.wait index) { s.setWorker index .taking with mutex := some (.worker index) }
  | leaves {index : Nat} (taking : s.threads[index]? = some .taking)
      (stopped : s.running = false) (empty : s.queue = []) :
      Moves s (.take index) { s.setWorker index .finished with mutex := none }
  | takes {index task : Nat} {rest : List Nat} (taking : s.threads[index]? = some .taking)
      (queue : s.queue = task :: rest) :
      Moves s (.take index) { s.setWorker index (.executing task) with
        queue := rest
        mutex := none
        executed := s.executed ++ [task] }
  | ends {index task : Nat} {throws : Bool}
      (executing : s.threads[index]? = some (.executing task)) :
      Moves s (.endTask index throws) (s.setWorker index (if throws then .crashed else .locking))

section Moves

variable {s next : ThreadPool} {label : Label}

theorem starts_inv {owner : Owner} (starts : owner.starts = true) :
    ∃ left, owner = .starting (left + 1) := by
  cases owner with
  | starting left =>
    cases left with
    | zero => cases starts
    | succ left => exact ⟨left, rfl⟩
  | idle | stopping | joining _ => cases starts

theorem joinable_inv (joinable : s.joinable = true) :
    ∃ index worker, s.owner = .joining index ∧ s.threads[index]? = some worker ∧
      worker.alive = false := by
  unfold ThreadPool.joinable at joinable
  split at joinable
  case h_1 index joining =>
    obtain ⟨worker, found, ended⟩ := (Option.any_eq_true _ _).mp joinable
    exact ⟨index, worker, joining, found, by simpa using ended⟩
  · cases joinable

theorem executing_inv {index : Nat} (executes : s.threads[index]?.any Worker.isExecuting = true) :
    ∃ task, s.threads[index]? = some (.executing task) := by
  obtain ⟨worker, found, executing⟩ := (Option.any_eq_true _ _).mp executes
  cases worker with
  | executing task => exact ⟨task, found⟩
  | locking | waiting | taking | finished | crashed => cases executing

/-- Every step that the guard admits is one of the moves. -/
theorem step_moves (enabled : s.Enabled label) (done : s.step label = some next) :
    s.Moves label next := by
  cases label with
  | start numThread =>
    cases done
    rw [start]
    split_ifs with running unstaffed
    · exact .refuses rfl
    · exact .startsNone enabled (Bool.eq_false_iff.mpr running) unstaffed
    · obtain ⟨left, positive⟩ : ∃ left, numThread.toNat = left + 1 :=
        Nat.exists_eq_succ_of_ne_zero (by omega)
      rw [positive]
      exact .starts enabled (Bool.eq_false_iff.mpr running)
  | spawn =>
    cases done
    obtain ⟨left, starting⟩ := starts_inv enabled
    simp only [spawn, starting]
    exact .spawns starting
  | stop =>
    cases done
    rw [stop]
    split_ifs with running
    · exact .stops enabled running
    · exact .refuses rfl
  | notifyAll =>
    cases done
    exact .notifiesAll enabled.1 enabled.2
  | join =>
    cases done
    obtain ⟨index, worker, joining, found, ended⟩ := joinable_inv enabled
    simp only [join, joining]
    exact .joins joining found ended
  | clear =>
    cases done
    exact .clears enabled
  | run =>
    cases done
    rw [run]
    split_ifs with running
    · exact .calls enabled running
    · exact .refuses rfl
  | emplaceBack =>
    cases done
    exact .emplaces enabled
  | notifyOne woken =>
    cases done
    cases woken with
    | none => exact .notifiesNone enabled.1
    | some index => exact .notifies enabled.1 enabled.2
  | wait index =>
    cases done
    rw [wait]
    split_ifs with blocks
    · exact .waits enabled.1 enabled.2 blocks.1 blocks.2
    · rw [not_and_or, Bool.not_eq_true] at blocks
      exact .enters enabled.1 enabled.2 blocks
  | wake index =>
    cases done
    exact .wakes enabled
  | take index =>
    simp only [step, take] at done
    split_ifs at done with leaves
    · cases done
      exact .leaves enabled (Bool.eq_false_iff.mpr leaves.1) leaves.2
    · split at done
      · cases done
      case h_2 task rest queue =>
        cases done
        exact .takes enabled queue
  | endTask index throws =>
    cases done
    obtain ⟨task, executing⟩ := executing_inv enabled
    exact .ends executing

end Moves

end ThreadPool

end Moban
