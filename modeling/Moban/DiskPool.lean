import Moban.BlockingQueue

/-!
# The disk pool of the FTP server

I/O threads hand tasks to the workers of the pool and never wait. `trySubmit` compares the number
of pending tasks with a bound, then counts its task, and then puts it into the queue. Each of
these is a step of its own, and other threads may do the same in between. A worker takes a task
out of the queue and calls it, and the number is lowered after the task has returned.

A closed queue ends a worker with an exception, which its loop catches. A task that throws an
exception of the same type ends the worker as well. Any other exception leaves the loop
uncaught and ends the process. In both cases the number is not lowered.

The number of pending tasks is unbounded here. A process that has run out of memory is not
considered.
-/

namespace Moban

open Runs

/-- How a task ends. -/
inductive TaskOutcome where
  | returned
  | runtimeError
  | otherException
deriving DecidableEq

structure DiskPool (Task Thread : Type) where
  workers : Finset Thread
  queue : BlockingQueue Task Thread
  pending : Nat
  /-- The calls of `trySubmit` that have found room and not counted their task. -/
  checked : List (Thread × Task)
  /-- The calls of `trySubmit` that have counted their task and not put it into the queue. -/
  counted : List (Thread × Task)
  /-- The workers that are calling a task. -/
  executing : List (Thread × Task)
  /-- The workers that have left their loop. -/
  left : Finset Thread
  /-- The process was ended by an exception. -/
  terminated : Bool

namespace DiskPool

variable {Task Thread : Type}

def kMaxPending : Nat := 256

/-- The pool after its constructor. -/
def initial (workers : Finset Thread) : DiskPool Task Thread where
  workers := workers
  queue := .initial
  pending := 0
  checked := []
  counted := []
  executing := []
  left := ∅
  terminated := false

variable [DecidableEq Task] [DecidableEq Thread]

/-! ## Submitting a task -/

/-- The comparison, after which `trySubmit` returns if there is no room. -/
def check (s : DiskPool Task Thread) (thread : Thread) (task : Task) : DiskPool Task Thread :=
  if s.pending ≥ kMaxPending then s else { s with checked := (thread, task) :: s.checked }

def count (s : DiskPool Task Thread) (thread : Thread) (task : Task) : DiskPool Task Thread :=
  { s with
    pending := s.pending + 1
    checked := s.checked.erase (thread, task)
    counted := (thread, task) :: s.counted }

def put (s : DiskPool Task Thread) (thread : Thread) (task : Task) : DiskPool Task Thread :=
  { s with
    queue := s.queue.put thread task
    counted := s.counted.erase (thread, task) }

/-! ## The loop of a worker -/

/-- The queue when a worker that has waited gets the mutex back. -/
def regained (queue : BlockingQueue Task Thread) (worker : Thread) : BlockingQueue Task Thread :=
  { queue with cv := queue.cv.proceed worker }

/-- A call of `take` that finds the given queue, and what the loop does with the outcome. -/
def take (s : DiskPool Task Thread) (found : BlockingQueue Task Thread) (worker : Thread) :
    Option (DiskPool Task Thread) := do
  let queue ← found.take worker
  match found.q with
  | task :: _ => return { s with queue := queue, executing := (worker, task) :: s.executing }
  | [] =>
      return { s with
        queue := queue
        left := if found.done then insert worker s.left else s.left }

/-- The end of a task. -/
def finish (s : DiskPool Task Thread) (worker : Thread) (task : Task) :
    TaskOutcome → DiskPool Task Thread
  | .returned =>
      { s with pending := s.pending - 1, executing := s.executing.erase (worker, task) }
  | .runtimeError =>
      { s with executing := s.executing.erase (worker, task), left := insert worker s.left }
  | .otherException =>
      { s with
        executing := s.executing.erase (worker, task)
        left := insert worker s.left
        terminated := true }

/-! ## Runs -/

inductive Label (Task Thread : Type) where
  | check (thread : Thread) (task : Task)
  | count (thread : Thread) (task : Task)
  | put (thread : Thread) (task : Task)
  | notifyOne (thread : Thread) (woken : Option Thread)
  | take (worker : Thread)
  | wake (worker : Thread)
  | resume (worker : Thread)
  | finish (worker : Thread) (task : Task) (outcome : TaskOutcome)
  /-- The beginning of the destructor. -/
  | shutdown (thread : Thread)
  | notifyAll (thread : Thread)

/-- The queue takes a step of its own. -/
def onQueue (s : DiskPool Task Thread) (label : BlockingQueue.Label Task Thread) :
    Option (DiskPool Task Thread) :=
  (s.queue.step label).map fun queue => { s with queue := queue }

def step (s : DiskPool Task Thread) : Label Task Thread → Option (DiskPool Task Thread)
  | .check thread task => some (s.check thread task)
  | .count thread task => some (s.count thread task)
  | .put thread task => some (s.put thread task)
  | .notifyOne thread woken => s.onQueue (.notifyOne thread woken)
  | .take worker => s.take s.queue worker
  | .wake worker => s.onQueue (.wake worker)
  | .resume worker => s.take (regained s.queue worker) worker
  | .finish worker task outcome => some (s.finish worker task outcome)
  | .shutdown thread => s.onQueue (.shutdown thread)
  | .notifyAll thread => s.onQueue (.notifyAll thread)

/-- The thread is neither in a call of the pool nor in a task. -/
def Free (s : DiskPool Task Thread) (thread : Thread) : Prop :=
  thread ∉ (s.checked ++ s.counted ++ s.executing).map Prod.fst ∧ s.queue.Free thread

instance (s : DiskPool Task Thread) (thread : Thread) : Decidable (s.Free thread) :=
  instDecidableAnd

/-- What may happen next in a process that has not ended. -/
def Possible (s : DiskPool Task Thread) : Label Task Thread → Prop
  | .check thread _ | .shutdown thread => thread ∉ s.workers ∧ s.Free thread
  | .count thread task => (thread, task) ∈ s.checked
  | .put thread task => (thread, task) ∈ s.counted
  | .notifyOne thread woken => s.queue.Enabled (.notifyOne thread woken)
  | .take worker => worker ∈ s.workers ∧ worker ∉ s.left ∧ s.Free worker
  | .wake worker => s.queue.Enabled (.wake worker)
  | .resume worker => s.queue.Enabled (.resume worker)
  | .finish worker task _ => (worker, task) ∈ s.executing
  | .notifyAll thread => s.queue.Enabled (.notifyAll thread)

instance (s : DiskPool Task Thread) : (label : Label Task Thread) → Decidable (s.Possible label)
  | .check .. | .shutdown _ | .take _ => instDecidableAnd
  | .count thread task => inferInstanceAs (Decidable ((thread, task) ∈ s.checked))
  | .put thread task => inferInstanceAs (Decidable ((thread, task) ∈ s.counted))
  | .notifyOne thread woken =>
      inferInstanceAs (Decidable (s.queue.Enabled (.notifyOne thread woken)))
  | .wake worker => inferInstanceAs (Decidable (s.queue.Enabled (.wake worker)))
  | .resume worker => inferInstanceAs (Decidable (s.queue.Enabled (.resume worker)))
  | .finish worker task _ => inferInstanceAs (Decidable ((worker, task) ∈ s.executing))
  | .notifyAll thread => inferInstanceAs (Decidable (s.queue.Enabled (.notifyAll thread)))

def Enabled (s : DiskPool Task Thread) (label : Label Task Thread) : Prop :=
  s.terminated = false ∧ s.Possible label

def system : System (DiskPool Task Thread) (Label Task Thread) where
  step := step
  enabled := Enabled

instance (s : DiskPool Task Thread) (label : Label Task Thread) :
    Decidable (system.enabled s label) := instDecidableAnd

/-! ## The account -/

/-- The number of tasks that were accepted and have not finished: those that a thread is about to
put into the queue, those in the queue and those that a worker is calling. -/
def unfinished (s : DiskPool Task Thread) : Nat :=
  s.counted.length + s.queue.q.length + s.executing.length

/-- The number of pending tasks is that of the unfinished ones, and within its bound. -/
def Balanced (s : DiskPool Task Thread) : Prop :=
  s.pending = s.unfinished ∧ s.pending ≤ kMaxPending

/-- After the step the pool is balanced, and a worker leaves its loop in the step only if the
queue is shut down and empty. -/
def Accounted (s : DiskPool Task Thread) (label : Label Task Thread) : Prop :=
  ∀ next ∈ s.step label, next.Balanced ∧
    (next.left ≠ s.left → s.queue.done = true ∧ s.queue.q = [])

/-- A task is counted only while there is still room for it, and no task throws. -/
def Orderly (s : DiskPool Task Thread) : Label Task Thread → Prop
  | .count _ _ => s.pending < kMaxPending
  | .finish _ _ outcome => outcome = .returned
  | _ => True

instance (s : DiskPool Task Thread) : DecidablePred s.Orderly
  | .count _ _ => inferInstanceAs (Decidable (s.pending < kMaxPending))
  | .finish .. => decEq _ _
  | .check .. | .put .. | .notifyOne .. | .take _ | .wake _ | .resume _ | .shutdown _
  | .notifyAll _ => instDecidableTrue

/-- What a step does to the account. -/
inductive Accounts (s : DiskPool Task Thread) :
    Label Task Thread → DiskPool Task Thread → Prop where
  | rests {label : Label Task Thread} {next : DiskPool Task Thread} (orderly : s.Orderly label)
      (pending : next.pending = s.pending) (unfinished : next.unfinished = s.unfinished)
      (left : next.left ≠ s.left → s.queue.done = true ∧ s.queue.q = []) : Accounts s label next
  | counts (thread : Thread) (task : Task) :
      Accounts s (.count thread task) (s.count thread task)
  | finishes (worker : Thread) (task : Task) (outcome : TaskOutcome)
      (executing : (worker, task) ∈ s.executing) :
      Accounts s (.finish worker task outcome) (s.finish worker task outcome)

variable {s next : DiskPool Task Thread} {label : Label Task Thread} {workers : Finset Nat}

theorem onQueue_accounts {other : BlockingQueue.Label Task Thread} (orderly : s.Orderly label)
    (same : ∀ queue, s.queue.step other = some queue → queue.q = s.queue.q)
    (done : s.onQueue other = some next) : s.Accounts label next := by
  obtain ⟨queue, stepped, rfl⟩ := Option.map_eq_some_iff.mp done
  refine .rests orderly rfl ?_ fun changed => absurd rfl changed
  simp [unfinished, same queue stepped]

/-- A task that is taken moves from the queue to its worker. -/
theorem take_accounts {found : BlockingQueue Task Thread} {worker : Thread}
    (orderly : s.Orderly label) (same : found.q = s.queue.q) (flag : found.done = s.queue.done)
    (done : s.take found worker = some next) : s.Accounts label next := by
  obtain ⟨queue, taken, made⟩ := Option.bind_eq_some_iff.mp done
  obtain ⟨_, again, takes⟩ := BlockingQueue.take_takes found worker
  cases taken.symm.trans again
  cases takes with
  | waits empty running =>
    simp only [empty, running] at made
    cases made
    refine .rests orderly rfl ?_ fun changed => absurd rfl changed
    simp [unfinished, empty, ← same]
  | throws empty closed =>
    simp only [empty, closed] at made
    cases made
    refine .rests orderly rfl ?_ fun _ => ⟨flag ▸ closed, same ▸ empty⟩
    simp [unfinished, empty, ← same]
  | returns first =>
    simp only [first] at made
    cases made
    refine .rests orderly rfl ?_ fun changed => absurd rfl changed
    simp [unfinished, first, ← same]
    omega

theorem step_accounts (enabled : s.Enabled label) (done : s.step label = some next) :
    s.Accounts label next := by
  obtain ⟨_, possible⟩ := enabled
  cases label with
  | check thread task =>
    cases done
    unfold check
    split
    · exact .rests trivial rfl rfl fun changed => absurd rfl changed
    · exact .rests trivial rfl rfl fun changed => absurd rfl changed
  | count thread task =>
    cases done
    exact .counts thread task
  | put thread task =>
    cases done
    refine .rests trivial rfl ?_ fun changed => absurd rfl changed
    have held : (thread, task) ∈ s.counted := possible
    have positive := List.length_pos_of_mem held
    simp only [unfinished, put, BlockingQueue.put, List.length_append, List.length_singleton,
      List.length_erase_of_mem held]
    omega
  | take worker => exact take_accounts trivial rfl rfl done
  | resume worker => refine take_accounts trivial ?_ ?_ done <;> rfl
  | finish worker task outcome =>
    cases done
    exact .finishes worker task outcome possible
  | notifyOne thread woken | wake worker | shutdown thread | notifyAll thread =>
    refine onQueue_accounts trivial (fun queue stepped => ?_) done
    cases stepped
    rfl

theorem step_succeeds (s : DiskPool Task Thread) (label : Label Task Thread) :
    ∃ next, s.step label = some next := by
  have takes (found : BlockingQueue Task Thread) (worker : Thread) :
      ∃ next, s.take found worker = some next := by
    obtain ⟨queue, taken, _⟩ := BlockingQueue.take_takes found worker
    unfold take
    rw [taken, Option.bind_eq_bind, Option.bind_some]
    split <;> exact ⟨_, rfl⟩
  cases label with
  | take worker => exact takes _ worker
  | resume worker => exact takes _ worker
  | _ => exact ⟨_, rfl⟩

/-- In a pool that is balanced, a step keeps the account exactly if it is orderly.

Proof: a step that moves a task from one place to another keeps both numbers. Counting a task
raises both, and a task that returns lowers both. One that throws only leaves its place. -/
theorem accounted_iff_orderly (balanced : s.Balanced) (enabled : s.Enabled label) :
    s.Accounted label ↔ s.Orderly label := by
  obtain ⟨next, done⟩ := step_succeeds s label
  have here : s.Accounted label ↔ next.Balanced ∧
      (next.left ≠ s.left → s.queue.done = true ∧ s.queue.q = []) := by
    simp [Accounted, done]
  obtain ⟨equal, bounded⟩ := balanced
  rw [here]
  cases step_accounts enabled done with
  | rests orderly pending unfinished left =>
    refine ⟨fun _ => orderly, fun _ => ⟨⟨?_, ?_⟩, left⟩⟩
    · rw [pending, unfinished, equal]
    · rw [pending]
      exact bounded
  | counts thread task =>
    simp only [unfinished] at equal
    simp only [Balanced, unfinished, count, Orderly, List.length_cons]
    constructor
    · rintro ⟨⟨_, within⟩, _⟩
      omega
    · intro room
      exact ⟨⟨by omega, by omega⟩, fun changed => absurd rfl changed⟩
  | finishes worker task outcome executing =>
    have positive := List.length_pos_of_mem executing
    simp only [unfinished] at equal
    cases outcome with
    | returned =>
      refine ⟨fun _ => rfl, fun _ => ⟨⟨?_, ?_⟩, fun changed => absurd rfl changed⟩⟩
      · simp only [unfinished, finish, List.length_erase_of_mem executing]
        omega
      · simp only [finish]
        omega
    | runtimeError | otherException =>
      refine ⟨fun kept => ?_, fun orderly => by cases orderly⟩
      obtain ⟨⟨same, _⟩, _⟩ := kept
      simp only [unfinished, finish, List.length_erase_of_mem executing] at same
      omega

/-- The pool keeps its account in every run in which a task is counted only while there is still
room for it and no task throws, and in no other run.

Proof: in a balanced pool the two conditions on a step are equivalent, and a step that keeps the
account leaves the pool balanced. -/
theorem pool_accounted (workers : Finset Thread) (labels : List (Label Task Thread))
    (valid : system.Valid (initial workers) labels) :
    system.Along Accounted (initial workers) labels ↔
      system.Along Orderly (initial workers) labels := by
  refine System.along_exchange Balanced ?_ ?_ _ labels ⟨rfl, Nat.zero_le _⟩ valid
  · intro s label balanced enabled
    exact accounted_iff_orderly balanced enabled
  · intro s label next _ _ accounted done
    exact (accounted next done).1

/-- Two workers serve two threads, and the pool is then destroyed. -/
def served : List (Label Nat Nat) :=
  [.take 8, .check 0 50, .count 0 50, .check 1 51, .put 0 50, .count 1 51, .notifyOne 0 (some 8),
    .put 1 51, .take 9, .resume 8, .notifyOne 1 none, .finish 8 51 .returned,
    .finish 9 50 .returned, .take 9, .shutdown 2, .notifyAll 2, .take 8, .resume 9]

/-- All tasks are counted, and both workers leave. -/
theorem pool_accounted_served : system.Along Accounted (initial {8, 9}) served ∧
      ∃ final, system.run (initial {8, 9}) served = some final ∧ final.left = {8, 9} :=
  ⟨(pool_accounted {8, 9} served (by decide)).mpr (by decide), _, rfl, by decide⟩

/-! ## Runs that lose the account -/

/-- The workers have not begun to take tasks, and no other thread is in a call. -/
structure Calm (s : DiskPool Task Thread) (workers : Finset Thread) : Prop where
  workers : s.workers = workers
  terminated : s.terminated = false
  checked : s.checked = []
  counted : s.counted = []
  executing : s.executing = []
  taking : s.queue.taking = ∅
  putting : s.queue.putting = ∅
  closing : s.queue.closing = ∅
  waiting : s.queue.cv.waiting = ∅

/-- A call of `trySubmit` that finds room and is not disturbed. -/
def submission (thread : Thread) (task : Task) : List (Label Task Thread) :=
  [.check thread task, .count thread task, .put thread task, .notifyOne thread none]

omit [DecidableEq Task] [DecidableEq Thread] in
theorem Calm.free {workers : Finset Thread} (calm : s.Calm workers) (thread : Thread) :
    s.Free thread := by
  simp [Free, BlockingQueue.Free, calm.checked, calm.counted, calm.executing, calm.taking,
    calm.putting, calm.closing]

theorem Calm.submits {workers : Finset Thread} {thread : Thread} (calm : s.Calm workers)
    (room : s.pending < kMaxPending) (outside : thread ∉ workers) (task : Task) :
    system.Valid s (submission thread task) ∧
      ∃ next, system.run s (submission thread task) = some next ∧ next.Calm workers ∧
        next.pending = s.pending + 1 := by
  have found : s.check thread task = { s with checked := [(thread, task)] } := by
    rw [check, if_neg (by omega), calm.checked]
  have free := calm.free thread
  constructor
  · simp [System.Valid, System.along_cons, submission, system, step, found, Enabled, Possible,
      count, put, onQueue, BlockingQueue.step, BlockingQueue.Enabled, BlockingQueue.put,
      CondVar.Chooses, calm.workers, calm.terminated, calm.waiting, free, outside]
  · refine ⟨_, by simp [submission, system, step, found, onQueue, BlockingQueue.step]; rfl, ?_, rfl⟩
    refine ⟨calm.workers, calm.terminated, ?_, ?_, calm.executing, calm.taking, ?_, calm.closing,
      calm.waiting⟩
    · simp [count, put]
    · simp [count, put, calm.counted]
    · simp [put, count, BlockingQueue.put, BlockingQueue.notifyOne, calm.putting]

/-- As many undisturbed submissions as there is room for. -/
def submissions : Nat → List (Label Nat Nat)
  | 0 => []
  | number + 1 => submissions number ++ submission 0 number

theorem submissions_fill (outside : 0 ∉ workers) (number : Nat) (room : number ≤ kMaxPending) :
    system.Valid (initial workers) (submissions number) ∧
      ∃ next, system.run (initial workers) (submissions number) = some next ∧
        next.Calm workers ∧ next.pending = number := by
  induction number with
  | zero => exact ⟨trivial, _, rfl, ⟨rfl, rfl, rfl, rfl, rfl, rfl, rfl, rfl, rfl⟩, rfl⟩
  | succ number ih =>
    obtain ⟨valid, middle, run, calm, pending⟩ := ih (by omega)
    obtain ⟨here, next, ran, still, more⟩ := calm.submits (by omega) outside number
    refine ⟨(System.along_append _ _ _ _).mpr ⟨valid, ?_⟩, next, ?_, still, by omega⟩
    · intro other same
      cases run.symm.trans same
      exact here
    · rw [submissions, System.run_append, run]
      exact ran

/-- Two threads find room, and both take it. -/
def race : List (Label Nat Nat) := [.check 0 300, .check 1 301, .count 0 300, .count 1 301]

theorem Calm.races {s : DiskPool Nat Nat} (calm : s.Calm workers)
    (first : 0 ∉ workers) (second : 1 ∉ workers) (room : s.pending < kMaxPending) :
    system.Valid s race ∧
      ∃ next, system.run s race = some next ∧ next.pending = s.pending + 2 := by
  have checks (thread task : Nat) (t : DiskPool Nat Nat) (same : t.pending = s.pending) :
      t.check thread task = { t with checked := (thread, task) :: t.checked } := by
    rw [check, if_neg (by omega)]
  have free := calm.free 0
  have other := calm.free 1
  constructor
  · simp [System.Valid, System.along_cons, race, system, step, checks, Enabled, Possible, count,
      calm.workers, calm.terminated, free, first, second]
    simpa [Free, calm.checked] using other
  · exact ⟨_, by simp [race, system, step, checks]; rfl, rfl⟩

theorem race_fills (first : 0 ∉ workers) (second : 1 ∉ workers)
    (number : Nat) (room : number < kMaxPending) :
    ∃ (labels : List (Label Nat Nat)) (final : DiskPool Nat Nat),
      system.Valid (initial workers) labels ∧
        system.run (initial workers) labels = some final ∧ final.pending = number + 2 := by
  obtain ⟨valid, middle, run, calm, pending⟩ := submissions_fill first number room.le
  obtain ⟨here, final, ran, more⟩ := calm.races first second (pending ▸ room)
  refine ⟨submissions number ++ race, final, (System.along_append _ _ _ _).mpr ⟨valid, ?_⟩, ?_,
    by omega⟩
  · intro other same
    cases run.symm.trans same
    exact here
  · rw [System.run_append, run]
    exact ran

/-- A task throws the exception that a worker expects from its queue. -/
def threw : List (Label Nat Nat) := submission 0 70 ++ [.take 8, .finish 8 70 .runtimeError]

/-- Two threads that take the last place together exceed the bound. And a task that throws is
pending for ever, and ends its worker while the queue is open. -/
theorem account_lost : (∃ (labels : List (Label Nat Nat)) (final : DiskPool Nat Nat),
      system.Valid (initial {8}) labels ∧ system.run (initial {8}) labels = some final ∧
        kMaxPending < final.pending) ∧
      system.Valid (initial {8}) threw ∧
        ∃ final, system.run (initial {8}) threw = some final ∧ final.pending = 1 ∧
          final.unfinished = 0 ∧ final.left = {8} ∧ final.queue.done = false := by
  constructor
  · have first : 0 ∉ ({8} : Finset Nat) := by decide
    obtain ⟨labels, final, valid, run, pending⟩ := race_fills first (by decide) 255 (by decide)
    exact ⟨labels, final, valid, run, by rw [pending]; decide⟩
  · exact ⟨by decide, _, rfl, rfl, rfl, rfl, rfl⟩

end DiskPool

end Moban
