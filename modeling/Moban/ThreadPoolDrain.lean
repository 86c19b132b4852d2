import Moban.Tables
import Moban.ThreadPool

/-!
# The pool completes its tasks

A worker leaves its loop only when the pool is stopped and the queue is empty, and after that
no task can be accepted. So as long as a worker is left in its loop, or none is needed any
more, every accepted task is executed before `stop` has joined all workers. A task that
throws ends its worker; if it was the last one, the tasks in the queue are left behind, and
are executed after the pool is started again.
-/

namespace Moban

open Runs

namespace Worker

/-- The steps that a worker of a stopped pool takes at most before it needs another task. -/
def rank : Worker → Nat
  | waiting | executing _ => 3
  | locking => 2
  | taking => 1
  | finished | crashed => 0

end Worker

/-- The steps that are left to a thread in the critical section of `run`, with those for its
task. -/
def Holder.rank : Option Holder → Nat
  | some .caller => 8
  | some (.worker _) | none => 0

variable {index : Nat} {old new : Worker} {threads : List Worker}

namespace Owner

/-- What the position of the starting and stopping thread says about the flag and the
workers. -/
def Fits (running : Bool) (threads : List Worker) : Owner → Prop
  | idle => running = false → threads = []
  | starting _ => running = true
  | stopping => running = false
  | joining index => running = false ∧ index ≤ threads.length ∧ .waiting ∉ threads ∧
      ∀ other < index, ∀ worker, threads[other]? = some worker → worker.alive = false

/-- The steps that are left to the stopping thread. -/
def rank (threads : Nat) : Owner → Nat
  | stopping => threads + 2
  | joining index => threads - index + 1
  | idle | starting _ => 0

/-- A worker moves on from a position in its loop. It blocks only in a pool that runs. -/
theorem Fits.set {running : Bool} {owner : Owner} (fits : Fits running threads owner)
    (found : threads[index]? = some old) (alive : old.alive = true)
    (blocks : new = .waiting → running = true) :
    Fits running (threads.set index new) owner := by
  cases owner with
  | idle =>
    intro stopped
    rw [fits stopped] at found
    cases found
  | starting left => exact fits
  | stopping => exact fits
  | joining joined =>
    obtain ⟨stopped, bound, unblocked, ended⟩ := fits
    refine ⟨stopped, by simpa using bound, fun member => ?_, fun other before worker entry => ?_⟩
    · rcases List.mem_or_eq_of_mem_set member with before | same
      · exact unblocked before
      · cases (blocks same.symm).symm.trans stopped
    · rcases getElem?_set_inv entry with ⟨rfl, _⟩ | ⟨_, kept⟩
      · cases alive.symm.trans (ended other before old found)
      · exact ended other before worker kept

end Owner

namespace ThreadPool

/-- No task is queued, and none can be accepted any more. -/
def Closed (s : ThreadPool) : Prop :=
  s.running = false ∧ s.queue = [] ∧ s.mutex ≠ some .caller

/-- Some worker has not ended. -/
def Staffed (threads : List Worker) : Prop := ∃ worker ∈ threads, worker.alive = true

/-- The condition on a step: the pool is started with a thread, and a task that throws leaves
another worker behind, or there is a thread still to be created, or no worker is needed. -/
def Sustained (s : ThreadPool) : Label → Prop
  | .start numThread => s.running = true ∨ 0 < numThread
  | .endTask index true =>
      Staffed (s.threads.eraseIdx index) ∨ s.owner.starts = true ∨ s.Closed
  | _ => True

instance (threads : List Worker) : Decidable (Staffed threads) :=
  inferInstanceAs (Decidable (∃ _ ∈ _, _))

instance (s : ThreadPool) : Decidable s.Closed := instDecidableAnd

instance (s : ThreadPool) : (label : Label) → Decidable (s.Sustained label)
  | .start _ | .endTask _ true => instDecidableOr
  | .endTask _ false | .spawn | .stop | .notifyAll | .join | .clear | .run | .emplaceBack
  | .notifyOne _ | .wait _ | .wake _ | .take _ => instDecidableTrue

/-- The bookkeeping of the pool, whatever its tasks do. -/
structure Sound (s : ThreadPool) : Prop where
  account : s.executed ++ s.queue = List.range s.accepted
  held : ∀ index, s.mutex = some (.worker index) ↔ s.threads[index]? = some .taking
  ready : ∀ index, s.mutex = some (.worker index) → s.running = false ∨ s.queue ≠ []
  owner : Owner.Fits s.running s.threads s.owner
  finished : .finished ∈ s.threads → s.Closed

theorem initial_sound : Sound initial where
  account := rfl
  held := by simp [initial]
  ready := by simp [initial]
  owner := fun _ => rfl
  finished := by simp [initial]

section Steps

variable {s next : ThreadPool} {label : Label}

/-- The mutex is not involved when a worker changes between positions outside of it. -/
theorem Sound.held_set (sound : s.Sound)
    (found : s.threads[index]? = some old) (before : old ≠ .taking) (after : new ≠ .taking)
    (other : Nat) :
    s.mutex = some (.worker other) ↔ (s.threads.set index new)[other]? = some .taking := by
  rw [sound.held]
  constructor
  · intro taking
    have apart : index ≠ other := by
      rintro rfl
      cases found.symm.trans taking
      exact before rfl
    rwa [List.getElem?_set_ne apart]
  · intro taking
    rcases getElem?_set_inv taking with ⟨_, same⟩ | ⟨_, kept⟩
    · exact absurd same.symm after
    · exact kept

theorem Sound.finished_set (sound : s.Sound) {new : Worker}
    (other : new ≠ .finished) (member : .finished ∈ s.threads.set index new) : s.Closed := by
  rcases List.mem_or_eq_of_mem_set member with before | same
  · exact sound.finished before
  · exact absurd same.symm other

/-- A worker moves on outside of the mutex. -/
theorem Sound.set (sound : s.Sound) {index notifying : Nat}
    (found : s.threads[index]? = some old) (alive : old.alive = true) (before : old ≠ .taking)
    (after : new ≠ .taking) (other : new ≠ .finished) (blocks : new = .waiting → s.running = true) :
    Sound { s.setWorker index new with notifying := notifying } where
  account := sound.account
  held := sound.held_set found before after
  ready := sound.ready
  owner := sound.owner.set found alive blocks
  finished := sound.finished_set other

/-- A worker holds the mutex alone. -/
theorem Sound.alone (sound : s.Sound) {index other : Nat}
    (taking : s.threads[index]? = some .taking) (also : s.threads[other]? = some .taking) :
    other = index := by
  have held := (sound.held index).mpr taking
  cases held.symm.trans ((sound.held other).mpr also)
  rfl

theorem Sound.none_taking (sound : s.Sound) (unheld : ∀ index, s.mutex ≠ some (.worker index))
    (index : Nat) : s.threads[index]? ≠ some .taking :=
  fun taking => unheld index ((sound.held index).mpr taking)

/-- A worker that held the mutex gives it back. -/
theorem Sound.released (sound : s.Sound) {new : Worker}
    (taking : s.threads[index]? = some .taking) (after : new ≠ .taking) (other : Nat) :
    (none : Option Holder) = some (.worker other) ↔
      (s.threads.set index new)[other]? = some .taking := by
  simp only [reduceCtorEq, false_iff]
  intro also
  rcases getElem?_set_inv also with ⟨_, same⟩ | ⟨apart, kept⟩
  · exact after same.symm
  · exact apart (sound.alone taking kept)

/-- A pool that does not run has no workers, and is started by setting the flag. -/
theorem Sound.start (sound : s.Sound) (idle : s.owner = .idle) (stopped : s.running = false)
    {owner : Owner} (fits : Owner.Fits true s.threads owner) :
    Sound { s with running := true, owner := owner } := by
  have unstaffed : s.threads = [] := by
    have before := sound.owner
    rw [idle] at before
    exact before stopped
  refine ⟨sound.account, sound.held, fun index held => ?_, fits, by simp [unstaffed]⟩
  have taking := (sound.held index).mp held
  simp [unstaffed] at taking

theorem Sound.spawn (sound : s.Sound) {owner : Owner} (fits : Owner.Fits s.running
      (s.threads ++ [.locking]) owner) :
    Sound { s with threads := s.threads ++ [.locking], owner := owner } := by
  refine ⟨sound.account, fun index => ?_, sound.ready, fits, fun member => ?_⟩
  · rw [sound.held, List.getElem?_append]
    split_ifs with inside
    · rfl
    · rw [List.getElem?_eq_none (Nat.le_of_not_lt inside)]
      simp [List.getElem?_singleton]
  · exact sound.finished (by simpa using member)

/-- Waking all workers up leaves those alone that do not wait. -/
theorem Sound.notifyAll (sound : s.Sound) (stopped : s.running = false) (free : s.mutex = none) :
    s.notifyAll.Sound := by
  have untaken := sound.none_taking (by simp [free])
  refine ⟨sound.account, fun index => ?_, by simp [ThreadPool.notifyAll, free],
    ⟨stopped, Nat.zero_le _, fun member => ?_, by simp⟩, fun member => ?_⟩
  · simp only [ThreadPool.notifyAll, free, reduceCtorEq, false_iff, List.getElem?_map]
    intro taking
    obtain ⟨worker, found, notified⟩ := Option.map_eq_some_iff.mp taking
    cases worker with
    | taking => exact untaken index found
    | locking | waiting | executing _ | finished | crashed => cases notified
  · obtain ⟨worker, _, notified⟩ := List.mem_map.mp member
    cases worker <;> cases notified
  · obtain ⟨worker, found, notified⟩ := List.mem_map.mp member
    cases worker with
    | finished => exact sound.finished found
    | locking | waiting | taking | executing _ | crashed => cases notified

theorem Sound.join (sound : s.Sound) {worker : Worker}
    (joining : s.owner = .joining index) (found : s.threads[index]? = some worker)
    (ended : worker.alive = false) : Sound { s with owner := .joining (index + 1) } := by
  have fits := sound.owner
  rw [joining] at fits
  obtain ⟨stopped, _, unblocked, before⟩ := fits
  obtain ⟨bound, _⟩ := List.getElem?_eq_some_iff.mp found
  refine ⟨sound.account, sound.held, sound.ready, ⟨stopped, bound, unblocked, ?_⟩, sound.finished⟩
  intro other earlier entry there
  rcases Nat.lt_succ_iff_lt_or_eq.mp earlier with less | rfl
  · exact before other less entry there
  · cases found.symm.trans there
    exact ended

/-- All workers have been joined, so none of them holds the mutex. -/
theorem Sound.clear (sound : s.Sound) (joining : s.owner = .joining s.threads.length) :
    s.clear.Sound := by
  have fits := sound.owner
  rw [joining] at fits
  obtain ⟨stopped, _, _, ended⟩ := fits
  have unheld (index : Nat) : s.mutex ≠ some (.worker index) := by
    intro held
    have taking := (sound.held index).mp held
    obtain ⟨bound, _⟩ := List.getElem?_eq_some_iff.mp taking
    cases ended index bound .taking taking
  refine ⟨sound.account, fun index => ?_, sound.ready, fun _ => rfl, by simp [ThreadPool.clear]⟩
  simp [ThreadPool.clear, unheld index]

/-- The next task is accepted by a thread that holds the mutex. -/
theorem Sound.emplaceBack (sound : s.Sound) (held : s.mutex = some .caller) :
    s.emplaceBack.Sound := by
  have untaken := sound.none_taking (by simp [held])
  refine ⟨?_, fun index => ?_, by simp [ThreadPool.emplaceBack], sound.owner, fun member => ?_⟩
  · simp only [ThreadPool.emplaceBack]
    rw [← List.append_assoc, sound.account, List.range_succ]
  · simp [ThreadPool.emplaceBack, untaken index]
  · exact absurd held (sound.finished member).2.2

/-- A worker locks the mutex and finds a task or a stopped pool. -/
theorem Sound.enter (sound : s.Sound) (free : s.mutex = none)
    (locking : s.threads[index]? = some .locking) (ready : s.running = false ∨ s.queue ≠ []) :
    Sound { s.setWorker index .taking with mutex := some (.worker index) } := by
  have untaken := sound.none_taking (by simp [free])
  refine ⟨sound.account, fun other => ?_, fun _ _ => ready,
    sound.owner.set locking rfl (by simp), fun member => ?_⟩
  · constructor
    · intro held
      cases held
      exact getElem?_set_found locking _
    · intro taking
      rcases getElem?_set_inv taking with ⟨rfl, _⟩ | ⟨_, kept⟩
      · rfl
      · exact absurd kept (untaken other)
  · obtain ⟨stopped, empty, _⟩ := sound.finished_set (by simp) member
    exact ⟨stopped, empty, by simp⟩

/-- A worker takes the first task and unlocks the mutex. -/
theorem Sound.take (sound : s.Sound) {index task : Nat} {rest : List Nat}
    (taking : s.threads[index]? = some .taking) (queue : s.queue = task :: rest) :
    Sound { s.setWorker index (.executing task) with
      queue := rest
      mutex := none
      executed := s.executed ++ [task] } := by
  refine ⟨?_, sound.released taking (by simp), by simp, sound.owner.set taking rfl (by simp),
    fun member => ?_⟩
  · have account := sound.account
    rw [queue] at account
    simpa [setWorker] using account
  · obtain ⟨_, empty, _⟩ := sound.finished_set (by simp) member
    cases queue.symm.trans empty

theorem step_sound (sound : s.Sound) (enabled : s.Enabled label)
    (done : s.step label = some next) : next.Sound := by
  have fits := sound.owner
  cases step_moves enabled done with
  | refuses call => exact sound
  | startsNone idle stopped unstaffed => exact sound.start idle stopped (by simp [Owner.Fits, idle])
  | starts idle stopped => exact sound.start idle stopped rfl
  | @spawns left starting =>
    rw [starting] at fits
    refine sound.spawn ?_
    split_ifs
    · exact fun stopped => absurd (fits.symm.trans stopped) (by simp)
    · exact fits
  | stops idle running =>
    refine ⟨sound.account, sound.held, fun _ _ => .inl rfl, rfl, fun member => ?_⟩
    cases running.symm.trans (sound.finished member).1
  | notifiesAll stopping free =>
    rw [stopping] at fits
    exact sound.notifyAll fits free
  | joins joining found ended => exact sound.join joining found ended
  | clears joining => exact sound.clear joining
  | calls free running =>
    have untaken := sound.none_taking (by simp [free])
    refine ⟨sound.account, fun index => ?_, by simp, fits, fun member => ?_⟩
    · simp [untaken index]
    · cases running.symm.trans (sound.finished member).1
  | emplaces held => exact sound.emplaceBack held
  | notifiesNone notifying =>
    exact ⟨sound.account, sound.held, sound.ready, sound.owner, sound.finished⟩
  | notifies notifying waiting =>
    exact sound.set waiting rfl (by simp) (by simp) (by simp) (by simp)
  | wakes waiting => exact sound.set waiting rfl (by simp) (by simp) (by simp) (by simp)
  | waits free locking running empty =>
    exact sound.set locking rfl (by simp) (by simp) (by simp) fun _ => running
  | enters free locking ready => exact sound.enter free locking ready
  | leaves taking stopped empty =>
    exact ⟨sound.account, sound.released taking (by simp), by simp,
      fits.set taking rfl (by simp), fun _ => ⟨stopped, empty, by simp⟩⟩
  | takes taking queue => exact sound.take taking queue
  | @ends index task throws executing =>
    cases throws with
    | false | true => exact sound.set executing rfl (by simp) (by simp) (by simp) (by simp)

/-- The only failure of the pool would be to take a task out of an empty queue. -/
theorem step_succeeds (sound : s.Sound) (enabled : s.Enabled label) :
    ∃ next, s.step label = some next := by
  cases label with
  | take index =>
    simp only [step, take]
    split_ifs with leaves
    · exact ⟨_, rfl⟩
    · cases queue : s.queue with
      | nil =>
        rcases sound.ready index ((sound.held index).mpr enabled) with stopped | filled
        · simp [stopped, queue] at leaves
        · exact absurd queue filled
      | cons task rest => exact ⟨_, rfl⟩
  | start _ | spawn | stop | notifyAll | join | clear | run | emplaceBack | notifyOne _ | wait _
  | wake _ | endTask _ _ => exact ⟨_, rfl⟩

theorem Sound.executed_nodup (sound : s.Sound) : s.executed.Nodup := by
  have all : (s.executed ++ s.queue).Nodup := by
    rw [sound.account]
    exact List.nodup_range
  exact (List.nodup_append.mp all).1

/-! ## Enough workers -/

/-- There is a worker left for the tasks in the queue, or there will be one, or none is
needed. -/
def Served (s : ThreadPool) : Prop :=
  Staffed s.threads ∨ s.owner.starts = true ∨ s.Closed

theorem Staffed.set (found : threads[index]? = some old) (alive : new.alive = true) :
    Staffed (threads.set index new) :=
  ⟨new, List.mem_of_getElem? (getElem?_set_found found new), alive⟩

theorem Staffed.crashed (staffed : Staffed (threads.eraseIdx index)) (new : Worker) :
    Staffed (threads.set index new) := by
  obtain ⟨worker, member, alive⟩ := staffed
  obtain ⟨other, apart, found⟩ := List.mem_eraseIdx_iff_getElem?.mp member
  refine ⟨worker, List.mem_of_getElem? (i := other) ?_, alive⟩
  rwa [List.getElem?_set_ne (Ne.symm apart)]

theorem step_served (sound : s.Sound) (served : s.Served) (enabled : s.Enabled label)
    (sustained : s.Sustained label) (done : s.step label = some next) : next.Served := by
  have fits := sound.owner
  cases step_moves enabled done with
  | refuses call => exact served
  | startsNone idle stopped unstaffed =>
    rcases sustained with running | positive
    · cases running.symm.trans stopped
    · exact absurd positive (Int.not_lt.mpr unstaffed)
  | starts idle stopped => exact .inr (.inl rfl)
  | spawns starting => exact .inl ⟨.locking, by simp, rfl⟩
  | stops idle running =>
    rcases served with staffed | starts | ⟨stopped, _⟩
    · exact .inl staffed
    · simp [idle, Owner.starts] at starts
    · cases running.symm.trans stopped
  | notifiesAll stopping free =>
    rcases served with ⟨worker, member, alive⟩ | starts | closed
    · refine .inl ⟨worker.notified, List.mem_map_of_mem member, ?_⟩
      cases worker <;> first | rfl | cases alive
    · simp [stopping, Owner.starts] at starts
    · exact .inr (.inr closed)
  | joins joining found ended =>
    rcases served with staffed | starts | closed
    · exact .inl staffed
    · simp [joining, Owner.starts] at starts
    · exact .inr (.inr closed)
  | clears joining =>
    rw [joining] at fits
    obtain ⟨_, _, _, ended⟩ := fits
    rcases served with ⟨worker, member, alive⟩ | starts | closed
    · obtain ⟨index, found⟩ := List.getElem?_of_mem member
      obtain ⟨bound, _⟩ := List.getElem?_eq_some_iff.mp found
      cases alive.symm.trans (ended index bound worker found)
    · simp [joining, Owner.starts] at starts
    · exact .inr (.inr closed)
  | calls free running =>
    rcases served with staffed | starts | ⟨stopped, _⟩
    · exact .inl staffed
    · exact .inr (.inl starts)
    · cases running.symm.trans stopped
  | emplaces held =>
    rcases served with staffed | starts | ⟨_, _, unheld⟩
    · exact .inl staffed
    · exact .inr (.inl starts)
    · exact absurd held unheld
  | notifiesNone notifying => exact served
  | notifies notifying waiting => exact .inl (.set waiting rfl)
  | wakes waiting => exact .inl (.set waiting rfl)
  | waits free locking running empty => exact .inl (.set locking rfl)
  | enters free locking ready => exact .inl (.set locking rfl)
  | leaves taking stopped empty => exact .inr (.inr ⟨stopped, empty, by simp⟩)
  | takes taking queue => exact .inl (.set taking rfl)
  | @ends index task throws executing =>
    cases throws with
    | false => exact .inl (.set executing rfl)
    | true =>
      rcases sustained with staffed | starts | closed
      · exact .inl (staffed.crashed _)
      · exact .inr (.inl starts)
      · exact .inr (.inr closed)

/-- When the pool is stopped, every accepted task was executed once. -/
theorem stopped_drained (sound : s.Sound) (served : s.Served) (stopped : s.running = false)
    (idle : s.owner = .idle) :
    s.queue = [] ∧ s.threads = [] ∧ s.executed = List.range s.accepted := by
  have fits := sound.owner
  rw [idle] at fits
  have unstaffed : s.threads = [] := fits stopped
  have empty : s.queue = [] := by
    rcases served with ⟨worker, member, _⟩ | starts | ⟨_, empty, _⟩
    · simp [unstaffed] at member
    · simp [idle, Owner.starts] at starts
    · exact empty
  have account := sound.account
  rw [empty, List.append_nil] at account
  exact ⟨empty, unstaffed, account⟩

/-! ## The end of `stop` -/

/-- The pool never blocks while it is being stopped: the holder of the mutex moves on, or the
stopping thread, or the worker that it waits for. -/
theorem stopping_proceeds (sound : s.Sound) (stopping : s.owner.stops = true) :
    ∃ label, label.isCall = false ∧ s.Enabled label := by
  have fits := sound.owner
  cases mutex : s.mutex with
  | some holder =>
    cases holder with
    | worker index => exact ⟨.take index, rfl, (sound.held index).mp mutex⟩
    | caller => exact ⟨.emplaceBack, rfl, mutex⟩
  | none =>
    cases owner : s.owner with
    | idle => simp [owner, Owner.stops] at stopping
    | starting left => simp [owner, Owner.stops] at stopping
    | stopping => exact ⟨.notifyAll, rfl, owner, mutex⟩
    | joining index =>
      rw [owner] at fits
      obtain ⟨_, bound, unblocked, _⟩ := fits
      rcases Nat.lt_or_eq_of_le bound with inside | rfl
      · have found := List.getElem?_eq_getElem inside
        cases worker : s.threads[index] with
        | locking => exact ⟨.wait index, rfl, mutex, worker ▸ found⟩
        | waiting => exact absurd (worker ▸ List.getElem_mem inside) unblocked
        | taking => exact absurd (worker ▸ found) (sound.none_taking (by simp [mutex]) index)
        | executing task =>
          refine ⟨.endTask index false, rfl, ?_⟩
          simp [Enabled, found, worker, Worker.isExecuting]
        | finished =>
          refine ⟨.join, rfl, ?_⟩
          simp [Enabled, joinable, owner, found, worker, Worker.alive]
        | crashed =>
          refine ⟨.join, rfl, ?_⟩
          simp [Enabled, joinable, owner, found, worker, Worker.alive]
      · exact ⟨.clear, rfl, owner⟩

/-- A bound on the steps that are left when the pool is stopped. -/
def work (s : ThreadPool) : Nat :=
  6 * s.queue.length + (s.threads.map Worker.rank).sum + s.notifying +
    Holder.rank s.mutex + s.owner.rank s.threads.length

theorem sum_rank_notified (threads : List Worker) :
    ((threads.map Worker.notified).map Worker.rank).sum ≤ (threads.map Worker.rank).sum := by
  rw [List.map_map]
  refine List.sum_le_sum fun worker _ => ?_
  cases worker <;> simp [Worker.notified, Worker.rank]

theorem step_work (sound : s.Sound) (stopped : s.running = false) (enabled : s.Enabled label)
    (own : label.isCall = false) (done : s.step label = some next) :
    next.running = false ∧ next.work < s.work := by
  have fits := sound.owner
  -- The move of one worker changes the sum of the ranks by its own.
  have moved {index : Nat} {old : Worker} (found : s.threads[index]? = some old) (new : Worker) :=
    sum_map_set Worker.rank found new
  cases step_moves enabled done with
  | refuses call => cases own.symm.trans call
  | startsNone | starts | stops | calls => cases own
  | spawns starting =>
    rw [starting] at fits
    cases stopped.symm.trans fits
  | notifiesAll stopping free =>
    have fewer := sum_rank_notified s.threads
    refine ⟨stopped, ?_⟩
    simp only [work, stopping, Owner.rank, List.length_map]
    omega
  | @joins index worker joining found ended =>
    obtain ⟨bound, _⟩ := List.getElem?_eq_some_iff.mp found
    refine ⟨stopped, ?_⟩
    simp only [work, joining, Owner.rank]
    omega
  | clears joining =>
    refine ⟨stopped, ?_⟩
    simp only [work, joining, Owner.rank, List.map_nil, List.sum_nil]
    omega
  | emplaces held =>
    refine ⟨stopped, ?_⟩
    simp only [work, emplaceBack, held, Holder.rank, List.length_append, List.length_singleton]
    omega
  | notifiesNone notifying =>
    refine ⟨stopped, ?_⟩
    simp only [work]
    omega
  | notifies notifying waiting =>
    have lower := moved waiting .locking
    refine ⟨stopped, ?_⟩
    simp only [work, setWorker, List.length_set, Worker.rank] at lower ⊢
    omega
  | wakes waiting =>
    have lower := moved waiting .locking
    refine ⟨stopped, ?_⟩
    simp only [work, setWorker, List.length_set, Worker.rank] at lower ⊢
    omega
  | waits free locking running empty => cases stopped.symm.trans running
  | enters free locking ready =>
    have lower := moved locking .taking
    refine ⟨stopped, ?_⟩
    simp only [work, setWorker, List.length_set, Worker.rank, free, Holder.rank] at lower ⊢
    omega
  | @leaves index taking _ empty =>
    have lower := moved taking .finished
    have held := (sound.held index).mpr taking
    refine ⟨stopped, ?_⟩
    simp only [work, setWorker, List.length_set, Worker.rank, held, Holder.rank] at lower ⊢
    omega
  | @takes index task rest taking queue =>
    have lower := moved taking (.executing task)
    have held := (sound.held index).mpr taking
    refine ⟨stopped, ?_⟩
    simp only [work, setWorker, List.length_set, Worker.rank, held, Holder.rank, queue,
      List.length_cons] at lower ⊢
    omega
  | @ends index task throws executing =>
    have lower := moved executing (if throws then .crashed else .locking)
    have less : Worker.rank (if throws then .crashed else .locking) < 3 := by
      cases throws <;> decide
    refine ⟨stopped, ?_⟩
    simp only [work, setWorker, List.length_set] at lower ⊢
    rw [show Worker.rank (.executing task) = 3 from rfl] at lower
    omega

theorem step_executed (enabled : s.Enabled label) (done : s.step label = some next) :
    s.executed <+: next.executed := by
  cases step_moves enabled done with
  | takes taking queue => exact List.prefix_append _ _
  | _ => exact List.prefix_rfl

end Steps

theorem initial_served : Served initial := .inr (.inr ⟨rfl, rfl, by simp [initial]⟩)

/-- In every run in which the pool is started with a thread and always has a worker left, or
needs none, the pool completes the tasks that it accepts. No task is executed twice. When the
pool is stopped, the queue is empty, no worker is left, and the tasks accepted so far are
exactly those executed; tasks executed later were accepted later. And `stop` returns: while
it is in progress some thread can move on, and without new calls only a bounded number of
steps is possible.

Proof: the executed and the queued tasks are at all times the accepted ones, in order. A worker
finishes only in a stopped pool with an empty queue, which accepts nothing any more; so when
all workers have ended and one of them has finished, nothing is left in the queue. -/
theorem accepted_tasks_completed (before after : List Label)
    (valid : system.Valid initial (before ++ after))
    (sustained : system.Along Sustained initial (before ++ after)) :
    ∃ middle final, system.run initial before = some middle ∧
      system.run middle after = some final ∧
      middle.executed.Nodup ∧
      (middle.running = false → middle.owner = .idle →
        middle.queue = [] ∧ middle.threads = [] ∧
        middle.executed = List.range middle.accepted ∧
        ∃ later, final.executed = middle.executed ++ later ∧
          ∀ task ∈ later, middle.accepted ≤ task) ∧
      (middle.owner.stops = true →
        (∃ label, label.isCall = false ∧ system.enabled middle label) ∧
        ((∀ label ∈ after, label.isCall = false) → after.length ≤ middle.work)) := by
  have along := (System.along_and Enabled Sustained _ _).mpr ⟨valid, sustained⟩
  have progress : ∀ (s : ThreadPool) label, s.Sound ∧ s.Served →
      s.Enabled label ∧ s.Sustained label →
      ∃ next, system.step s label = some next ∧ next.Sound ∧ next.Served := by
    rintro s label ⟨sound, served⟩ ⟨enabled, sustained⟩
    obtain ⟨next, done⟩ := step_succeeds sound enabled
    exact ⟨next, done, step_sound sound enabled done,
      step_served sound served enabled sustained done⟩
  obtain ⟨early, later⟩ := (System.along_append _ _ before after).mp along
  obtain ⟨middle, reached, sound, served⟩ := System.run_safe _ progress initial before
    ⟨initial_sound, initial_served⟩ early
  have rest := later middle reached
  obtain ⟨final, finished, finalSound, _⟩ := System.run_safe _ progress middle after
    ⟨sound, served⟩ rest
  have enabledRest := ((System.along_and Enabled Sustained _ _).mp rest).1
  refine ⟨middle, final, reached, finished, ?_, fun stopped idle => ?_, fun stopping => ?_⟩
  · exact sound.executed_nodup
  · obtain ⟨empty, unstaffed, all⟩ := stopped_drained sound served stopped idle
    obtain ⟨later, grown⟩ := System.run_invariant (fun s => middle.executed <+: s.executed)
      (fun _ _ _ before enabled done => before.trans (step_executed enabled done)) middle final
      after List.prefix_rfl enabledRest finished
    refine ⟨empty, unstaffed, all, later, grown.symm, fun task member => ?_⟩
    have distinct := finalSound.executed_nodup
    rw [← grown, all] at distinct
    by_contra earlier
    exact (List.nodup_append.mp distinct).2.2 task (List.mem_range.mpr (Nat.lt_of_not_le earlier))
      task member rfl
  · refine ⟨stopping_proceeds sound stopping, fun own => ?_⟩
    have stopped : middle.running = false := by
      have fits := sound.owner
      cases owner : middle.owner with
      | idle | starting left => simp [owner, Owner.stops] at stopping
      | stopping | joining index =>
        rw [owner] at fits
        first | exact fits | exact fits.1
    have bounded := System.run_bounded (fun s => s.Sound ∧ s.running = false) work
      (fun _ _ _ invariant admitted done =>
        have lowered := step_work invariant.1 invariant.2 admitted.1 admitted.2 done
        ⟨⟨step_sound invariant.1 admitted.1 done, lowered.1⟩, lowered.2⟩)
      middle final after ⟨sound, stopped⟩
      ((System.along_and Enabled (fun _ label => label.isCall = false) _ _).mpr
        ⟨enabledRest, System.along_forall _ _ own⟩) finished
    exact Nat.le_trans (Nat.le_add_right _ _) bounded

/-- A task throws and ends one of two workers while the pool is being stopped. The other worker
executes the remaining task. -/
def stoppedWhileThrowing : List Label :=
  [.start 2, .spawn, .spawn, .wait 0, .run, .emplaceBack, .notifyOne (some 0), .run, .emplaceBack,
    .notifyOne none, .wait 0, .take 0, .stop, .endTask 0 true, .wait 1, .take 1, .notifyAll,
    .endTask 1 false, .wait 1, .take 1, .join, .join, .clear]

/-- The stopped pool has executed both tasks, and a task that it executes when it is started again
was accepted later. -/
theorem accepted_tasks_completed_throwing :
    ∃ middle final, system.run initial stoppedWhileThrowing = some middle ∧
      system.run middle
        [.start 1, .spawn, .run, .emplaceBack, .notifyOne none, .wait 0, .take 0] = some final ∧
      middle.running = false ∧ middle.owner = .idle ∧ middle.queue = [] ∧ middle.threads = [] ∧
      middle.executed = List.range middle.accepted ∧
      ∃ later, final.executed = middle.executed ++ later ∧
        ∀ task ∈ later, middle.accepted ≤ task := by
  obtain ⟨middle, final, reached, finished, _, drained, _⟩ := accepted_tasks_completed
    stoppedWhileThrowing [.start 1, .spawn, .run, .emplaceBack, .notifyOne none, .wait 0, .take 0]
    (by decide) (by decide)
  have stopped : middle.running = false ∧ middle.owner = .idle := by
    cases reached
    exact ⟨rfl, rfl⟩
  exact ⟨middle, final, reached, finished, stopped.1, stopped.2, drained stopped.1 stopped.2⟩

/-- The only worker is ended by a task that throws, and the pool is stopped with the other task in
its queue. -/
def onlyWorkerThrows : List Label :=
  [.start 1, .spawn, .run, .emplaceBack, .notifyOne none, .run, .emplaceBack, .notifyOne none,
    .wait 0, .take 0, .endTask 0 true, .stop, .notifyAll, .join, .clear]

/-- The task that is left in the queue is executed when the pool is started again. A pool that is
started without threads leaves its task behind as well. -/
theorem throwing_task_abandons_queue : (∃ middle final,
      system.Valid initial onlyWorkerThrows ∧
      system.run initial onlyWorkerThrows = some middle ∧
      middle.running = false ∧ middle.owner = .idle ∧ middle.accepted = 2 ∧
      middle.executed = [0] ∧ middle.queue = [1] ∧
      system.Valid middle [.start 1, .spawn, .wait 0, .take 0] ∧
      system.run middle [.start 1, .spawn, .wait 0, .take 0] = some final ∧
      final.executed = [0, 1]) ∧
    ∃ middle,
      system.Valid initial
        [.start 0, .run, .emplaceBack, .notifyOne none, .stop, .notifyAll, .clear] ∧
      system.run initial
        [.start 0, .run, .emplaceBack, .notifyOne none, .stop, .notifyAll, .clear] = some middle ∧
      middle.running = false ∧ middle.owner = .idle ∧ middle.accepted = 1 ∧
      middle.executed = [] ∧ middle.queue = [0] := by
  constructor
  · exact ⟨_, _, by decide, rfl, rfl, rfl, rfl, rfl, rfl, by decide, rfl, rfl⟩
  · exact ⟨_, by decide, rfl, rfl, rfl, rfl, rfl, rfl⟩

end ThreadPool

end Moban
