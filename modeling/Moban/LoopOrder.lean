import Moban.EventLoop

/-!
# The order of queued functors

Functors leave the queue in batches and are called one by one. Appending happens at any
time, by any thread, also while a batch is being called. The functors called so far, the
rest of the batch and the queue are at every moment the functors ever appended, in order;
so nothing is lost, repeated or overtaken, however the threads interleave.
-/

namespace Moban

open Runs

namespace Phase

variable {F : Type}

/-- The loop thread is inside `loop`. -/
def entered : Phase F → Bool
  | .outside => false
  | _ => true

/-- The loop thread is between the two assignments of `doPendingFunctors`. -/
def calling : Phase F → Bool
  | .swapping | .running _ => true
  | _ => false

/-- The loop thread handles the events of a poll. -/
def eventful : Phase F → Bool
  | .handling _ => true
  | _ => false

/-- The part of a batch that has not been called. -/
def functors : Phase F → List (Task F)
  | .running remaining => remaining
  | _ => []

end Phase

namespace EventLoop

variable {F : Type} {s next : EventLoop F}

/-- The position of the loop thread determines the flags. A wakeup channel that was
reported stays readable until it is read, and the loop thread is inside a call only
where user code runs. -/
structure Positioned (s : EventLoop F) : Prop where
  looping : s.looping = s.phase.entered
  calling : s.callingPendingFunctors = s.phase.calling
  handling : s.eventHandling = s.phase.eventful
  readable : s.phase = .handling true → 0 < s.wakeupFd
  idle : s.userCode = false → s.calls .loop = none

theorem loop_exact (idle : s.looping = false) : s.loop = some
      { s with
        looping := true
        quit := if s.started then false else s.quit
        started := true
        phase := .testing } := by
  simp [loop, idle]

theorem handleWakeup_exact (positive : 0 < s.wakeupFd) :
    s.handleWakeup = some { s with wakeupFd := 0, phase := .handling false } := by
  simp [handleWakeup, handleRead, positive]

/-- Completing a call changes the counter, which only grows, and the calls. -/
theorem complete_frame (s : EventLoop F) (caller : Caller) :
    ∃ counter calls returned, s.complete caller =
        { s with wakeupFd := counter, calls := calls, returned := returned } ∧
      s.wakeupFd ≤ counter ∧ (s.calls .loop = none → calls .loop = none) := by
  have cleared : s.calls .loop = none → Function.update s.calls caller none .loop = none := by
    intro free
    rw [Function.update_apply]
    split
    · rfl
    · exact free
  unfold complete
  split
  · exact ⟨s.wakeupFd, s.calls, s.returned, rfl, Nat.le_refl _, fun free => free⟩
  · split
    · exact ⟨_, _, _, rfl, Nat.le_succ _, cleared⟩
    · exact ⟨_, _, _, rfl, Nat.le_refl _, cleared⟩
  · split
    · exact ⟨_, _, _, rfl, Nat.le_succ _, cleared⟩
    · exact ⟨_, _, _, rfl, Nat.le_refl _, cleared⟩

/-- A call that has begun belongs to the loop thread only if user code is running. -/
theorem MayCall.idle {caller : Caller} (may : s.MayCall caller)
    (idle : s.userCode = false → s.calls .loop = none) (call : Call) :
    s.userCode = false → Function.update s.calls caller (some call) .loop = none := by
  intro quiet
  have apart : Caller.loop ≠ caller := by
    rintro rfl
    rw [may.2 rfl] at quiet
    cases quiet
  rw [Function.update_of_ne apart]
  exact idle quiet

theorem initial_positioned : Positioned (initial : EventLoop F) :=
  ⟨rfl, rfl, rfl, nofun, fun _ => rfl⟩

/-- Every admitted step succeeds, and the flags follow the position. -/
theorem step_positioned (s : EventLoop F) (label : Label F) (positioned : Positioned s)
    (enabled : s.Enabled label) : ∃ next, s.step label = some next ∧ Positioned next := by
  obtain ⟨looping, calling, handling, readable, idle⟩ := positioned
  cases label with
  | queueInLoop caller functor =>
    exact ⟨_, rfl, looping, calling, handling, readable, enabled.idle idle _⟩
  | quit caller => exact ⟨_, rfl, looping, calling, handling, readable, enabled.idle idle _⟩
  | complete caller =>
    obtain ⟨counter, calls, returned, exact, grown, cleared⟩ := complete_frame s caller
    refine ⟨_, congrArg some exact, looping, calling, handling, ?_, ?_⟩
    · intro reported
      exact Nat.lt_of_lt_of_le (readable reported) grown
    · intro quiet
      exact cleared (idle quiet)
  | loop =>
    obtain ⟨free, phase⟩ := enabled
    rw [phase] at looping calling handling
    exact ⟨_, loop_exact looping, rfl, calling, handling, nofun, fun _ => free⟩
  | test =>
    have phase : s.phase = .testing := enabled
    have free := idle (by simp [userCode, phase])
    rw [phase] at looping calling handling
    refine ⟨_, rfl, ?_⟩
    unfold test
    split
    · exact ⟨rfl, calling, handling, nofun, fun _ => free⟩
    · exact ⟨looping, calling, handling, nofun, fun _ => free⟩
  | poll ready =>
    obtain ⟨phase, reported⟩ := enabled
    rw [phase] at looping calling handling
    refine ⟨_, rfl, looping, calling, rfl, ?_, nofun⟩
    intro same
    cases same
    exact reported rfl
  | handleWakeup =>
    obtain ⟨free, phase⟩ := enabled
    have exact := handleWakeup_exact (readable phase)
    rw [phase] at looping calling handling
    exact ⟨_, exact, looping, calling, handling, nofun, fun _ => free⟩
  | beginFunctors =>
    obtain ⟨free, phase⟩ := enabled
    rw [phase] at looping
    exact ⟨_, rfl, looping, rfl, rfl, nofun, fun _ => free⟩
  | swapFunctors =>
    have phase : s.phase = .swapping := enabled
    rw [phase] at looping calling handling
    exact ⟨_, rfl, looping, calling, handling, nofun, nofun⟩
  | runFunctor =>
    obtain ⟨free, batch⟩ := enabled
    unfold hasFunctor at batch
    split at batch
    case h_1 task rest phase =>
      rw [phase] at looping calling handling
      refine ⟨_, congrArg some (by simp only [runFunctor, phase]; rfl), ?_⟩
      exact ⟨looping, calling, handling, nofun, nofun⟩
    · cases batch
  | endFunctors =>
    obtain ⟨free, phase⟩ := enabled
    rw [phase] at looping handling
    exact ⟨_, rfl, looping, rfl, handling, nofun, nofun⟩
  | destroyFunctors =>
    obtain ⟨free, phase⟩ := enabled
    rw [phase] at looping calling handling
    exact ⟨_, rfl, looping, calling, handling, nofun, fun _ => free⟩

/-- The account of the queue: functors called, the rest of the batch and the pending ones
are all functors appended so far, numbered in order, and each was appended before the
batch in which it is called was taken out. -/
structure Accounted (s : EventLoop F) : Prop where
  order : s.appended = s.executed.map Prod.fst ++ (s.phase.functors ++ s.pendingFunctors)
  tickets : s.appended.map Task.ticket = List.range s.appended.length
  executed : ∀ call ∈ s.executed, call.1.batch < call.2
  current : ∀ task ∈ s.phase.functors, task.batch < s.batches
  pending : ∀ task ∈ s.pendingFunctors, task.batch ≤ s.batches

/-- The queue, the batch and the history are as they were. -/
structure Unmoved (s next : EventLoop F) : Prop where
  functors : next.phase.functors = s.phase.functors
  pending : next.pendingFunctors = s.pendingFunctors
  appended : next.appended = s.appended
  executed : next.executed = s.executed
  batches : next.batches = s.batches

/-- Only an append, the take-over of the queue and a call move functors. -/
theorem step_unmoved {label : Label F} (enabled : s.Enabled label)
    (stepped : s.step label = some next)
    (notQueued : ∀ caller functor, label ≠ .queueInLoop caller functor)
    (notSwapped : label ≠ .swapFunctors) (notRun : label ≠ .runFunctor) : Unmoved s next := by
  cases label with
  | queueInLoop caller functor => exact absurd rfl (notQueued caller functor)
  | swapFunctors => exact absurd rfl notSwapped
  | runFunctor => exact absurd rfl notRun
  | quit caller =>
    cases stepped
    exact ⟨rfl, rfl, rfl, rfl, rfl⟩
  | complete caller =>
    obtain ⟨_, _, _, exact, _⟩ := complete_frame s caller
    cases (congrArg some exact).symm.trans stepped
    exact ⟨rfl, rfl, rfl, rfl, rfl⟩
  | loop =>
    obtain ⟨_, _, entered⟩ := Option.bind_eq_some_iff.mp stepped
    cases entered
    exact ⟨by rw [enabled.2]; rfl, rfl, rfl, rfl, rfl⟩
  | test =>
    cases stepped
    have phase : s.phase = .testing := enabled
    unfold test
    split <;> exact ⟨by rw [phase]; rfl, rfl, rfl, rfl, rfl⟩
  | poll ready =>
    cases stepped
    exact ⟨by rw [enabled.1]; rfl, rfl, rfl, rfl, rfl⟩
  | handleWakeup =>
    obtain ⟨_, counter, handled⟩ := Option.bind_eq_some_iff.mp stepped
    obtain ⟨_, _, reset⟩ := Option.bind_eq_some_iff.mp counter
    cases reset
    cases handled
    exact ⟨by rw [enabled.2]; rfl, rfl, rfl, rfl, rfl⟩
  | beginFunctors =>
    cases stepped
    exact ⟨by rw [enabled.2]; rfl, rfl, rfl, rfl, rfl⟩
  | endFunctors =>
    cases stepped
    exact ⟨by rw [enabled.2]; rfl, rfl, rfl, rfl, rfl⟩
  | destroyFunctors =>
    cases stepped
    exact ⟨by rw [enabled.2]; rfl, rfl, rfl, rfl, rfl⟩

/-- Steps that move no functors keep the account. -/
theorem Accounted.keep (accounted : Accounted s) (unmoved : Unmoved s next) : Accounted next := by
  obtain ⟨functors, pending, appended, executed, batches⟩ := unmoved
  constructor
  · rw [appended, executed, functors, pending]
    exact accounted.order
  · rw [appended]
    exact accounted.tickets
  · rw [executed]
    exact accounted.executed
  · rw [functors, batches]
    exact accounted.current
  · rw [pending, batches]
    exact accounted.pending

/-- Appending gives the functor the next ticket and puts it behind all others. -/
theorem queueInLoop_accounted (accounted : Accounted s) (caller : Caller)
    (functor : F) : Accounted (s.queueInLoop caller functor) := by
  constructor
  · simp only [queueInLoop]
    rw [← List.append_assoc, ← List.append_assoc, List.append_assoc _ s.phase.functors,
      ← accounted.order]
  · simp only [queueInLoop, List.map_append, List.map_cons, List.map_nil, accounted.tickets,
      List.length_append, List.length_singleton]
    exact List.range_succ.symm
  · exact accounted.executed
  · exact accounted.current
  · intro task member
    rcases List.mem_append.mp member with old | new
    · exact accounted.pending task old
    · rw [List.mem_singleton.mp new]
      exact Nat.le_refl _

/-- Taking a batch out moves the whole queue, and everything in it is older. -/
theorem swapFunctors_accounted (accounted : Accounted s)
    (phase : s.phase = .swapping) : Accounted s.swapFunctors := by
  have order := accounted.order
  rw [phase] at order
  refine ⟨?_, accounted.tickets, accounted.executed, ?_, nofun⟩
  · simpa [swapFunctors, Phase.functors] using order
  · intro task member
    exact Nat.lt_succ_of_le (accounted.pending task member)

/-- Calling a functor moves it from the batch to the end of the history. -/
theorem runFunctor_accounted (accounted : Accounted s)
    (batch : s.hasFunctor = true) : Accounted s.runFunctor := by
  unfold hasFunctor at batch
  split at batch
  case h_1 task rest phase =>
    have order := accounted.order
    have current := accounted.current
    rw [phase] at order current
    simp only [runFunctor, phase]
    refine ⟨?_, accounted.tickets, ?_, ?_, accounted.pending⟩
    · simpa [Phase.functors] using order
    · intro call member
      rcases List.mem_append.mp member with old | new
      · exact accounted.executed call old
      · rw [List.mem_singleton.mp new]
        exact current task List.mem_cons_self
    · intro later member
      exact current later (List.mem_cons_of_mem _ member)
  · cases batch

theorem initial_accounted : Accounted (initial : EventLoop F) :=
  ⟨rfl, rfl, nofun, nofun, nofun⟩

theorem step_accounted {label : Label F} (enabled : s.Enabled label)
    (accounted : Accounted s) (stepped : s.step label = some next) : Accounted next := by
  cases label with
  | queueInLoop caller functor =>
    cases stepped
    exact queueInLoop_accounted accounted caller functor
  | swapFunctors =>
    cases stepped
    exact swapFunctors_accounted accounted enabled
  | runFunctor =>
    cases stepped
    exact runFunctor_accounted accounted enabled.2
  | _ => exact accounted.keep (step_unmoved enabled stepped (by simp) (by simp) (by simp))

/-- The functors still to be called, in order. -/
def backlog (s : EventLoop F) : List F :=
  (s.phase.functors ++ s.pendingFunctors).map Task.functor

theorem queueInLoop_backlog (s : EventLoop F) (caller : Caller) (functor : F) :
    (s.queueInLoop caller functor).backlog = s.backlog ++ [functor] := by
  simp [backlog, queueInLoop]

/-- The next functor of a batch is the first of the backlog. -/
theorem runFunctor_backlog (batch : s.hasFunctor = true) :
    ∃ task, s.phase.functors.head? = some task ∧
      s.backlog = task.functor :: s.runFunctor.backlog := by
  unfold hasFunctor at batch
  split at batch
  case h_1 task rest phase =>
    refine ⟨task, by simp [phase, Phase.functors], ?_⟩
    simp [backlog, runFunctor, phase, Phase.functors]
  · cases batch

/-- No other step of the loop changes the backlog. -/
theorem step_backlog {label : Label F} (enabled : s.Enabled label)
    (stepped : s.step label = some next) (notQueued : ∀ caller functor,
      label ≠ .queueInLoop caller functor) (notRun : label ≠ .runFunctor) :
    next.backlog = s.backlog := by
  by_cases swapped : label = .swapFunctors
  · subst swapped
    cases stepped
    have phase : s.phase = .swapping := enabled
    simp [backlog, swapFunctors, Phase.functors, phase]
  · have unmoved := step_unmoved enabled stepped notQueued swapped notRun
    rw [backlog, unmoved.functors, unmoved.pending, backlog]

/-- Every admitted run succeeds; position and account hold at its end. -/
theorem run_accounted (labels : List (Label F)) (valid : system.Valid initial labels) :
    ∃ s, system.run initial labels = some s ∧ Positioned s ∧ Accounted s := by
  apply System.run_safe (fun s => Positioned s ∧ Accounted s) _ initial labels
    ⟨initial_positioned, initial_accounted⟩ valid
  rintro s label ⟨positioned, accounted⟩ enabled
  obtain ⟨next, stepped, kept⟩ := step_positioned s label positioned enabled
  exact ⟨next, stepped, kept, step_accounted enabled accounted stepped⟩

end EventLoop

end Moban
