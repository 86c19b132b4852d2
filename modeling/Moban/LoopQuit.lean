import Moban.LoopWakeup
import Moban.TcpConnection

/-!
# Leaving the loop

Another thread asks the loop to quit in two steps: it stores the request and then raises the
wakeup counter. In the first run of the loop nothing takes the request back. So the loop
does not sleep on it, and leaves at the next test.

The loop also leaves functors behind. A batch is taken out once in a turn, and a functor
that is appended later waits for the next turn, which a quit request cancels.
-/

namespace Moban

open Runs

namespace Phase

variable {F : Type}

/-- The queue will be taken out before the next test of the quit request. -/
def collects : Phase F → Bool
  | .polling | .handling _ | .swapping => true
  | _ => false

end Phase

namespace EventLoop

variable {F : Type}

/-! ## The quit request -/

/-- The loop is entered only once. -/
def FirstRun (s : EventLoop F) : Label F → Prop
  | .loop => s.started = false
  | _ => True

instance (s : EventLoop F) : (label : Label F) → Decidable (s.FirstRun label)
  | .loop => decEq _ _
  | .queueInLoop .. | .quit _ | .complete _ | .test | .poll _ | .handleWakeup | .beginFunctors
  | .swapFunctors | .runFunctor | .endFunctors | .destroyFunctors => instDecidableTrue

/-- A request that was stored is still there. -/
def Asked (s : EventLoop F) : Prop :=
  ∀ caller, s.calls caller = some .quit → s.quit = true

/-- The loop leaves at the next test, and does not sleep before it. -/
structure Leaving (s : EventLoop F) : Prop where
  quit : s.quit = true
  awake : s.phase = .polling → 0 < s.wakeupFd

/-- A step keeps a request, lowers the counter only to handle events, begins a poll only
without a request, and begins a call of `quit` by storing one. -/
structure Heeds (s next : EventLoop F) : Prop where
  quit : s.quit = true → next.quit = true
  counter : s.wakeupFd ≤ next.wakeupFd ∨ next.phase = .handling false
  polls : next.phase = .polling → s.phase = .polling ∨ s.quit = false
  asks : ∀ caller, next.calls caller = some .quit → s.calls caller = some .quit ∨ next.quit = true

/-- Completing a call begins no other. -/
theorem complete_calls {s : EventLoop F} {caller other : Caller} {call : Call}
    (calling : (s.complete caller).calls other = some call) : s.calls other = some call := by
  have fewer (kept : Function.update s.calls caller none other = some call) :
      s.calls other = some call := by
    rw [Function.update_apply] at kept
    split at kept
    · cases kept
    · exact kept
  unfold complete at calling
  split at calling
  · exact calling
  · split at calling
    · exact fewer calling
    · exact fewer calling
  · split at calling
    · exact fewer calling
    · exact fewer calling

section Steps

variable {s next : EventLoop F} {label : Label F}

/-- A step of the loop thread that changes neither the request, the counter nor the calls. -/
theorem Heeds.moved (quit : next.quit = s.quit) (counter : next.wakeupFd = s.wakeupFd)
    (calls : next.calls = s.calls)
    (polls : next.phase = .polling → s.phase = .polling ∨ s.quit = false) : s.Heeds next where
  quit := fun requested => quit.trans requested
  counter := .inl counter.ge
  polls := polls
  asks := fun _ quitting => .inl (calls ▸ quitting)

theorem step_heeds (enabled : s.Enabled label) (first : s.FirstRun label)
    (stepped : s.step label = some next) : s.Heeds next := by
  cases label with
  | queueInLoop caller functor =>
    cases stepped
    refine ⟨id, .inl (Nat.le_refl _), .inl, fun other quitting => ?_⟩
    simp only [queueInLoop, Function.update_apply] at quitting
    split at quitting
    · cases quitting
    · exact .inl quitting
  | quit caller =>
    cases stepped
    exact ⟨fun _ => rfl, .inl (Nat.le_refl _), .inl, fun _ _ => .inr rfl⟩
  | complete caller =>
    obtain ⟨counter, calls, returned, exact, grown, _⟩ := complete_frame s caller
    cases stepped
    refine ⟨?_, ?_, ?_, fun other quitting => .inl (complete_calls quitting)⟩
    · rw [exact]
      exact id
    · rw [exact]
      exact .inl grown
    · rw [exact]
      exact .inl
  | loop =>
    obtain ⟨_, _, entered⟩ := Option.bind_eq_some_iff.mp stepped
    cases entered
    have fresh : s.started = false := first
    exact .moved (by simp [fresh]) rfl rfl (by simp)
  | test =>
    cases stepped
    by_cases requested : s.quit = true
    · rw [test, if_pos requested]
      exact .moved rfl rfl rfl (by simp)
    · rw [test, if_neg requested]
      exact .moved rfl rfl rfl fun _ => .inr (Bool.eq_false_iff.mpr requested)
  | poll ready =>
    cases stepped
    exact .moved rfl rfl rfl (by simp [poll])
  | handleWakeup =>
    obtain ⟨_, counter, handled⟩ := Option.bind_eq_some_iff.mp stepped
    obtain ⟨_, _, reset⟩ := Option.bind_eq_some_iff.mp counter
    cases reset
    cases handled
    exact ⟨id, .inr rfl, by simp, fun _ => .inl⟩
  | beginFunctors =>
    cases stepped
    exact .moved rfl rfl rfl (by simp [beginFunctors])
  | swapFunctors =>
    cases stepped
    exact .moved rfl rfl rfl (by simp [swapFunctors])
  | runFunctor =>
    cases stepped
    obtain ⟨_, batch⟩ := enabled
    unfold hasFunctor at batch
    split at batch
    case h_1 task rest phase =>
      simp only [runFunctor, phase]
      exact .moved rfl rfl rfl (by simp)
    · cases batch
  | endFunctors =>
    cases stepped
    exact .moved rfl rfl rfl (by simp [endFunctors])
  | destroyFunctors =>
    cases stepped
    exact .moved rfl rfl rfl (by simp [destroyFunctors])

theorem Heeds.leaving (heeds : s.Heeds next) (leaving : s.Leaving) : next.Leaving := by
  refine ⟨heeds.quit leaving.quit, fun polling => ?_⟩
  rcases heeds.polls polling with same | unquit
  · have positive := leaving.awake same
    rcases heeds.counter with grown | handling
    · exact Nat.lt_of_lt_of_le positive grown
    · cases polling.symm.trans handling
  · cases leaving.quit.symm.trans unquit

theorem Heeds.asked (heeds : s.Heeds next) (asked : s.Asked) : next.Asked := by
  intro caller quitting
  rcases heeds.asks caller quitting with begun | requested
  · exact heeds.quit (asked caller begun)
  · exact requested

/-- When `quit` returns, its request is stored and the loop is not asleep: another thread has
raised the counter, and the loop thread itself is in user code. -/
theorem complete_leaving (positioned : s.Positioned) (asked : s.Asked) {caller : Caller}
    (quitting : s.calls caller = some .quit) : (s.complete caller).Leaving := by
  have requested := asked caller quitting
  cases caller with
  | thread identifier =>
    have completed : s.complete (.thread identifier) = wakeup
        { s with calls := Function.update s.calls (.thread identifier) none } := by
      simp [complete, quitting, isInLoopThread]
    rw [completed]
    exact ⟨requested, fun _ => Nat.succ_pos _⟩
  | loop =>
    have completed : s.complete .loop =
        { s with calls := Function.update s.calls .loop none } := by
      simp [complete, quitting, isInLoopThread]
    rw [completed]
    refine ⟨requested, fun polling => ?_⟩
    have phase : s.phase = .polling := polling
    have idle := positioned.idle (by simp [userCode, phase])
    cases idle.symm.trans quitting

end Steps

/-- A request to quit is never lost in the first run of the loop. After a call of `quit` has
returned, made by any thread at any time, the loop is never in a poll with the counter at
zero, and it leaves at the next test.

Proof: a call of `quit` in progress has stored the request, and no step of the first run
takes it back. When the call returns, the counter is raised or the loop thread is not
polling; later the counter falls only where events are handled, and no further poll begins. -/
theorem quit_never_lost (before after : List (Label F)) (caller : Caller)
    (valid : system.Valid initial (before ++ .complete caller :: after))
    (first : system.Along FirstRun initial (before ++ .complete caller :: after))
    (quitting : ∀ s, system.run initial before = some s → s.calls caller = some .quit) :
    ∃ s, system.run initial (before ++ .complete caller :: after) = some s ∧
      (s.phase = .polling → 0 < s.wakeupFd) ∧
      (s.phase = .testing → s.test.phase = .outside ∧ s.test.looping = false) := by
  have along := (System.along_and Enabled FirstRun _ _).mpr ⟨valid, first⟩
  obtain ⟨early, later⟩ := (System.along_append _ _ _ _).mp along
  obtain ⟨middle, reached, positioned, asked⟩ := System.run_safe
    (fun s => Positioned s ∧ Asked s)
    (fun s label ⟨positioned, asked⟩ ⟨enabled, first⟩ => by
      obtain ⟨next, stepped, position⟩ := step_positioned s label positioned enabled
      exact ⟨next, stepped, position, (step_heeds enabled first stepped).asked asked⟩)
    initial before ⟨initial_positioned, by simp [Asked, initial]⟩ early
  obtain ⟨⟨enabled, _⟩, rest⟩ := (System.along_cons _ _ _ _).mp (later middle reached)
  have leaving := complete_leaving positioned asked (quitting middle reached)
  obtain ⟨next, stepped, position⟩ := step_positioned middle (.complete caller) positioned enabled
  cases stepped
  obtain ⟨final, finished, _, leaving⟩ := System.run_safe
    (fun s => Positioned s ∧ Leaving s)
    (fun s label ⟨positioned, leaving⟩ ⟨enabled, first⟩ => by
      obtain ⟨next, stepped, position⟩ := step_positioned s label positioned enabled
      exact ⟨next, stepped, position, (step_heeds enabled first stepped).leaving leaving⟩)
    _ after ⟨position, leaving⟩ (rest _ rfl)
  refine ⟨final, ?_, leaving.awake, fun _ => ?_⟩
  · rw [System.run_append, reached]
    exact finished
  · rw [test, if_pos leaving.quit]
    exact ⟨rfl, rfl⟩

/-- The request comes between the test and the poll, which the raised counter ends. -/
theorem quit_never_lost_polling : ∃ s, system.run (initial : EventLoop Nat)
      [.loop, .test, .quit (.thread 0), .complete (.thread 0), .poll true, .handleWakeup,
        .beginFunctors, .swapFunctors, .endFunctors, .destroyFunctors] = some s ∧
      (s.phase = .polling → 0 < s.wakeupFd) ∧
      (s.phase = .testing → s.test.phase = .outside ∧ s.test.looping = false) :=
  quit_never_lost [.loop, .test, .quit (.thread 0)]
    [.poll true, .handleWakeup, .beginFunctors, .swapFunctors, .endFunctors, .destroyFunctors]
    (.thread 0) (by decide) (by decide) (by
      intro s finished
      cases finished
      rfl)

/-! ## Functors behind a quit request -/

/-- The functor as the queue records it. -/
def task (s : EventLoop F) (functor : F) : Task F where
  ticket := s.appended.length
  functor := functor
  batch := s.batches

/-- A functor was called, is in the batch, or will be in the next one. -/
def Destined (task : Task F) (s : EventLoop F) : Prop :=
  task ∈ s.executed.map Prod.fst ∨ task ∈ s.phase.functors ∨
    task ∈ s.pendingFunctors ∧ s.phase.collects = true

section Destination

variable {s next : EventLoop F} {label : Label F} {task : Task F}

/-- A loop that will collect the queue goes on to do so. -/
theorem step_collects (enabled : s.Enabled label) (stepped : s.step label = some next)
    (notSwapped : label ≠ .swapFunctors) (collects : s.phase.collects = true) :
    next.phase.collects = true := by
  have elsewhere {phase : Phase F} (here : s.phase = phase) (not : phase.collects = false) :
      next.phase.collects = true := by
    rw [here, not] at collects
    cases collects
  cases label with
  | queueInLoop caller functor =>
    cases stepped
    exact collects
  | quit caller =>
    cases stepped
    exact collects
  | complete caller =>
    obtain ⟨_, _, _, exact, _⟩ := complete_frame s caller
    cases (congrArg some exact).symm.trans stepped
    exact collects
  | loop => exact elsewhere enabled.2 rfl
  | test => exact elsewhere enabled rfl
  | poll ready =>
    cases stepped
    rfl
  | handleWakeup =>
    obtain ⟨_, _, handled⟩ := Option.bind_eq_some_iff.mp stepped
    cases handled
    rfl
  | beginFunctors =>
    cases stepped
    rfl
  | swapFunctors => exact absurd rfl notSwapped
  | runFunctor =>
    obtain ⟨_, batch⟩ := enabled
    unfold hasFunctor at batch
    split at batch
    case h_1 task rest phase => exact elsewhere phase rfl
    · cases batch
  | endFunctors => exact elsewhere enabled.2 rfl
  | destroyFunctors => exact elsewhere enabled.2 rfl

theorem step_destined (enabled : s.Enabled label) (destined : s.Destined task)
    (stepped : s.step label = some next) : next.Destined task := by
  cases label with
  | queueInLoop caller functor =>
    cases stepped
    rcases destined with called | current | ⟨pending, collects⟩
    · exact .inl called
    · exact .inr (.inl current)
    · exact .inr (.inr ⟨List.mem_append_left _ pending, collects⟩)
  | swapFunctors =>
    cases stepped
    have phase : s.phase = .swapping := enabled
    rcases destined with called | current | ⟨pending, _⟩
    · exact .inl called
    · rw [phase] at current
      exact absurd current List.not_mem_nil
    · exact .inr (.inl pending)
  | runFunctor =>
    cases stepped
    obtain ⟨_, batch⟩ := enabled
    unfold hasFunctor at batch
    split at batch
    case h_1 first rest phase =>
      simp only [Destined, runFunctor, phase, List.map_append, List.mem_append]
      rcases destined with called | current | ⟨_, collects⟩
      · exact .inl (.inl called)
      · rw [phase] at current
        rcases List.mem_cons.mp current with rfl | later
        · exact .inl (.inr (List.mem_singleton_self _))
        · exact .inr (.inl later)
      · rw [phase] at collects
        cases collects
    · cases batch
  | _ =>
    have unmoved := step_unmoved enabled stepped (by simp) (by simp) (by simp)
    have collects := step_collects enabled stepped (by simp)
    rw [Destined, unmoved.executed, unmoved.functors, unmoved.pending]
    exact Or.imp_right (Or.imp_right (And.imp_right collects)) destined

/-- The history of the queue only grows. -/
theorem step_appended (enabled : s.Enabled label) (stepped : s.step label = some next) :
    s.appended <+: next.appended := by
  cases label with
  | queueInLoop caller functor =>
    cases stepped
    exact List.prefix_append _ _
  | swapFunctors =>
    cases stepped
    exact List.prefix_rfl
  | runFunctor =>
    cases stepped
    unfold runFunctor
    split <;> exact List.prefix_rfl
  | _ => rw [(step_unmoved enabled stepped (by simp) (by simp) (by simp)).appended]

/-- An appended functor is destined to be called if it is not pending or the queue will be
collected. -/
theorem Accounted.destined (accounted : s.Accounted) (appended : task ∈ s.appended)
    (timely : task ∈ s.pendingFunctors → s.phase.collects = true) : s.Destined task := by
  rw [accounted.order, List.mem_append, List.mem_append] at appended
  rcases appended with called | current | pending
  · exact .inl called
  · exact .inr (.inl current)
  · exact .inr (.inr ⟨pending, timely pending⟩)

theorem Destined.called (destined : s.Destined task) (outside : s.phase = .outside) :
    task ∈ s.executed.map Prod.fst := by
  rcases destined with called | current | ⟨_, collects⟩
  · exact called
  · rw [outside] at current
    exact absurd current List.not_mem_nil
  · rw [outside] at collects
    cases collects

end Destination

/-- A functor that a thread queues before it calls `quit` has been called when the loop is
left, if at the call of `quit` it had been taken out of the queue or the loop was between its
test and the swap of the queue. A thread that calls `quit` has returned from `queueInLoop`.

Proof: the functor was appended, so it was called, is in the batch, or is pending. In the
last case the queue is collected before the next test. A batch is called to its end before
the loop can be left. -/
theorem queued_before_quit (before between after : List (Label F)) (caller : Caller)
    (functor : F) (queued : EventLoop F) (reached : system.run initial before = some queued)
    (valid : system.Valid initial
      (before ++ .queueInLoop caller functor :: between ++ .quit caller :: after))
    (timely : ∀ s, system.run initial (before ++ .queueInLoop caller functor :: between) = some s →
      queued.task functor ∈ s.pendingFunctors → s.phase.collects = true) :
    ∃ s, system.run initial
        (before ++ .queueInLoop caller functor :: between ++ .quit caller :: after) = some s ∧
      (s.phase = .outside → queued.task functor ∈ s.executed.map Prod.fst) := by
  obtain ⟨early, later⟩ := (System.along_append _ _ _ _).mp valid
  obtain ⟨middle, quitting, positioned, accounted⟩ := run_accounted _ early
  have appended : queued.task functor ∈ middle.appended := by
    have between' := ((System.along_append _ _ _ _).mp early).2 queued reached
    have finished : system.run (queued.queueInLoop caller functor) between = some middle := by
      rw [System.run_append, reached] at quitting
      exact quitting
    exact System.run_invariant (fun s => queued.task functor ∈ s.appended)
      (fun s label next member enabled stepped => (step_appended enabled stepped).subset member)
      _ middle between (List.mem_append_right _ (List.mem_singleton_self _))
      (((System.along_cons _ _ _ _).mp between').2 _ rfl) finished
  have destined := accounted.destined appended (timely middle quitting)
  obtain ⟨final, finished, _, destined⟩ := System.run_safe
    (fun s => Positioned s ∧ Destined (queued.task functor) s)
    (fun s label ⟨positioned, destined⟩ enabled => by
      obtain ⟨next, stepped, position⟩ := step_positioned s label positioned enabled
      exact ⟨next, stepped, position, step_destined enabled destined stepped⟩)
    middle _ ⟨positioned, destined⟩ (later middle quitting)
  refine ⟨final, ?_, destined.called⟩
  rw [System.run_append, quitting]
  exact finished

/-- The server's thread queues the teardown of a connection while its loop polls. The loop is
woken up, calls it, and is left. -/
theorem queued_before_quit_teardown : ∃ queued s : EventLoop ConnectionFunctor,
      system.run initial [.loop, .test] = some queued ∧
      system.run initial
        [.loop, .test, .queueInLoop (.thread 0) .connnectDestroyed, .complete (.thread 0),
          .quit (.thread 0), .complete (.thread 0), .poll true, .handleWakeup, .beginFunctors,
          .swapFunctors, .runFunctor, .endFunctors, .destroyFunctors, .test] = some s ∧
      (s.phase = .outside → queued.task .connnectDestroyed ∈ s.executed.map Prod.fst) := by
  obtain ⟨queued, reached⟩ : ∃ queued : EventLoop ConnectionFunctor,
    system.run initial [.loop, .test] = some queued := ⟨_, rfl⟩
  obtain ⟨s, finished, called⟩ := queued_before_quit [.loop, .test] [.complete (.thread 0)]
    [.complete (.thread 0), .poll true, .handleWakeup, .beginFunctors, .swapFunctors, .runFunctor,
      .endFunctors, .destroyFunctors, .test] (.thread 0) .connnectDestroyed queued reached
    (by decide) (by
      intro s finished _
      cases finished
      rfl)
  exact ⟨queued, s, reached, finished, called⟩

/-- The server's thread queues the teardown of a connection and quits the loop of that
connection, while the loop is calling a batch. -/
def quitInBatch : List (Label ConnectionFunctor) :=
  [.loop, .test, .queueInLoop (.thread 1) .writeComplete, .complete (.thread 1), .poll true,
    .handleWakeup, .beginFunctors, .swapFunctors, .queueInLoop (.thread 0) .connnectDestroyed,
    .complete (.thread 0), .quit (.thread 0), .complete (.thread 0), .runFunctor, .endFunctors,
    .destroyFunctors, .test]

/-- The loop is left with the teardown in its queue, and so is one that the server's thread quits
before it is entered. -/
theorem quit_abandons_teardown :
    (∃ s, system.Valid initial quitInBatch ∧ system.run initial quitInBatch = some s ∧
      s.phase = .outside ∧ s.executed.map (fun call => call.1.functor) = [.writeComplete] ∧
      s.pendingFunctors.map Task.functor = [.connnectDestroyed]) ∧
    ∃ s, system.Valid (initial : EventLoop ConnectionFunctor)
        [.queueInLoop (.thread 0) .connnectDestroyed, .complete (.thread 0), .quit (.thread 0),
          .complete (.thread 0), .loop, .test] ∧
      system.run (initial : EventLoop ConnectionFunctor)
        [.queueInLoop (.thread 0) .connnectDestroyed, .complete (.thread 0), .quit (.thread 0),
          .complete (.thread 0), .loop, .test] = some s ∧
      s.phase = .outside ∧ s.executed = [] ∧
      s.pendingFunctors.map Task.functor = [.connnectDestroyed] := by
  constructor
  · exact ⟨_, by decide, rfl, by decide, by decide, by decide⟩
  · exact ⟨_, by decide, rfl, by decide, by decide, by decide⟩

end EventLoop

end Moban
