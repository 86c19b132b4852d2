import Moban.ConnectorAttempts

/-!
# Trying again

A connector is wedged when it is started, nothing is in progress and nothing will begin a new
attempt. This happens in two ways. A failed attempt needs `shared_from_this` for its timer,
which throws if the base class is not accessible; the source makes it inaccessible, so no
failed attempt is ever tried again. And a fatal error or an established connection leaves
`connect_` set, so that a later `start` has no effect. In the runs in which neither happens, a
failed attempt leaves exactly one timer, whose delay depends on the number of failures only,
and a call of `start` leads to a new attempt.
-/

namespace Moban.Connector

open Channel Runs

/-! ## Failed attempts -/

/-- The step ends an attempt that has failed: with an error of `connect` that is tried again,
an error event, an error of the socket, or a connection of the socket to itself. -/
def Fails (s : Connector) : Label → Prop
  | .attempt _ saveError => connectOutcome saveError = .retry
  | .callback err selfConnect => s.state = .Kconnecting ∧
      (s.turn.head? = some .error ∨
        s.turn.head? = some .write ∧ (err ≠ 0 ∨ selfConnect = true))
  | _ => False

/-- The delay after a number of failures. -/
def delayAfter (failures : Nat) : Nat := min (KInitRetryDelayMs * 2 ^ failures) KMaxRetryDelayMs

/-- The delay of the next timer depends on the number of failures only. -/
def Backoff (s : Connector) : Prop := s.retryDelayMs = delayAfter s.failures

/-- Doubling up to the bound is the bounded power of two. -/
theorem nextDelay_delayAfter (failures : Nat) :
    nextDelay (delayAfter failures) = delayAfter (failures + 1) := by
  unfold nextDelay delayAfter KInitRetryDelayMs KMaxRetryDelayMs
  rw [Nat.pow_succ]
  split <;> omega

section Steps

variable {s next : Connector} {fd : Nat}

theorem retry_wanted (wanted : s.connect_ = true) (accessible : s.accessible = true) :
    s.retry fd = ({ s with
      state := .KDisconnected
      closed := s.closed ++ [fd]
      timers := s.timers ++ [s.retryDelayMs]
      retryDelayMs := nextDelay s.retryDelayMs
      failures := s.failures + 1 }, false) := by
  simp [retry, closeSocket, wanted, accessible]

theorem retry_unwanted (unwanted : s.connect_ = false) :
    s.retry fd = ({ s with state := .KDisconnected, closed := s.closed ++ [fd] }, false) := by
  simp [retry, closeSocket, unwanted]

/-- A failed attempt is retried from a state in which no timer is set. -/
theorem failed_exact {label : Label} (sound : s.Sound) (enabled : s.Enabled label)
    (fails : s.Fails label) :
    ∃ (before : Connector) (fd : Nat) (user : Bool),
      s.step label = some (finish (before.retry fd) user) ∧
      before.connect_ = s.connect_ ∧ before.accessible = s.accessible ∧ before.timers = [] ∧
      before.retryDelayMs = s.retryDelayMs ∧ before.failures = s.failures ∧
      before.escaped = false := by
  cases label with
  | attempt sockfd saveError =>
    obtain ⟨running, inside, _⟩ := enabled
    obtain ⟨user, inside⟩ : ∃ user, s.calls .loop = some (.connecting user) := by
      rcases inside with byUser | byLoop
      · exact ⟨true, byUser⟩
      · exact ⟨false, byLoop⟩
    obtain ⟨holder, held⟩ := sound.held
    have mine := held.calls .loop _ inside rfl
    have untimed : s.timers = [] := by
      by_contra pending
      cases mine.symm.trans (held.timers pending)
    refine ⟨(s.call .loop none).createNonblockingOrDie sockfd, sockfd, user, ?_, rfl, rfl, untimed,
      rfl, rfl, running⟩
    simp [step, attempt, inside, connect, show connectOutcome saveError = .retry from fails]
  | callback err selfConnect =>
    obtain ⟨⟨running, looping⟩, within⟩ := enabled
    obtain ⟨connecting, failure⟩ := fails
    obtain ⟨channel, here, watched⟩ := sound.placed.watched connecting
    obtain ⟨callback, rest, turn⟩ := List.exists_cons_of_ne_nil within
    have removed := removeAndResetChannel_exact (s := { s with turn := rest }) here watched
      (sound.turn_removable within here)
    refine ⟨({ s with turn := rest } : Connector).released channel, channel.fd, false, ?_, rfl,
      rfl, (sound.unclaimed connecting).timers, rfl, rfl, running⟩
    rw [turn, List.head?_cons] at failure
    rcases failure with error | ⟨write, nonzero⟩
    · cases Option.some.inj error
      have handled := handleError_exact (s := { s with turn := rest }) connecting removed
      simp only [step, Connector.callback, turn, handled]
      rfl
    · cases Option.some.inj write
      have handled := handleWrite_exact (s := { s with turn := rest }) connecting removed err
        selfConnect
      have failed : (({ s with turn := rest } : Connector).released channel).writable channel.fd
          err selfConnect = (({ s with turn := rest } : Connector).released channel).retry
          channel.fd := by
        rcases nonzero with nonzero | itself
        · simp [writable, nonzero]
        · simp [writable, itself]
      simp only [step, Connector.callback, turn, handled, failed]
      rfl
  | _ => exact fails.elim

/-- A step that ends no failed attempt leaves the delay alone, or sets it anew. -/
theorem startInLoop_backoff (backoff : s.Backoff) {user : Bool}
    (done : s.startInLoop user = some next) : next.Backoff := by
  obtain ⟨_, _, result⟩ := Option.bind_eq_some_iff.mp done
  cases result
  exact backoff

theorem stopInLoop_backoff (backoff : s.Backoff) (done : s.stopInLoop = some next) :
    next.Backoff := by
  unfold stopInLoop at done
  split at done
  · obtain ⟨⟨removed, sockfd⟩, ended, result⟩ := Option.bind_eq_some_iff.mp done
    obtain ⟨channel, poller, left, _, _, rfl⟩ := removeAndResetChannel_inv ended
    cases result
    exact backoff
  · cases done
    exact backoff

theorem runInLoop_backoff (backoff : s.Backoff) {caller : Caller}
    (done : s.runInLoop caller = some next) : next.Backoff := by
  unfold runInLoop at done
  split at done
  · split at done
    · exact startInLoop_backoff backoff done
    · cases done
      exact backoff
  · split at done
    · exact stopInLoop_backoff (s := s.call caller none) backoff done
    · cases done
      exact backoff
  · cases done

theorem attempt_backoff (backoff : s.Backoff) {saveError : Nat}
    (outcome : connectOutcome saveError ≠ .retry) (done : s.attempt fd saveError = some next) :
    next.Backoff := by
  unfold attempt at done
  split at done
  · obtain ⟨result, connected, returned⟩ := Option.bind_eq_some_iff.mp done
    cases returned
    unfold connect at connected
    split at connected
    · obtain ⟨begun, watched, same⟩ := Option.bind_eq_some_iff.mp connected
      cases same
      obtain ⟨_, poller, channel, _, rfl⟩ := connecting_inv watched
      exact backoff
    · exact absurd ‹_› outcome
    · cases connected
      exact backoff
  · cases done

theorem callback_backoff (backoff : s.Backoff) {err : Nat} {selfConnect : Bool}
    (fails : ¬ s.Fails (.callback err selfConnect))
    (done : s.callback err selfConnect = some next) : next.Backoff := by
  unfold callback at done
  split at done
  · cases done
  case h_2 callback rest turn =>
    split at done
    · cases done
      exact backoff
    · cases done
      exact backoff
    · obtain ⟨handled, handling, _⟩ := Option.bind_eq_some_iff.mp done
      obtain ⟨_, connecting, _⟩ := Option.bind_eq_some_iff.mp handling
      exact absurd ⟨(Option.guard_eq_some' _).mp connecting, .inl (by simp [turn])⟩ fails
    · obtain ⟨handled, handling, result⟩ := Option.bind_eq_some_iff.mp done
      cases result
      unfold handleWrite at handling
      split at handling
      case isTrue connecting =>
        obtain ⟨⟨removed, sockfd⟩, ended, written⟩ := Option.bind_eq_some_iff.mp handling
        cases written
        obtain ⟨channel, poller, left, _, _, rfl⟩ := removeAndResetChannel_inv ended
        have success : ¬ (err ≠ 0 ∨ selfConnect = true) := by
          intro failure
          exact fails ⟨connecting, .inr ⟨by simp [turn], failure⟩⟩
        obtain ⟨noError, other⟩ := not_or.mp success
        unfold writable
        rw [if_neg noError, if_neg other]
        split
        · exact backoff
        · exact backoff
      · obtain ⟨_, _, unchanged⟩ := Option.bind_eq_some_iff.mp handling
        cases unchanged
        exact backoff

theorem runFunctor_backoff (backoff : s.Backoff) (done : s.runFunctor = some next) :
    next.Backoff := by
  unfold runFunctor at done
  split at done
  case h_1 functor rest functors =>
    split at done
    · exact startInLoop_backoff (s := { s with functors := some rest }) backoff done
    · exact stopInLoop_backoff (s := { s with functors := some rest }) backoff done
    · cases done
      exact backoff
  · cases done

end Steps

/-! ## Runs -/

/-- Nothing is in progress: nobody has begun or will begin an attempt, and no connection that
was handed over is live. -/
def Quiescent (s : Connector) : Prop :=
  s.Unclaimed ∧ s.state ≠ .Kconnecting ∧ s.connections = []

/-- The step executes `startInLoop`. -/
def Begins (s : Connector) : Label → Prop
  | .runInLoop caller => caller = .loop ∧ s.calls .loop = some .started
  | .runFunctor => ∃ rest, s.functors = some (.startInLoop :: rest)
  | .retryTimer _ => True
  | _ => False

/-- The condition on a step. Assertions are respected, a failed attempt that is wanted finds
the base class accessible, and a call of `start` while nothing is in progress finds the flag
clear: the last attempt was stopped, and did not end with a fatal error or a connection. -/
def Persistent (s : Connector) (label : Label) : Prop :=
  s.Exclusive label ∧
    (s.Fails label → s.connect_ = true → s.accessible = true) ∧
    (∀ caller, label = .start caller → s.Quiescent → s.connect_ = false)

/-- The steps of a call of `start` that goes on to `runInLoop`. -/
def startSteps (caller : Caller) : List Label :=
  [.start caller, .setConnect caller, .runInLoop caller]

/-- What a step does for the connection. A failed attempt that is wanted leaves one timer and no
exception. A call of `start` while nothing is in progress gets to `connect` in the loop thread,
and queues `startInLoop` from another one. An execution of `startInLoop` calls `connect`, if an
attempt is still wanted. -/
def KeepsTrying (s : Connector) (label : Label) : Prop :=
  (s.Fails label → s.connect_ = true → ∃ next, s.step label = some next ∧
      next.escaped = false ∧ next.timers = [min (500 * 2 ^ s.failures) 30000]) ∧
    (∀ caller, label = .start caller → s.Quiescent →
      system.Valid s (startSteps caller) ∧
      ∃ next, system.run s (startSteps caller) = some next ∧ next.connect_ = true ∧
        if caller = .loop then next.calls .loop = some (.connecting true)
        else .startInLoop ∈ next.backlog) ∧
    (s.Begins label → s.connect_ = true → ∃ next user, s.step label = some next ∧
      next.calls .loop = some (.connecting user))

section Runs

variable {s next : Connector} {label : Label}

/-- A wanted attempt that has failed leaves one timer with the delay of the number of
failures. -/
theorem failed_timer (sound : s.Sound) (backoff : s.Backoff) (enabled : s.Enabled label)
    (fails : s.Fails label) (wanted : s.connect_ = true) (accessible : s.accessible = true) :
    ∃ next, s.step label = some next ∧ next.escaped = false ∧
      next.timers = [delayAfter s.failures] ∧ next.Backoff := by
  obtain ⟨before, fd, user, stepped, connect, base, timers, delay, failures, running⟩ :=
    failed_exact sound enabled fails
  rw [retry_wanted (connect.trans wanted) (base.trans accessible)] at stepped
  refine ⟨_, stepped, ?_, ?_, ?_⟩
  · simp [finish, running]
  · simp only [finish, timers, delay, List.nil_append]
    rw [backoff]
  · simp only [Backoff, finish, delay, failures]
    rw [backoff, nextDelay_delayAfter]

theorem step_backoff (sound : s.Sound) (backoff : s.Backoff) (enabled : s.Enabled label)
    (accessible : s.Fails label → s.connect_ = true → s.accessible = true)
    (done : s.step label = some next) : next.Backoff := by
  by_cases fails : s.Fails label
  · by_cases wanted : s.connect_ = true
    · obtain ⟨reached, stepped, _, _, kept⟩ :=
        failed_timer sound backoff enabled fails wanted (accessible fails wanted)
      cases done.symm.trans stepped
      exact kept
    · obtain ⟨before, fd, user, stepped, connect, _, _, delay, failures, _⟩ :=
        failed_exact sound enabled fails
      rw [retry_unwanted (connect.trans (by simpa using wanted))] at stepped
      cases done.symm.trans stepped
      simp only [Backoff, finish, delay, failures]
      exact backoff
  · cases label with
    | runInLoop caller => exact runInLoop_backoff backoff done
    | attempt sockfd saveError => exact attempt_backoff backoff fails done
    | callback err selfConnect => exact callback_backoff backoff fails done
    | runFunctor => exact runFunctor_backoff backoff done
    | retryTimer delay =>
      exact startInLoop_backoff (s := { s with timers := s.timers.erase delay }) backoff done
    | start caller =>
      cases done
      unfold start
      split
      · exact backoff
      · exact backoff
    | beginTurn =>
      simp only [step, beginTurn] at done
      split at done
      · cases done
      · cases done
        exact backoff
    | _ =>
      cases done
      first | exact backoff | rfl

theorem startInLoop_calls {user : Bool} (done : s.startInLoop user = some next)
    (wanted : s.connect_ = true) : next.calls .loop = some (.connecting user) := by
  obtain ⟨_, _, result⟩ := Option.bind_eq_some_iff.mp done
  cases result
  simp [wanted]

/-- An execution of `startInLoop` that succeeds calls `connect`. -/
theorem begins_calls (begins : s.Begins label) (wanted : s.connect_ = true)
    (done : s.step label = some next) : ∃ user, next.calls .loop = some (.connecting user) := by
  cases label with
  | runInLoop caller =>
    obtain ⟨rfl, started⟩ := begins
    simp only [step, runInLoop, started, EventLoop.isInLoopThread] at done
    exact ⟨true, startInLoop_calls done wanted⟩
  | runFunctor =>
    obtain ⟨rest, functors⟩ := begins
    simp only [step, runFunctor, functors] at done
    exact ⟨false, startInLoop_calls done wanted⟩
  | retryTimer delay => exact ⟨false, startInLoop_calls done wanted⟩
  | _ => exact begins.elim

/-- A call of `start` that finds the flag clear and the connector disconnected. -/
theorem start_initiates {caller : Caller} (may : s.MayCall caller) (clear : s.connect_ = false)
    (disconnected : s.state = .KDisconnected) :
    system.Valid s (startSteps caller) ∧
      ∃ next, system.run s (startSteps caller) = some next ∧ next.connect_ = true ∧
        if caller = .loop then next.calls .loop = some (.connecting true)
        else .startInLoop ∈ next.backlog := by
  cases caller with
  | loop =>
    obtain ⟨⟨running, looping⟩, outside⟩ := may
    simp [startSteps, System.Valid, System.Along, system, step, Enabled, MayCall, Looping, Runs,
      start, clear, setConnect, call, runInLoop, EventLoop.isInLoopThread, startInLoop,
      disconnected, running, looping, outside]
  | thread identifier =>
    have returned : s.calls (.thread identifier) = none := may
    simp [startSteps, System.Valid, System.Along, system, step, Enabled, MayCall, Runs, start,
      clear, setConnect, call, runInLoop, EventLoop.isInLoopThread, queueInLoop, backlog,
      returned]

theorem step_tries (sound : s.Sound) (backoff : s.Backoff) (enabled : s.Enabled label)
    (persistent : s.Persistent label) : s.KeepsTrying label := by
  obtain ⟨exclusive, accessible, clear⟩ := persistent
  refine ⟨?_, ?_, ?_⟩
  · intro fails wanted
    obtain ⟨next, stepped, running, timers, _⟩ :=
      failed_timer sound backoff enabled fails wanted (accessible fails wanted)
    exact ⟨next, stepped, running, timers⟩
  · rintro caller rfl quiescent
    have unset := clear caller rfl quiescent
    obtain ⟨_, disconnected, _⟩ := exclusive.resolve_left (by simp [unset])
    exact start_initiates enabled unset disconnected
  · intro begins wanted
    obtain ⟨next, stepped, _⟩ := step_sound s label sound ⟨enabled, exclusive⟩
    obtain ⟨user, calls⟩ := begins_calls begins wanted stepped
    exact ⟨next, user, stepped, calls⟩

end Runs

/-- In every run whose steps all meet the condition, each step does its part for the
connection.

Proof: the assertions hold in every state, and the delay is that of the number of failures.
Both are kept by every step, and the second one needs the first: a failed attempt has no other
timer. -/
theorem keeps_trying (accessible : Bool) (labels : List Label)
    (valid : system.Valid (new accessible) labels)
    (persistent : system.Along Persistent (new accessible) labels) :
    system.Along KeepsTrying (new accessible) labels := by
  refine System.along_invariant (fun s => s.Sound ∧ s.Backoff) ?_ ?_ (new accessible) labels
    ⟨new_sound accessible, rfl⟩ ((System.along_and _ _ _ _).mpr ⟨valid, persistent⟩)
  · rintro s label next ⟨sound, backoff⟩ ⟨enabled, condition⟩ done
    refine ⟨?_, step_backoff sound backoff enabled condition.2.1 done⟩
    obtain ⟨reached, stepped, kept⟩ := step_sound s label sound ⟨enabled, condition.1⟩
    cases done.symm.trans stepped
    exact kept
  · rintro s label ⟨sound, backoff⟩ ⟨enabled, condition⟩
    exact step_tries sound backoff enabled condition

/-- The first attempt is stopped. The owner starts again when the channel is released, and this
attempt succeeds. -/
def startedAgain : List Label :=
  [.start .loop, .setConnect .loop, .runInLoop .loop, .attempt 5 EINPROGRESS, .stop .loop,
    .runInLoop .loop, .poll [] 0, .endEvents, .runFunctor, .endFunctors, .start .loop,
    .setConnect .loop, .runInLoop .loop, .attempt 6 EINPROGRESS, .poll [6] POLLOUT, .beginTurn,
    .callback 0 false]

/-- Two attempts are refused, with the base class accessible, and the third one succeeds. -/
def persevering : List Label :=
  [.start .loop, .setConnect .loop, .runInLoop .loop, .attempt 5 ECONNREFUSED, .poll [] 0,
    .retryTimer 500, .attempt 6 ENETUNREACH, .retryTimer 1000, .attempt 7 EINPROGRESS,
    .endEvents, .endFunctors, .poll [7] POLLOUT, .beginTurn, .callback 0 false]

/-- Both runs, with the base class as in the source and accessible. -/
theorem keeps_trying_persevering : system.Along KeepsTrying (new false) startedAgain ∧
      system.Along KeepsTrying (new true) persevering := by
  constructor
  · refine keeps_trying false startedAgain (by decide) ?_
    iterate 16
      refine ⟨⟨by
        first
        | trivial
        | exact .inr ⟨⟨by rintro (_ | _) _ ⟨⟩, List.not_mem_nil, rfl⟩, rfl, fun _ => rfl⟩
        | exact fun _ _ _ _ _ _ => .inr List.not_mem_nil, nofun,
        by first | exact fun _ _ _ => rfl | nofun⟩, fun _ stepped => ?_⟩
      cases stepped
    refine ⟨⟨trivial, ?_, nofun⟩, fun _ _ => trivial⟩
    rintro ⟨_, error | ⟨_, failed | itself⟩⟩
    · cases error
    · exact absurd rfl failed
    · cases itself
  · refine keeps_trying true persevering (by decide) ?_
    iterate 14
      refine ⟨⟨by
        first
        | trivial
        | exact .inr ⟨⟨nofun, List.not_mem_nil, rfl⟩, rfl, fun _ => rfl⟩
        | rfl
        | nofun, fun _ _ => rfl, by first | exact fun _ _ _ => rfl | nofun⟩, fun _ stepped => ?_⟩
      cases stepped
    trivial

/-- The first attempt is refused: there is no timer. -/
def refused : List Label :=
  [.start .loop, .setConnect .loop, .runInLoop .loop, .attempt 5 ECONNREFUSED]

/-- The first attempt ends with a fatal error, and the owner starts again: nothing happens. -/
def forbidden : List Label :=
  [.start .loop, .setConnect .loop, .runInLoop .loop, .attempt 5 EACCES, .start .loop]

/-- In both runs the last step does not do its part: the refused attempt leaves no timer, and
the call of `start` finds nothing in progress and has no effect. -/
theorem gives_up :
    (system.Valid (new false) refused ∧ ¬ system.Along KeepsTrying (new false) refused) ∧
      system.Valid (new false) forbidden ∧ ¬ system.Along KeepsTrying (new false) forbidden := by
  refine ⟨⟨by decide, ?_⟩, by decide, ?_⟩
  · rintro ⟨_, later⟩
    obtain ⟨_, later⟩ := later _ rfl
    obtain ⟨_, later⟩ := later _ rfl
    obtain ⟨⟨failed, _, _⟩, _⟩ := later _ rfl
    obtain ⟨next, stepped, _, timers⟩ := failed rfl rfl
    cases stepped
    cases timers
  · rintro ⟨_, later⟩
    obtain ⟨_, later⟩ := later _ rfl
    obtain ⟨_, later⟩ := later _ rfl
    obtain ⟨_, later⟩ := later _ rfl
    obtain ⟨⟨_, started, _⟩, _⟩ := later _ rfl
    refine absurd (started .loop rfl ⟨⟨?_, List.not_mem_nil, rfl⟩, nofun, rfl⟩) ?_
    · rintro (_ | _) call found
      · cases found
      · cases found
    · rintro ⟨⟨_, called⟩, _⟩
      obtain ⟨⟨_, ⟨⟩⟩, _⟩ := called _ rfl

end Moban.Connector
