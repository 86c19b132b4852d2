import Moban.TcpRace

/-!
# Shutting the writing side down

The writing side is shut down by `shutdownInLoop`, if the channel does not wait for
writability, or by `handleWrite` when it has emptied the buffer of a connection that was shut
down. In an open connection the channel waits exactly while something is buffered, so that
everything given to the connection before has been accepted by the kernel.

A closed connection has given up what is still in its buffer, and its channel waits for
nothing. A `shutdownInLoop` that another thread has queued before the close still shuts the
writing side down then.
-/

namespace Moban

open Runs

namespace TcpConnection

/-- The user was told that the connection is down. -/
def Over (c : TcpConnection) : Prop := .connection false ∈ c.log

instance (c : TcpConnection) : Decidable c.Over :=
  inferInstanceAs (Decidable (.connection false ∈ c.log))

/-- Everything that was not dropped was accepted by the kernel or is buffered. -/
def Balanced (c : TcpConnection) : Prop := c.accepted ++ c.outputBuffer = kept c.offers

/-- What any step of any thread does to the connection. -/
inductive Change (c : TcpConnection) : TcpConnection → Prop where
  | quiet {next : TcpConnection} (quiet : c.Quiet next) : Change c next
  | sent {next : TcpConnection} {message : List UInt8} {result : WriteResult} {logged : Nat}
      (fits : result.Fits message) (done : c.sendInLoop message result logged = some next) :
      Change c next
  | written {next : TcpConnection} {result : WriteResult} (fits : result.Fits c.outputBuffer)
      (done : c.handleWrite result = some next) : Change c next
  | shutdown : Change c c.shutdown
  | shutdownInLoop : Change c c.shutdownInLoop
  | stored {functors : List ConnectionFunctor} :
      Change c { c with state := .KDisconnecting, functors := functors }

section Changes

variable {c next : TcpConnection}

theorem shutdownInLoop_frame (c : TcpConnection) :
    c.shutdownInLoop.state = c.state ∧ c.shutdownInLoop.accepted = c.accepted ∧
      c.shutdownInLoop.outputBuffer = c.outputBuffer ∧ c.shutdownInLoop.offers = c.offers := by
  rw [shutdownInLoop]
  split_ifs
  all_goals exact ⟨rfl, rfl, rfl, rfl⟩

/-- A shutdown of a connection that is up, or nothing at all. -/
theorem shutdown_cases (c : TcpConnection) :
    (c.state = .KConnected ∧ c.shutdown = { c with state := .KDisconnecting }.shutdownInLoop) ∨
      (c.state ≠ .KConnected ∧ c.shutdown = c) := by
  rw [TcpConnection.shutdown]
  split_ifs with up
  · exact .inl ⟨up, rfl⟩
  · exact .inr ⟨up, rfl⟩

theorem Change.grown (change : c.Change next) : ∃ events, next.log = c.log ++ events := by
  have same {other : TcpConnection} (same : other.log = c.log) :
      ∃ events, other.log = c.log ++ events := ⟨[], by rw [same, List.append_nil]⟩
  cases change with
  | quiet quiet => exact quiet.log.imp fun _ => And.left
  | sent _ done => exact same (sendInLoop_sent done).log
  | written _ done =>
    rcases (handleWrite_inv done).2 with ⟨unchanged, _⟩ | ⟨shut, _⟩
    · exact same unchanged
    · exact ⟨[.shutdownWrite], shut⟩
  | shutdown =>
    rcases c.shutdown_cases with ⟨_, shut⟩ | ⟨_, nothing⟩
    · rw [shut]
      exact ⟨_, shutdownInLoop_log _⟩
    · exact same (by rw [nothing])
  | shutdownInLoop => exact ⟨_, shutdownInLoop_log c⟩
  | stored => exact same rfl

theorem Change.stays_over (change : c.Change next) (down : c.Over) : next.Over := by
  obtain ⟨events, log⟩ := change.grown
  rw [Over, log]
  exact List.mem_append_left _ down

/-- A connection does not come up again. -/
theorem Change.up (change : c.Change next) (up : next.state = .KConnected) :
    c.state = .KConnected := by
  cases change with
  | quiet quiet =>
    rcases quiet.state with same | ⟨down, _⟩
    · rwa [same] at up
    · rw [down] at up
      cases up
  | sent _ done => rwa [(sendInLoop_sent done).state] at up
  | written _ done => rwa [(handleWrite_inv done).1] at up
  | shutdown =>
    rcases c.shutdown_cases with ⟨connected, _⟩ | ⟨_, nothing⟩
    · exact connected
    · rwa [nothing] at up
  | shutdownInLoop => rwa [(shutdownInLoop_frame c).1] at up
  | stored => cases up

/-- A connection that is being shut down stays so until it is reported down. -/
theorem Change.disconnecting (change : c.Change next) (disconnecting : c.state = .KDisconnecting) :
    next.state = .KDisconnecting ∨ next.Over := by
  cases change with
  | quiet quiet =>
    rcases quiet.state with same | ⟨_, down⟩
    · exact .inl (same.trans disconnecting)
    · exact .inr down
  | sent _ done => exact .inl ((sendInLoop_sent done).state.trans disconnecting)
  | written _ done => exact .inl ((handleWrite_inv done).1.trans disconnecting)
  | shutdown =>
    rcases c.shutdown_cases with ⟨connected, _⟩ | ⟨_, nothing⟩
    · rw [disconnecting] at connected
      cases connected
    · exact .inl (by rw [nothing, disconnecting])
  | shutdownInLoop => exact .inl ((shutdownInLoop_frame c).1.trans disconnecting)
  | stored => exact .inl rfl

/-- The buffer of a connection that is being shut down is not emptied without shutting the
writing side down. -/
theorem Change.filled (change : c.Change next) (disconnecting : c.state = .KDisconnecting)
    (filled : c.outputBuffer ≠ []) :
    next.outputBuffer ≠ [] ∨ next.log.count .shutdownWrite ≠ c.log.count .shutdownWrite := by
  cases change with
  | quiet quiet => exact .inl (quiet.outputBuffer ▸ filled)
  | sent _ done =>
    obtain ⟨rest, output⟩ := (sendInLoop_sent done).outputBuffer
    exact .inl (by simp [output, filled])
  | written _ done =>
    rcases (handleWrite_inv done).2 with ⟨_, kept⟩ | ⟨shut, _⟩
    · exact .inl (kept disconnecting filled)
    · exact .inr (by simp [shut])
  | shutdown =>
    rcases c.shutdown_cases with ⟨_, shut⟩ | ⟨_, nothing⟩
    · rw [shut, (shutdownInLoop_frame _).2.2.1]
      exact .inl filled
    · exact .inl (by rwa [nothing])
  | shutdownInLoop => exact .inl (by rwa [(shutdownInLoop_frame c).2.2.1])
  | stored => exact .inl filled

/-- Messages that were taken are not forgotten, and an open connection stays balanced. -/
theorem Change.extends (change : c.Change next) (ready : c.Ready) :
    c.offers <+: next.offers ∧ (c.Balanced → next.Balanced) := by
  have same {other : TcpConnection} (bytes : other.accepted ++ other.outputBuffer =
      c.accepted ++ c.outputBuffer) (offers : other.offers = c.offers) :
      c.offers <+: other.offers ∧ (c.Balanced → other.Balanced) := by
    rw [Balanced, Balanced, bytes, offers]
    exact ⟨List.prefix_rfl, id⟩
  cases change with
  | quiet quiet => exact same (by rw [quiet.accepted, quiet.outputBuffer]) quiet.offers
  | sent fits done =>
    obtain ⟨sent, sends, took⟩ := sendInLoop_took ready fits _
    cases done.symm.trans sends
    refine ⟨⟨_, took.offers.symm⟩, fun balanced => ?_⟩
    rw [Balanced, took.bytes, took.offers, kept_append, balanced]
  | written fits done =>
    obtain ⟨written, writes, moved⟩ := handleWrite_moved ready fits
    cases done.symm.trans writes
    exact same moved.bytes moved.offers
  | shutdown => exact same (shutdown_moved ready).bytes (shutdown_moved ready).offers
  | shutdownInLoop =>
    exact same (shutdownInLoop_moved ready).bytes (shutdownInLoop_moved ready).offers
  | stored => exact same rfl rfl

end Changes

end TcpConnection

variable {label : Label}

namespace Lifecycle

open TcpConnection

theorem Effect.change {s : Lifecycle} {next : TcpConnection}
    (effect : s.Effect next label) (enabled : s.Enabled label) : s.conn.Change next := by
  cases label with
  | callback readv result =>
    rcases effect with quiet | ⟨_, written⟩
    · exact .quiet quiet
    · exact .written enabled.2 written
  | user call =>
    cases call with
    | send message result logged =>
      rw [Effect, TcpConnection.send] at effect
      split_ifs at effect
      · exact .sent enabled effect
      · cases effect
        exact .quiet (.refl _)
    | shutdown =>
      cases effect
      exact .shutdown
    | forceClose =>
      cases effect
      rw [TcpConnection.forceClose]
      split_ifs
      · exact .stored
      · exact .quiet (.refl _)
    | retrieve count => exact .quiet effect
  | poll | turn | endCallbacks | endEvents | closeCallback | removeConnectionInLoop | runFunctor
  | finishDestroy => exact .quiet effect

end Lifecycle

namespace TcpThreads

open TcpConnection

section Steps

variable {s next : TcpThreads} {life : Lifecycle} {queued : Bool}

theorem Turn.change {base : TcpThreads}
    (turn : s.Turn label base life queued) (enabled : s.Enabled label) :
    s.conn.Change life.conn := by
  cases turn with
  | loop stepped => exact (Lifecycle.step_effect stepped).change enabled.2
  | @own functor _ _ _ _ pending ran =>
    have loaded : s.conn.Quiet { s.conn with functors := [functor] } :=
      .of_eq rfl rfl rfl rfl rfl
    exact .quiet (loaded.trans (Lifecycle.runFunctor_quiet ran))
  | @sendInLoop _ message _ _ _ _ pending sends =>
    exact .sent (enabled.2.2.2 message (by rw [nextMessage, pending]; rfl)) sends
  | shutdownInLoop pending => exact .shutdownInLoop

/-- Every step of every thread is one of the changes, up to the functors of the connection. -/
theorem step_change (enabled : s.Enabled label) (done : s.step label = some next) :
    ∃ conn functors, s.conn.Change conn ∧ next.conn = { conn with functors := functors } := by
  have unchanged (life : next.life = s.life) :
      ∃ conn functors, s.conn.Change conn ∧ next.conn = { conn with functors := functors } :=
    ⟨s.conn, s.conn.functors, .quiet (.refl _), by rw [conn, life, conn]⟩
  cases step_moves done with
  | turn turn => exact ⟨_, [], turn.change enabled, rfl⟩
  | begins begun => exact unchanged begun.life
  | stores calling =>
    exact ⟨{ s.conn with state := .KDisconnecting }, s.conn.functors, .stored, rfl⟩
  | sends calling => exact unchanged rfl
  | queues calling other => exact unchanged rfl

/-- How a step comes to shut the writing side down. -/
inductive Halves (s next : TcpThreads) : Label → Prop where
  | drained {readv : Readv} {result : WriteResult} (turn : s.life.nextCallback = some .write)
      (disconnecting : s.conn.state = .KDisconnecting)
      (whole : result.count = s.conn.outputBuffer.length) (empty : next.conn.outputBuffer = []) :
      Halves s next (.loop (.callback readv result))
  | shutdown (up : s.conn.state = .KConnected) (down : next.conn.state ≠ .KConnected)
      (idle : s.conn.channel.isWriting = false)
      (same : next.conn.outputBuffer = s.conn.outputBuffer) :
      Halves s next (.loop (.user .shutdown))
  | functor {result : WriteResult} {logged : Nat} {rest : List LoopFunctor}
      (pending : s.pendingFunctors = .shutdownInLoop :: rest)
      (idle : s.conn.channel.isWriting = false)
      (same : next.conn.outputBuffer = s.conn.outputBuffer) :
      Halves s next (.runFunctor result logged)

/-- The record of a shutdown of the writing side shows the state after the step. -/
structure Records (s next : TcpThreads) (label : Label) (half : HalfClose) : Prop where
  conn : next.conn = { half.conn with functors := [] }
  given : half.given = next.given
  forced : half.forced = next.forced
  halves : Halves s next label
  queued : (∃ result logged, label = .runFunctor result logged) → half.queued = true

/-- Without a shutdown of the writing side, nothing is recorded. -/
theorem settle_same (same : life.conn.log.count .shutdownWrite = s.conn.log.count .shutdownWrite) :
    (s.settle life queued).halfCloses = s.halfCloses :=
  if_pos same

theorem settle_recorded
    (other : life.conn.log.count .shutdownWrite ≠ s.conn.log.count .shutdownWrite) :
    (s.settle life queued).halfCloses =
      s.halfCloses ++ [{ conn := life.conn, given := s.given, forced := s.forced, queued }] :=
  if_neg other

theorem Quiet.count {c next : TcpConnection} (quiet : c.Quiet next) :
    next.log.count .shutdownWrite = c.log.count .shutdownWrite := by
  obtain ⟨events, log, absent⟩ := quiet.log
  rw [log, List.count_append, List.count_eq_zero.mpr absent, Nat.add_zero]

theorem shutdownInLoop_idle {c : TcpConnection}
    (other : c.shutdownInLoop.log.count .shutdownWrite ≠ c.log.count .shutdownWrite) :
    c.channel.isWriting = false := by
  rw [shutdownInLoop_log] at other
  split_ifs at other with writing
  · simp at other
  · simpa using writing

theorem loop_halves {label : Lifecycle.Label} (stepped : s.life.step label = some life)
    (other : life.conn.log.count .shutdownWrite ≠ s.conn.log.count .shutdownWrite) :
    Halves s ((s.note label).settle life false) (.loop label) := by
  have effect := Lifecycle.step_effect stepped
  cases label with
  | callback readv result =>
    rcases effect with quiet | ⟨turn, written⟩
    · exact absurd (Quiet.count quiet) other
    · rcases (handleWrite_inv written).2 with ⟨same, _⟩ | ⟨_, empty, disconnecting, whole⟩
      · exact absurd (by rw [same]; rfl) other
      · exact .drained turn disconnecting whole empty
  | user call =>
    cases call with
    | send message result logged => exact absurd (by rw [(send_sent effect).log]; rfl) other
    | shutdown =>
      rw [Lifecycle.Effect] at effect
      rcases s.life.conn.shutdown_cases with ⟨up, shut⟩ | ⟨_, nothing⟩
      · have made := effect.trans shut
        rw [made] at other
        have idle : s.conn.channel.isWriting = false :=
          shutdownInLoop_idle (c := { s.conn with state := .KDisconnecting }) other
        refine .shutdown up ?_ idle ?_
        · show life.conn.state ≠ .KConnected
          rw [made, (shutdownInLoop_frame _).1]
          nofun
        · show life.conn.outputBuffer = s.conn.outputBuffer
          rw [made, (shutdownInLoop_frame _).2.2.1]
          rfl
      · exact absurd (by rw [effect, nothing]; rfl) other
    | forceClose =>
      rw [Lifecycle.Effect] at effect
      refine absurd ?_ other
      rw [effect, TcpConnection.forceClose]
      split_ifs <;> rfl
    | retrieve count => exact absurd (Quiet.count effect) other
  | poll | turn | endCallbacks | endEvents | closeCallback | removeConnectionInLoop | runFunctor
  | finishDestroy => exact absurd (Quiet.count effect) other

theorem Turn.halves {base : TcpThreads} (turn : s.Turn label base life queued)
    (other : life.conn.log.count .shutdownWrite ≠ s.conn.log.count .shutdownWrite) :
    Halves s (base.settle life queued) label ∧
      ((∃ result logged, label = .runFunctor result logged) → queued = true) := by
  cases turn with
  | loop stepped => exact ⟨loop_halves stepped other, by simp⟩
  | own pending ran => exact absurd (Quiet.count (Lifecycle.runFunctor_quiet ran)) other
  | sendInLoop pending sends => exact absurd (by rw [(sendInLoop_sent sends).log]) other
  | shutdownInLoop pending =>
    exact ⟨.functor pending (shutdownInLoop_idle other) (shutdownInLoop_frame _).2.2.1,
      fun _ => rfl⟩

/-- A step records nothing or one shutdown of the writing side. -/
theorem step_halfCloses (done : s.step label = some next) : (next.halfCloses = s.halfCloses ∧
      next.conn.log.count .shutdownWrite = s.conn.log.count .shutdownWrite) ∨
    ∃ half, next.halfCloses = s.halfCloses ++ [half] ∧ Records s next label half := by
  cases step_moves done with
  | @turn _ base life queued turn =>
    obtain ⟨same, _, halfCloses, _⟩ := turn.frame
    by_cases count : life.conn.log.count .shutdownWrite = s.conn.log.count .shutdownWrite
    · exact .inl ⟨by rw [settle_same (by rw [same, count]), halfCloses], count⟩
    · obtain ⟨halves, functor⟩ := turn.halves count
      exact .inr ⟨_, by rw [settle_recorded (by rwa [same]), halfCloses], rfl, rfl, rfl, halves,
        functor⟩
  | begins begun => exact .inl ⟨begun.halfCloses, by rw [conn, begun.life, conn]⟩
  | stores calling => exact .inl ⟨rfl, rfl⟩
  | sends calling => exact .inl ⟨rfl, rfl⟩
  | queues calling other => exact .inl ⟨rfl, rfl⟩

/-- What holds of the records so far and of the one that a step adds holds of all of them. -/
theorem step_each_half {Holds : HalfClose → Prop} (done : s.step label = some next)
    (earlier : ∀ half ∈ s.halfCloses, Holds half)
    (added : ∀ half, Records s next label half → Holds half) :
    ∀ half ∈ next.halfCloses, Holds half := by
  rcases step_halfCloses done with ⟨kept, _⟩ | ⟨half, appended, recorded⟩
  · rw [kept]
    exact earlier
  · rw [appended]
    intro other member
    rcases List.mem_append.mp member with before | new
    · exact earlier other before
    · cases List.mem_singleton.mp new
      exact added half recorded

end Steps

/-! ## An open connection -/

/-- Until the connection is reported down: it lives, everything given to it is accounted for,
and while it is up nothing has begun to shut it down. -/
structure Flowing (s : TcpThreads) : Prop where
  alive : s.Alive
  balanced : s.conn.Balanced
  fresh : s.conn.state = .KConnected → s.halfCloses = [] ∧
    .shutdownInLoop ∉ s.pendingFunctors ∧ ∀ thread, s.calls thread ≠ some (.shutdown true)

/-- What every step keeps: a connection that is not down is flowing, and its writing side was
shut down with nothing left to send, unless a queued call did so after the close. -/
structure Sane (s : TcpThreads) : Prop where
  down : s.conn.Over → s.conn.state ≠ .KConnected
  flowing : ¬ s.conn.Over → s.Flowing
  halves : ∀ half ∈ s.halfCloses, half.conn.outputBuffer = [] ∨
    (half.queued = true ∧ half.conn.Over)

section Invariant

variable {s next : TcpThreads}

theorem Alive.ready (alive : s.Alive) (up : ¬ s.conn.Over) : s.conn.Ready := by
  rcases alive.living.downs with ⟨ready, _⟩ | ⟨_, one⟩
  · exact ready
  · exact absurd (List.count_pos_iff.mp (one ▸ Nat.one_pos)) up

theorem step_over (enabled : s.Enabled label) (done : s.step label = some next)
    (down : s.conn.Over) : next.conn.Over := by
  obtain ⟨conn, functors, change, same⟩ := step_change enabled done
  rw [same]
  exact change.stays_over down

/-- A call of `shutdownInLoop` is queued only at the end of a shutdown that has stored its
state. -/
theorem step_pending (enabled : s.Enabled label) (done : s.step label = some next)
    (queued : .shutdownInLoop ∈ next.pendingFunctors) :
    .shutdownInLoop ∈ s.pendingFunctors ∨ ∃ thread, s.calls thread = some (.shutdown true) := by
  cases step_moves done with
  | turn turn =>
    simp only [settle, List.mem_append, List.mem_map] at queued
    exact .inl (turn.shorter (queued.resolve_right (by simp)))
  | begins begun => exact .inl (begun.pendingFunctors ▸ queued)
  | stores calling => exact .inl queued
  | sends calling => exact .inl (by simpa [returned] using queued)
  | @queues thread call calling other =>
    simp only [Enabled, About, calling, Option.map_some, Option.some.injEq] at enabled
    cases call with
    | send ticket message => exact absurd rfl (other ticket message)
    | shutdown stored =>
      refine .inr ⟨thread, ?_⟩
      simp only [ThreadCall.stores, Bool.not_eq_false'] at enabled
      rw [calling, enabled]
    | forceClose stored => exact .inl (by simpa [ThreadCall.functor] using queued)

/-- A shutdown that has stored its state has taken the connection down. -/
theorem step_calls (done : s.step label = some next) {thread : Nat}
    (calling : next.calls thread = some (.shutdown true)) :
    s.calls thread = some (.shutdown true) ∨ next.conn.state ≠ .KConnected := by
  cases step_moves done with
  | turn turn => exact .inl (turn.frame.2.1 ▸ calling)
  | begins begun =>
    rcases begun.calls thread _ calling with before | ⟨_, _, sends⟩ | ⟨shuts, _⟩ | ⟨forces, _⟩
    · exact .inl before
    · cases sends
    · cases shuts
    · cases forces
  | stores called => exact .inr (by simp [conn])
  | sends called => exact .inl (update_none_inv calling)
  | queues called other => exact .inl (update_none_inv calling)

theorem step_fresh (enabled : s.Enabled label) (done : s.step label = some next)
    (flowing : s.Flowing) (up : next.conn.state = .KConnected) :
    next.halfCloses = [] ∧ .shutdownInLoop ∉ next.pendingFunctors ∧
      ∀ thread, next.calls thread ≠ some (.shutdown true) := by
  obtain ⟨conn, functors, change, same⟩ := step_change enabled done
  obtain ⟨unrecorded, unqueued, unstored⟩ :=
    flowing.fresh (change.up (by rw [same] at up; exact up))
  refine ⟨?_, fun queued => ?_, fun thread calling => ?_⟩
  · rcases step_halfCloses done with ⟨kept, _⟩ | ⟨half, _, recorded⟩
    · rw [kept, unrecorded]
    · exfalso
      cases recorded.halves with
      | drained _ disconnecting _ _ =>
        rw [change.up (by rw [same] at up; exact up)] at disconnecting
        cases disconnecting
      | shutdown _ down _ _ => exact down up
      | functor pending _ _ => exact unqueued (pending ▸ List.mem_cons_self)
  · rcases step_pending enabled done queued with before | ⟨thread, calling⟩
    · exact unqueued before
    · exact unstored thread calling
  · rcases step_calls done calling with before | down
    · exact unstored thread before
    · exact down up

theorem step_flowing (enabled : s.Enabled label) (done : s.step label = some next)
    (flowing : s.Flowing) (up : ¬ s.conn.Over) : next.Flowing := by
  have ready := flowing.alive.ready up
  have current : s.Current label := by
    cases label with
    | store thread => exact ready.opened
    | loop | runFunctor | send | shutdown | forceClose | queue => trivial
  refine ⟨step_alive s label next flowing.alive ⟨enabled, current⟩ done, ?_,
    step_fresh enabled done flowing⟩
  obtain ⟨conn, functors, change, same⟩ := step_change enabled done
  rw [same]
  exact (change.extends ready).2 flowing.balanced

/-- A new record: nothing is left to send, or the connection was closed before and the call
comes from the queue. -/
theorem records_halves (sane : s.Sane) {half : HalfClose} (recorded : Records s next label half)
    (enabled : s.Enabled label) (done : s.step label = some next) :
    half.conn.outputBuffer = [] ∨ (half.queued = true ∧ half.conn.Over) := by
  have output : half.conn.outputBuffer = next.conn.outputBuffer := by rw [recorded.conn]
  -- An idle channel of an open connection has nothing to write.
  have sent (up : ¬ s.conn.Over) (idle : s.conn.channel.isWriting = false) :
      s.conn.outputBuffer = [] := by
    by_contra filled
    have writing := ((sane.flowing up).alive.ready up).writing.mpr filled
    rw [idle] at writing
    cases writing
  cases recorded.halves with
  | drained _ _ _ empty => exact .inl (output.trans empty)
  | shutdown up _ idle same =>
    exact .inl (output.trans (same.trans (sent (fun down => sane.down down up) idle)))
  | functor pending idle same =>
    by_cases down : s.conn.Over
    · refine .inr ⟨recorded.queued ⟨_, _, rfl⟩, ?_⟩
      have nextDown := step_over enabled done down
      rw [recorded.conn] at nextDown
      exact nextDown
    · exact .inl (output.trans (same.trans (sent down idle)))

theorem step_sane (s : TcpThreads) (label : Label) (next : TcpThreads) (sane : s.Sane)
    (enabled : s.Enabled label) (done : s.step label = some next) : next.Sane := by
  obtain ⟨conn, functors, change, same⟩ := step_change enabled done
  refine ⟨fun down up => ?_, fun up => ?_, ?_⟩
  · by_cases before : s.conn.Over
    · exact sane.down before (change.up (by rw [same] at up; exact up))
    · have alive := (step_flowing enabled done (sane.flowing before) before).alive
      rcases alive.living.downs with ⟨_, notDown⟩ | ⟨closed, _⟩
      · exact List.count_eq_zero.mp notDown down
      · cases closed.down.symm.trans up
  · have before : ¬ s.conn.Over := fun down => up (step_over enabled done down)
    exact step_flowing enabled done (sane.flowing before) before
  · exact step_each_half done sane.halves fun half recorded =>
      records_halves sane recorded enabled done

end Invariant

/-! ## Everything is sent before the writing side is shut down -/

/-- Since `start`: messages are not forgotten, and what was taken before was accepted before
the writing side of an open connection was shut down. -/
structure Since (start s : TcpThreads) : Prop where
  sane : s.Sane
  offers : ¬ s.conn.Over → start.conn.offers <+: s.conn.offers
  accepted : ∀ half ∈ s.halfCloses, half.conn.Over ∨
    kept start.conn.offers <+: half.conn.accepted

/-- The step executes `shutdownInLoop` for a call of `shutdown`: in the loop thread at once,
for another thread from the queue. -/
def Shuts (s : TcpThreads) (label : Label) : Prop :=
  (label = .loop (.user .shutdown) ∧ s.conn.state = .KConnected) ∨
    ∃ result logged, label = .runFunctor result logged ∧
      s.pendingFunctors.head? = some .shutdownInLoop

/-- The connection is down, or it waits for its buffer, or its writing side was shut down. -/
def Ending (s : TcpThreads) : Prop :=
  s.conn.Over ∨
    (s.conn.state = .KDisconnecting ∧ (s.halfCloses ≠ [] ∨ s.conn.outputBuffer ≠ []))

section Sending

variable {s next : TcpThreads}

theorem kept_grows {before after : List Offer} (grown : before <+: after) :
    kept before <+: kept after := by
  obtain ⟨rest, rfl⟩ := grown
  exact ⟨kept rest, by simp [kept]⟩

/-- In an open connection, everything that was taken has been accepted when the writing side is
shut down. -/
theorem records_accepted (sane : s.Sane) {half : HalfClose} (recorded : Records s next label half)
    (enabled : s.Enabled label) (done : s.step label = some next) (up : ¬ half.conn.Over) :
    half.conn.accepted = kept half.conn.offers := by
  have empty : half.conn.outputBuffer = [] :=
    (records_halves sane recorded enabled done).resolve_right fun queued => up queued.2
  have notOver : ¬ next.conn.Over := by
    rw [recorded.conn]
    exact up
  have balanced := ((step_sane s label next sane enabled done).flowing notOver).balanced
  rw [TcpConnection.Balanced, recorded.conn] at balanced
  rw [← balanced, empty, List.append_nil]

theorem step_since (start s : TcpThreads) (label : Label) (next : TcpThreads)
    (since : start.Since s) (enabled : s.Enabled label) (done : s.step label = some next) :
    start.Since next := by
  have grown (up : ¬ next.conn.Over) : start.conn.offers <+: next.conn.offers := by
    have before : ¬ s.conn.Over := fun down => up (step_over enabled done down)
    have ready := (since.sane.flowing before).alive.ready before
    obtain ⟨conn, functors, change, same⟩ := step_change enabled done
    rw [same]
    exact (since.offers before).trans (change.extends ready).1
  refine ⟨step_sane s label next since.sane enabled done, grown, ?_⟩
  refine step_each_half done since.accepted fun half recorded => ?_
  by_cases down : half.conn.Over
  · exact .inl down
  · have up : ¬ next.conn.Over := by
      rw [recorded.conn]
      exact down
    have offers := grown up
    rw [recorded.conn] at offers
    rw [records_accepted since.sane recorded enabled done down]
    exact .inr (kept_grows offers)

theorem step_ending (enabled : s.Enabled label) (done : s.step label = some next)
    (ending : s.Ending) : next.Ending := by
  obtain ⟨conn, functors, change, same⟩ := step_change enabled done
  have recorded : s.halfCloses ≠ [] → next.halfCloses ≠ [] := by
    intro before
    rcases step_halfCloses done with ⟨kept, _⟩ | ⟨half, appended, _⟩
    · rwa [kept]
    · simp [appended]
  rcases ending with down | ⟨disconnecting, halved⟩
  · exact .inl (step_over enabled done down)
  · rw [Ending, same]
    rcases change.disconnecting disconnecting with still | down
    · refine .inr ⟨still, ?_⟩
      rcases halved with half | filled
      · exact .inl (recorded half)
      · rcases change.filled disconnecting filled with left | shut
        · exact .inr left
        · rcases step_halfCloses done with ⟨_, count⟩ | ⟨half, appended, _⟩
          · rw [same] at count
            exact absurd count shut
          · simp [appended]
    · exact .inl down

/-- A call of `shutdownInLoop` in an open connection shuts the writing side down at once,
unless something is buffered. -/
theorem shutdownInLoop_ending (ready : s.conn.Ready) (done : s.step label = some next)
    (state : next.conn.state = .KDisconnecting)
    (output : next.conn.outputBuffer = s.conn.outputBuffer) (log : next.conn.log =
      s.conn.log ++ if s.conn.channel.isWriting then [] else [.shutdownWrite]) :
    next.Ending := by
  refine .inr ⟨state, ?_⟩
  by_cases writing : s.conn.channel.isWriting = true
  · exact .inr (output ▸ ready.writing.mp writing)
  · rcases step_halfCloses done with ⟨_, count⟩ | ⟨half, appended, _⟩
    · rw [log, if_neg writing, List.count_append] at count
      simp at count
    · simp [appended]

theorem shuts_ending (sane : s.Sane) (enabled : s.Enabled label) (done : s.step label = some next)
    (shuts : s.Shuts label) : next.Ending := by
  rcases shuts with ⟨rfl, connected⟩ | ⟨result, logged, rfl, head⟩
  · have up : ¬ s.conn.Over := fun down => sane.down down connected
    have ready := (sane.flowing up).alive.ready up
    have shut : s.life.conn.shutdown = { s.conn with state := .KDisconnecting }.shutdownInLoop :=
      if_pos connected
    have stepped : s.step (.loop (.user .shutdown)) =
        some ({ s with invoked := true }.settle { s.life with conn :=
          { s.conn with state := .KDisconnecting }.shutdownInLoop } false) := by
      simp only [step, Lifecycle.step, userCall, shut]
      rfl
    cases done.symm.trans stepped
    obtain ⟨state, _, output, _⟩ := shutdownInLoop_frame { s.conn with state := .KDisconnecting }
    exact shutdownInLoop_ending ready done state output
      (shutdownInLoop_log { s.conn with state := .KDisconnecting })
  · by_cases down : s.conn.Over
    · exact .inl (step_over enabled done down)
    · have flowing := sane.flowing down
      obtain ⟨rest, pending⟩ : ∃ rest, s.pendingFunctors = .shutdownInLoop :: rest :=
        List.head?_eq_some_iff.mp head
      have disconnecting : s.conn.state = .KDisconnecting := by
        apply (flowing.alive.ready down).opened.resolve_left
        exact fun connected => (flowing.fresh connected).2.1 (pending ▸ List.mem_cons_self)
      have stepped : s.step (.runFunctor result logged) =
          some ({ s with pendingFunctors := rest }.settle
            { s.life with conn := s.conn.shutdownInLoop } true) := by
        simp only [step, runFunctor, pending]
      cases done.symm.trans stepped
      obtain ⟨state, _, output, _⟩ := shutdownInLoop_frame s.conn
      exact shutdownInLoop_ending (flowing.alive.ready down) done (state.trans disconnecting)
        output (shutdownInLoop_log s.conn)

end Sending

theorem established_sane (fd : Nat) (poller : EPollPoller)
    (writeCompleteCallback highWaterMarkCallback : Bool) (highWaterMark : Nat) :
    Sane (established (TcpConnection.established fd poller writeCompleteCallback
      highWaterMarkCallback highWaterMark)) where
  down := fun down => absurd down (by simp [Over, conn, established, Lifecycle.established,
    TcpConnection.established])
  flowing := fun _ => ⟨established_alive fd poller writeCompleteCallback highWaterMarkCallback
    highWaterMark, rfl, fun _ => ⟨rfl, List.not_mem_nil, by simp [established]⟩⟩
  halves := fun _ member => absurd member List.not_mem_nil

/-! ## The loop thread alone -/

/-- No other thread has called `shutdown`. -/
structure Own (s : TcpThreads) : Prop where
  calls : ∀ thread stored, s.calls thread ≠ some (.shutdown stored)
  pending : .shutdownInLoop ∉ s.pendingFunctors
  halves : ∀ half ∈ s.halfCloses, half.queued = false

section Own

variable {s next : TcpThreads}

/-- Only `shutdown` begins a call of it. -/
theorem step_shutdown_calls (own : s.Own) (other : ∀ thread, label ≠ .shutdown thread)
    (done : s.step label = some next) (thread : Nat) (stored : Bool) :
    next.calls thread ≠ some (.shutdown stored) := by
  intro calling
  cases step_moves done with
  | turn turn => exact own.calls thread stored (turn.frame.2.1 ▸ calling)
  | begins begun =>
    rcases begun.calls thread _ calling with
      before | ⟨_, _, sends⟩ | ⟨_, _, caller, shuts⟩ | ⟨forces, _⟩
    · exact own.calls thread stored before
    · cases sends
    · exact other caller shuts
    · cases forces
  | @stores _ call called =>
    rcases update_inv calling with ⟨_, same⟩ | ⟨_, before⟩
    · cases call with
      | send ticket message => cases same
      | shutdown earlier => exact own.calls _ _ called
      | forceClose earlier => cases same
    · exact own.calls thread stored before
  | sends called => exact own.calls thread stored (update_none_inv calling)
  | queues called _ => exact own.calls thread stored (update_none_inv calling)

/-- Without a call of `shutdown` by another thread, none is queued. -/
theorem step_own (own : s.Own) (enabled : s.Enabled label)
    (other : ∀ thread, label ≠ .shutdown thread) (done : s.step label = some next) : next.Own := by
  refine ⟨step_shutdown_calls own other done, fun queued => ?_, ?_⟩
  · rcases step_pending enabled done queued with before | ⟨thread, calling⟩
    · exact own.pending before
    · exact own.calls thread true calling
  · cases step_moves done with
    | @turn _ base life queued turn =>
      have unqueued : queued = false := by
        cases turn with
        | loop _ | own _ _ | sendInLoop _ _ => rfl
        | shutdownInLoop pending => exact absurd (pending ▸ List.mem_cons_self) own.pending
      have halfCloses := turn.frame.2.2.1
      by_cases count : life.conn.log.count .shutdownWrite = base.conn.log.count .shutdownWrite
      · rw [settle_same count, halfCloses]
        exact own.halves
      · rw [settle_recorded count, halfCloses]
        intro half member
        rcases List.mem_append.mp member with before | new
        · exact own.halves half before
        · cases List.mem_singleton.mp new
          exact unqueued
    | begins begun =>
      rw [begun.halfCloses]
      exact own.halves
    | stores _ | sends _ | queues _ _ => exact own.halves

end Own

/-- The writing side is shut down with nothing left to send, unless the connection was closed
before and a call queued by another thread does so; no such call is queued if only the loop
thread calls `shutdown`. If the connection is up at some point, everything taken before it has
been accepted when the writing side of the open connection is shut down; and from the moment a
shutdown executes `shutdownInLoop`, the connection is down, or has bytes left in its buffer,
or its writing side was shut down.

Proof: the channel of an open connection waits for writability exactly while something is
buffered, so an idle channel has nothing to send, and the bytes accepted and buffered are
those of the messages taken. A buffer that is emptied while the connection is being shut
down is emptied by the handler of writability, which then shuts the writing side down. -/
theorem half_close_after_sending (fd : Nat) (poller : EPollPoller)
    (writeCompleteCallback highWaterMarkCallback : Bool) (highWaterMark : Nat)
    (unknown : poller.channels fd = false) (absent : poller.interest fd = none)
    (start : TcpConnection) (connected : (new fd poller writeCompleteCallback highWaterMarkCallback
      highWaterMark).connectEstablished = some start)
    (before after : List Label) (valid : system.Valid (established start) (before ++ after))
    (middle final : TcpThreads) (reached : system.run (established start) before = some middle)
    (finished : system.run middle after = some final) :
    (∀ half ∈ final.halfCloses, half.conn.outputBuffer = [] ∨
      (half.queued = true ∧ .connection false ∈ half.conn.log)) ∧
    ((∀ label ∈ before ++ after, ∀ thread, label ≠ .shutdown thread) →
      ∀ half ∈ final.halfCloses, half.conn.outputBuffer = []) ∧
    (middle.conn.state = .KConnected → ∀ half ∈ final.halfCloses,
      .connection false ∈ half.conn.log ∨ kept middle.conn.offers <+: half.conn.accepted) ∧
    (∀ label rest, after = label :: rest → middle.Shuts label →
      .connection false ∈ final.conn.log ∨ final.conn.outputBuffer ≠ [] ∨
        final.halfCloses ≠ []) := by
  cases (connectEstablished_exact unknown absent).symm.trans connected
  obtain ⟨early, later⟩ := (System.along_append _ _ before after).mp valid
  have validAfter : system.Valid middle after := later middle reached
  have sane := System.run_invariant Sane step_sane _ middle before
    (established_sane fd poller writeCompleteCallback highWaterMarkCallback highWaterMark)
    early reached
  have finalSane := System.run_invariant Sane step_sane _ final after sane validAfter finished
  refine ⟨finalSane.halves, fun alone => ?_, fun up => ?_, ?_⟩
  · have along := (System.along_and Enabled (fun _ label => ∀ thread, label ≠ .shutdown thread)
      _ (before ++ after)).mpr ⟨valid, System.along_forall _ _ alone⟩
    have own : final.Own := by
      refine System.run_invariant Own
        (fun _ _ _ own admitted done => step_own own admitted.1 admitted.2 done) _ final _
        ?_ along ?_
      · exact ⟨by simp [established], by simp [established], by simp [established]⟩
      · rw [System.run_append, reached]
        exact finished
    intro half member
    rcases finalSane.halves half member with empty | ⟨queued, _⟩
    · exact empty
    · cases queued.symm.trans (own.halves half member)
  · have notOver : ¬ middle.conn.Over := fun down => sane.down down up
    have since : middle.Since middle := by
      refine ⟨sane, fun _ => List.prefix_rfl, fun half member => ?_⟩
      rw [((sane.flowing notOver).fresh up).1] at member
      cases member
    exact (System.run_invariant middle.Since (step_since middle) _ final after since validAfter
      finished).accepted
  · rintro label rest rfl shuts
    obtain ⟨enabled, following⟩ := (System.along_cons _ _ _ _).mp validAfter
    obtain ⟨next, stepped, ran⟩ := Option.bind_eq_some_iff.mp finished
    have ending := System.run_invariant Ending
      (fun state label next ending enabled done => step_ending enabled done ending) _ final rest
      (shuts_ending sane enabled stepped shuts) (following next stepped) ran
    rcases ending with down | ⟨_, halved | filled⟩
    · exact .inl down
    · exact .inr (.inr halved)
    · exact .inr (.inl filled)

/-- A shutdown in the loop thread finds bytes in the buffer. The buffer is drained in two parts,
and the second one shuts the writing side down. -/
def drainedInParts : List Label :=
  [.loop (.user .shutdown), .loop (.poll [7] POLLOUT), .loop .turn,
    .loop (.callback (.failed 0) (.wrote 1)), .loop .endCallbacks, .loop .endEvents,
    .loop (.poll [7] POLLOUT), .loop .turn, .loop (.callback (.failed 0) (.wrote 1))]

/-- All three bytes are accepted before the half-close. -/
theorem half_close_after_sending_partial : ∃ middle final,
      system.run (established (TcpConnection.established 7 EPollPoller.initial true true 64))
        [.loop (.user (.send [1, 2, 3] (.wrote 1) 0))] = some middle ∧
      system.run middle drainedInParts = some final ∧
      final.halfCloses.map (fun half => half.conn.accepted) = [[1, 2, 3]] ∧
      ∀ half ∈ final.halfCloses, half.conn.outputBuffer = [] ∨
        (half.queued = true ∧ .connection false ∈ half.conn.log) :=
  ⟨_, _, rfl, rfl, rfl, (half_close_after_sending 7 EPollPoller.initial true true 64 rfl rfl
    (TcpConnection.established 7 EPollPoller.initial true true 64)
    (connectEstablished_exact rfl rfl) [.loop (.user (.send [1, 2, 3] (.wrote 1) 0))]
    drainedInParts (by decide) _ _ rfl rfl).1⟩

/-- One byte of a message is buffered when another thread shuts the connection down and the
peer closes it. -/
def closedMeanwhile : List Label :=
  [.loop (.user (.send [1, 2] (.wrote 1) 0)), .shutdown 0, .store 0, .queue 0,
    .loop (.poll [7] POLLIN), .loop .turn, .loop (.callback (.delivered []) (.wrote 0)),
    .loop .closeCallback, .loop .removeConnectionInLoop, .loop .endCallbacks, .loop .endEvents,
    .runFunctor (.wrote 0) 0]

/-- The queued call shuts the writing side down with the byte unsent. -/
theorem closed_connection_half_closed :
    ∃ start final, (new 7 EPollPoller.initial true true 64).connectEstablished = some start ∧
      system.Valid (established start) closedMeanwhile ∧
      system.run (established start) closedMeanwhile = some final ∧
      final.conn.log = [.connection true, .connection false, .close, .shutdownWrite] ∧
      final.halfCloses.map (fun half => half.conn.outputBuffer) = [[2]] :=
  ⟨TcpConnection.established 7 EPollPoller.initial true true 64, _,
    connectEstablished_exact rfl rfl, by decide, rfl, by decide, rfl⟩

end TcpThreads

end Moban
