import Moban.Connector

/-!
# The sockets of a connector

A descriptor that the connector creates belongs to the attempt in progress, or has been closed
once, or has been handed over once. The end of an attempt moves its descriptor from the first
place to one of the others. The exception is a call of `restart` during an attempt: it forgets
the attempt without closing its descriptor. In runs without such a call every descriptor is
accounted for.
-/

namespace Moban

open Runs

namespace Connector

/-- The descriptor belongs to the attempt in progress. -/
def owned (s : Connector) (fd : Nat) : Nat :=
  if s.state = .Kconnecting ∧ s.channel.map Channel.fd = some fd then 1 else 0

/-- Every descriptor is counted in one place. A channel that belongs to no attempt waits for
its release, and no attempt is in progress while another one begins. -/
structure Balanced (s : Connector) : Prop where
  distinct : s.opened.Nodup
  places : ∀ fd, s.owned fd + s.closed.count fd + s.handed.count fd = s.opened.count fd
  resets : s.backlog.count .resetChannel =
    if s.channel ≠ none ∧ s.state ≠ .Kconnecting then 1 else 0
  calling : s.functors ≠ none → s.events.eventHandling = false
  begins : ∀ user, s.calls .loop = some (.connecting user) → s.state = .KDisconnected

theorem new_balanced (accessible : Bool) : (new accessible).Balanced := by
  constructor <;> simp [new, owned, backlog]

section Steps

variable {s next : Connector} {channel : Channel} {fd : Nat}

theorem owned_idle (idle : s.state ≠ .Kconnecting) : s.owned fd = 0 :=
  if_neg fun both => idle both.1

theorem owned_free (free : s.channel = none) : s.owned fd = 0 := if_neg (by simp [free])

theorem owned_here (connecting : s.state = .Kconnecting) (here : s.channel = some channel) :
    s.owned fd = if channel.fd = fd then 1 else 0 := by
  simp [owned, connecting, here]

/-- A step that concerns no descriptor. -/
theorem Balanced.congr (balanced : s.Balanced) (opened : next.opened = s.opened)
    (closed : next.closed = s.closed) (handed : next.handed = s.handed)
    (state : next.state = s.state)
    (channel : next.channel.map Channel.fd = s.channel.map Channel.fd)
    (backlog : next.backlog.count .resetChannel = s.backlog.count .resetChannel)
    (calling : next.functors ≠ none → next.events.eventHandling = false)
    (begins : ∀ user, next.calls .loop = some (.connecting user) → next.state = .KDisconnected) :
    next.Balanced := by
  have present : next.channel = none ↔ s.channel = none := by
    rw [← Option.map_eq_none_iff (f := Channel.fd), channel, Option.map_eq_none_iff]
  refine ⟨opened ▸ balanced.distinct, ?_, ?_, calling, begins⟩
  · intro fd
    rw [opened, closed, handed, owned, state, channel]
    exact balanced.places fd
  · simp only [backlog, ne_eq, present, state]
    exact balanced.resets

/-- The end of an attempt: its descriptor is closed or handed over. -/
theorem Balanced.settle (balanced : s.Balanced) (connecting : s.state = .Kconnecting)
    (here : s.channel = some channel) (opened : next.opened = s.opened)
    (moved : next.closed = s.closed ++ [channel.fd] ∧ next.handed = s.handed ∨
      next.closed = s.closed ∧ next.handed = s.handed ++ [channel.fd])
    (state : next.state ≠ .Kconnecting) (waits : next.channel ≠ none)
    (backlog : next.backlog = s.backlog ++ [.resetChannel])
    (calling : next.functors ≠ none → next.events.eventHandling = false)
    (begins : ∀ user, next.calls .loop = some (.connecting user) → next.state = .KDisconnected) :
    next.Balanced := by
  refine ⟨opened ▸ balanced.distinct, ?_, ?_, calling, begins⟩
  · intro fd
    have before := balanced.places fd
    rw [owned_here connecting here] at before
    rw [owned_idle state, opened]
    rcases moved with ⟨closed, handed⟩ | ⟨closed, handed⟩
    · rw [closed, handed, List.count_append, List.count_singleton]
      simp only [beq_iff_eq]
      omega
    · rw [closed, handed, List.count_append, List.count_singleton]
      simp only [beq_iff_eq]
      omega
  · have nothing := balanced.resets
    rw [if_neg (by simp [connecting])] at nothing
    rw [backlog, List.count_append, nothing, if_pos ⟨waits, state⟩]
    rfl

/-- A new descriptor is closed at once or belongs to a new attempt. -/
theorem Balanced.create (balanced : s.Balanced) (disconnected : s.state = .KDisconnected)
    (fresh : fd ∉ s.opened) (opened : next.opened = s.opened ++ [fd])
    (handed : next.handed = s.handed)
    (placed : next.closed = s.closed ++ [fd] ∧ next.state = .KDisconnected ∧
        next.channel = s.channel ∨
      next.closed = s.closed ∧ next.state = .Kconnecting ∧ s.channel = none ∧
        ∃ channel, next.channel = some channel ∧ channel.fd = fd)
    (backlog : next.backlog = s.backlog)
    (calling : next.functors ≠ none → next.events.eventHandling = false)
    (begins : ∀ user, next.calls .loop = some (.connecting user) → next.state = .KDisconnected) :
    next.Balanced := by
  refine ⟨?_, ?_, ?_, calling, begins⟩
  · rw [opened]
    refine List.nodup_append.mpr ⟨balanced.distinct, List.nodup_singleton fd, ?_⟩
    rintro old member _ new rfl
    exact fresh (List.mem_singleton.mp new ▸ member)
  · intro other
    have before := balanced.places other
    rw [owned_idle (by simp [disconnected])] at before
    rw [opened, handed, List.count_append, List.count_singleton]
    simp only [beq_iff_eq]
    rcases placed with ⟨closed, idle, _⟩ | ⟨closed, connecting, _, channel, here, rfl⟩
    · rw [owned_idle (by simp [idle]), closed, List.count_append, List.count_singleton]
      simp only [beq_iff_eq]
      omega
    · rw [owned_here connecting here, closed]
      omega
  · have resets := balanced.resets
    rcases placed with ⟨_, idle, same⟩ | ⟨_, connecting, free, _⟩
    · rw [backlog, resets, disconnected, idle, same]
    · rw [backlog, resets, if_neg (by simp [free]), if_neg (by simp [connecting])]

theorem startInLoop_balanced (balanced : s.Balanced) {user : Bool}
    (done : s.startInLoop user = some next) : next.Balanced := by
  obtain ⟨_, disconnected, result⟩ := Option.bind_eq_some_iff.mp done
  cases result
  exact balanced.congr rfl rfl rfl rfl rfl rfl balanced.calling
    fun _ _ => (Option.guard_eq_some' _).mp disconnected

theorem stopInLoop_balanced (balanced : s.Balanced) (looping : s.calls .loop = none)
    (done : s.stopInLoop = some next) : next.Balanced := by
  unfold stopInLoop at done
  split at done
  case isTrue connecting =>
    obtain ⟨⟨removed, sockfd⟩, ended, result⟩ := Option.bind_eq_some_iff.mp done
    obtain ⟨channel, poller, left, here, rfl, rfl⟩ := removeAndResetChannel_inv ended
    cases result
    refine balanced.settle connecting here rfl (.inl ⟨rfl, rfl⟩) (by simp [closeSocket])
      (by simp [closeSocket]) ?_ balanced.calling ?_
    · simp [backlog, closeSocket]
    · intro user begins
      cases looping.symm.trans begins
  · cases done
    exact balanced

/-- A failed attempt whose descriptor is at hand. -/
theorem retry_settles (balanced : s.Balanced) (connecting : s.state = .Kconnecting)
    (looping : s.calls .loop = none) {removed : Connector}
    (ended : s.removeAndResetChannel = some (removed, fd)) : (removed.retry fd).1.Balanced := by
  obtain ⟨channel, poller, left, here, rfl, rfl⟩ := removeAndResetChannel_inv ended
  obtain ⟨timers, delay, failures, retried⟩ := retry_inv { s with
    poller := poller, channel := some left
    pendingFunctors := s.pendingFunctors ++ [.resetChannel] } channel.fd
  rw [retried]
  refine balanced.settle connecting here rfl (.inl ⟨rfl, rfl⟩) (by simp) (by simp) ?_
    balanced.calling ?_
  · simp [backlog]
  · intro user begins
    cases looping.symm.trans begins

theorem writable_settles (balanced : s.Balanced) (connecting : s.state = .Kconnecting)
    (looping : s.calls .loop = none) {removed : Connector}
    (ended : s.removeAndResetChannel = some (removed, fd)) (err : Nat) (selfConnect : Bool) :
    (removed.writable fd err selfConnect).1.Balanced := by
  have failed := retry_settles balanced connecting looping ended
  obtain ⟨channel, poller, left, here, rfl, rfl⟩ := removeAndResetChannel_inv ended
  have nowhere : ∀ user, s.calls .loop ≠ some (.connecting user) := by simp [looping]
  unfold writable
  split
  · exact failed
  · split
    · exact failed
    · split
      · refine balanced.settle connecting here rfl (.inr ⟨rfl, rfl⟩) (by simp) (by simp) ?_
          balanced.calling (fun user begins => absurd begins (nowhere user))
        simp [backlog]
      · refine balanced.settle connecting here rfl (.inl ⟨rfl, rfl⟩) (by simp [closeSocket])
          (by simp [closeSocket]) ?_ balanced.calling
          (fun user begins => absurd begins (nowhere user))
        simp [backlog, closeSocket]

/-- `connect` accounts for the descriptor that was created for it. -/
theorem connect_balanced (balanced : s.Balanced) (disconnected : s.state = .KDisconnected)
    (fresh : fd ∉ s.opened) (looping : s.calls .loop = none) {saveError : Nat}
    {result : Connector × Bool} (done : s.connect fd saveError = some result) :
    result.1.Balanced := by
  have nowhere : ∀ user, s.calls .loop ≠ some (.connecting user) := by simp [looping]
  unfold connect at done
  split at done
  · obtain ⟨begun, connected, returned⟩ := Option.bind_eq_some_iff.mp done
    cases returned
    obtain ⟨free, poller, channel, same, rfl⟩ := connecting_inv connected
    exact balanced.create disconnected fresh rfl rfl (.inr ⟨rfl, rfl, free, channel, rfl, same⟩)
      rfl balanced.calling (fun user begins => absurd begins (nowhere user))
  · cases done
    obtain ⟨timers, delay, failures, retried⟩ := retry_inv (s.createNonblockingOrDie fd) fd
    rw [retried]
    exact balanced.create disconnected fresh rfl rfl (.inl ⟨rfl, rfl, rfl⟩) rfl
      balanced.calling (fun user begins => absurd begins (nowhere user))
  · cases done
    exact balanced.create disconnected fresh rfl rfl (.inl ⟨rfl, disconnected, rfl⟩) rfl
      balanced.calling (fun user begins => absurd begins (nowhere user))

theorem callback_balanced (balanced : s.Balanced) (looping : s.calls .loop = none) {err : Nat}
    {selfConnect : Bool} (done : s.callback err selfConnect = some next) : next.Balanced := by
  unfold callback at done
  split at done
  · cases done
  case h_2 callback rest turn =>
    have popped : ({ s with turn := rest } : Connector).Balanced :=
      balanced.congr rfl rfl rfl rfl rfl rfl balanced.calling balanced.begins
    split at done
    · cases done
      exact popped
    · cases done
      exact popped
    · obtain ⟨handled, handling, result⟩ := Option.bind_eq_some_iff.mp done
      cases result
      obtain ⟨_, connecting, rest⟩ := Option.bind_eq_some_iff.mp handling
      obtain ⟨⟨removed, sockfd⟩, ended, retried⟩ := Option.bind_eq_some_iff.mp rest
      cases retried
      have settled := retry_settles popped ((Option.guard_eq_some' _).mp connecting) looping ended
      exact settled.congr rfl rfl rfl rfl rfl rfl settled.calling settled.begins
    · obtain ⟨handled, handling, result⟩ := Option.bind_eq_some_iff.mp done
      cases result
      unfold handleWrite at handling
      split at handling
      case isTrue connecting =>
        obtain ⟨⟨removed, sockfd⟩, ended, written⟩ := Option.bind_eq_some_iff.mp handling
        cases written
        have settled := writable_settles popped connecting looping ended err selfConnect
        exact settled.congr rfl rfl rfl rfl rfl rfl settled.calling settled.begins
      · obtain ⟨_, _, unchanged⟩ := Option.bind_eq_some_iff.mp handling
        cases unchanged
        exact popped.congr rfl rfl rfl rfl rfl rfl popped.calling popped.begins

theorem call_balanced (balanced : s.Balanced) {caller : Caller} {stage : Option ConnectorCall}
    (begins : ∀ user, stage ≠ some (.connecting user)) : (s.call caller stage).Balanced := by
  refine balanced.congr rfl rfl rfl rfl rfl rfl balanced.calling ?_
  intro user found
  by_cases same : caller = .loop
  · subst same
    rw [call_calls_self] at found
    exact absurd found (begins user)
  · rw [call_calls_of_ne same] at found
    exact balanced.begins user found

theorem runInLoop_balanced (balanced : s.Balanced) {caller : Caller}
    (done : s.runInLoop caller = some next) : next.Balanced := by
  have queued : ∀ functor, functor ≠ .resetChannel →
      ((s.queueInLoop functor).call caller none).Balanced := by
    intro functor other
    refine call_balanced ?_ (by simp)
    refine balanced.congr rfl rfl rfl rfl rfl ?_ balanced.calling balanced.begins
    rw [queueInLoop_backlog, List.count_append, List.count_singleton]
    simp [other]
  unfold runInLoop at done
  split at done
  · split at done
    · exact startInLoop_balanced balanced done
    · cases done
      exact queued _ nofun
  · split at done
    case isTrue inLoop =>
      cases caller with
      | loop =>
        have returned : (s.call .loop none).Balanced := call_balanced balanced (by simp)
        exact stopInLoop_balanced returned call_calls_self done
      | thread identifier => cases inLoop
    · cases done
      exact queued _ nofun
  · cases done

theorem runFunctor_balanced (balanced : s.Balanced) (looping : s.calls .loop = none)
    (done : s.runFunctor = some next) : next.Balanced := by
  unfold runFunctor at done
  split at done
  case h_1 functor rest functors =>
    have silent := balanced.calling (by simp [functors])
    have shorter :
        s.backlog = functor :: ({ s with functors := some rest } : Connector).backlog := by
      simp [backlog, functors]
    have popped : functor ≠ .resetChannel →
        ({ s with functors := some rest } : Connector).Balanced := by
      intro other
      refine balanced.congr rfl rfl rfl rfl rfl ?_ (fun _ => silent) balanced.begins
      rw [shorter, List.count_cons_of_ne other]
    split at done
    · exact startInLoop_balanced (popped (by simp)) done
    · exact stopInLoop_balanced (popped (by simp)) looping done
    · cases done
      -- The release of a channel is queued only after its attempt has ended.
      have count := balanced.resets
      rw [shorter, List.count_cons_self] at count
      have idle : s.channel ≠ none ∧ s.state ≠ .Kconnecting := by
        by_contra other
        rw [if_neg other] at count
        omega
      rw [if_pos idle] at count
      refine ⟨balanced.distinct, ?_, ?_, fun _ => silent, balanced.begins⟩
      · intro fd
        have places := balanced.places fd
        rw [owned_idle idle.2] at places
        rw [owned_free rfl]
        exact places
      · rw [if_neg (by simp [resetChannel])]
        exact Nat.succ.inj count
  · cases done

/-- The condition on a step: `restart` is not called during an attempt. -/
def Attended (s : Connector) : Label → Prop
  | .restart => s.state ≠ .Kconnecting
  | _ => True

instance (s : Connector) : (label : Label) → Decidable (s.Attended label)
  | .restart => instDecidableNot
  | .start _ | .setConnect _ | .stop _ | .runInLoop _ | .attempt .. | .poll .. | .beginTurn
  | .callback .. | .endEvents | .runFunctor | .endFunctors | .retryTimer _ | .connectionEnds _ =>
      instDecidableTrue

theorem step_balanced (s : Connector) (label : Label) (next : Connector) (balanced : s.Balanced)
    (condition : s.Enabled label ∧ s.Attended label) (done : s.step label = some next) :
    next.Balanced := by
  obtain ⟨enabled, attended⟩ := condition
  cases label with
  | start caller =>
    cases done
    unfold start
    split
    · exact balanced
    · exact call_balanced balanced (by simp)
  | setConnect caller =>
    cases done
    refine call_balanced ?_ (by simp)
    exact balanced.congr rfl rfl rfl rfl rfl rfl balanced.calling balanced.begins
  | stop caller =>
    cases done
    refine call_balanced ?_ (by simp)
    exact balanced.congr rfl rfl rfl rfl rfl rfl balanced.calling balanced.begins
  | restart =>
    cases done
    refine call_balanced ?_ (by simp)
    have idle : s.state ≠ .Kconnecting := attended
    refine ⟨balanced.distinct, ?_, ?_, balanced.calling, fun _ _ => rfl⟩
    · intro fd
      simpa [owned, idle] using balanced.places fd
    · simpa [backlog, idle] using balanced.resets
  | runInLoop caller => exact runInLoop_balanced balanced done
  | attempt sockfd saveError =>
    obtain ⟨_, _, fresh, _⟩ := enabled
    have attempted : s.attempt sockfd saveError = some next := done
    unfold attempt at attempted
    split at attempted
    case h_1 user inside =>
      obtain ⟨result, connected, finished⟩ := Option.bind_eq_some_iff.mp attempted
      cases finished
      have returned : (s.call .loop none).Balanced := call_balanced balanced (by simp)
      have settled := connect_balanced returned (balanced.begins user inside) fresh
        call_calls_self connected
      exact settled.congr rfl rfl rfl rfl rfl rfl settled.calling settled.begins
    · cases attempted
  | poll active revents =>
    cases done
    refine balanced.congr rfl rfl rfl rfl ?_ rfl ?_ balanced.begins
    · simp [poll, polled, Option.map_map, Function.comp_def]
    · exact fun calling => absurd enabled.2.2.1 calling
  | beginTurn =>
    have turned : s.beginTurn = some next := done
    unfold beginTurn at turned
    split at turned
    · cases turned
    · cases turned
      exact balanced.congr rfl rfl rfl rfl rfl rfl balanced.calling balanced.begins
  | callback err selfConnect => exact callback_balanced balanced enabled.1.2 done
  | endEvents =>
    cases done
    have called : s.functors = none := by
      by_contra calling
      cases enabled.2.1.symm.trans (balanced.calling calling)
    refine balanced.congr rfl rfl rfl rfl rfl ?_ (fun _ => rfl) balanced.begins
    simp [backlog, endEvents, called]
  | runFunctor => exact runFunctor_balanced balanced enabled.1.2 done
  | endFunctors =>
    cases done
    refine balanced.congr rfl rfl rfl rfl rfl ?_ (fun calling => absurd rfl calling)
      balanced.begins
    simp [backlog, endFunctors, enabled.2]
  | retryTimer delay =>
    have fired : ({ s with timers := s.timers.erase delay } : Connector).Balanced :=
      balanced.congr rfl rfl rfl rfl rfl rfl balanced.calling balanced.begins
    exact startInLoop_balanced fired done
  | connectionEnds sockfd =>
    cases done
    exact balanced.congr rfl rfl rfl rfl rfl rfl balanced.calling balanced.begins

end Steps

/-! ## Runs -/

/-- Where a descriptor that was created is: it belongs to the attempt in progress, it has been
closed once, or it has been handed over once, and only one of these. -/
def Accounted (s : Connector) (fd : Nat) : Prop :=
  s.owned fd + s.closed.count fd + s.handed.count fd = 1

instance (s : Connector) (fd : Nat) : Decidable (s.Accounted fd) := decEq _ _

/-- In every run in which no attempt is interrupted by `restart`, every descriptor is accounted
for, and nothing else is closed or handed over.

Proof: every step preserves the balance, and no number is created twice. -/
theorem sockets_accounted (accessible : Bool) (labels : List Label) (final : Connector)
    (valid : system.Valid (new accessible) labels)
    (attended : system.Along Attended (new accessible) labels)
    (finished : system.run (new accessible) labels = some final) (fd : Nat) :
    if fd ∈ final.opened then final.Accounted fd else fd ∉ final.closed ∧ fd ∉ final.handed := by
  have balanced := System.run_invariant Balanced step_balanced (new accessible) final labels
    (new_balanced accessible) ((System.along_and _ _ _ _).mpr ⟨valid, attended⟩) finished
  have places := balanced.places fd
  split
  case isTrue created => rwa [List.count_eq_one_of_mem balanced.distinct created] at places
  case isFalse absent =>
    rw [List.count_eq_zero.mpr absent] at places
    exact ⟨List.count_eq_zero.mp (by omega), List.count_eq_zero.mp (by omega)⟩

/-- One attempt is refused, and the owner catches the exception and restarts. The next attempt
succeeds, and the owner restarts after the end of its connection. -/
def refusedThenConnected : List Label :=
  [.start .loop, .setConnect .loop, .runInLoop .loop, .attempt 5 EADDRNOTAVAIL, .restart,
    .runInLoop .loop, .attempt 6 EINPROGRESS, .poll [6] POLLOUT, .beginTurn, .callback 0 false,
    .endEvents, .runFunctor, .endFunctors, .connectionEnds 6, .restart, .runInLoop .loop,
    .attempt 7 EISCONN]

/-- The first descriptor was closed, the second one handed over, and the third one belongs to
the attempt. -/
theorem sockets_accounted_refused :
    ∃ final, system.run (new false) refusedThenConnected = some final ∧
      final.opened = [5, 6, 7] ∧ final.Accounted 5 ∧ final.Accounted 6 ∧ final.Accounted 7 := by
  have opened : (system.run (new false) refusedThenConnected).map Connector.opened =
      some [5, 6, 7] := by decide
  obtain ⟨final, finished, created⟩ := Option.map_eq_some_iff.mp opened
  have all := sockets_accounted false refusedThenConnected final (by decide) (by decide) finished
  rw [created] at all
  exact ⟨final, finished, created, all 5, all 6, all 7⟩

/-- The owner restarts during an attempt, and the new attempt fails. -/
def interrupted : List Label :=
  [.start .loop, .setConnect .loop, .runInLoop .loop, .attempt 5 EINPROGRESS, .restart,
    .runInLoop .loop, .attempt 6 EACCES]

/-- The descriptor of the first attempt is in none of the three places. -/
theorem sockets_dropped : system.Valid (new false) interrupted ∧ ∃ final,
      system.run (new false) interrupted = some final ∧ 5 ∈ final.opened ∧
        final.owned 5 = 0 ∧ 5 ∉ final.closed ∧ 5 ∉ final.handed := by
  refine ⟨by decide, ?_⟩
  have dropped : (system.run (new false) interrupted).any (fun final =>
      5 ∈ final.opened ∧ final.owned 5 = 0 ∧ 5 ∉ final.closed ∧ 5 ∉ final.handed) = true := by
    decide
  obtain ⟨final, finished, facts⟩ := (Option.any_eq_true _ _).mp dropped
  exact ⟨final, finished, of_decide_eq_true facts⟩

end Connector

end Moban
