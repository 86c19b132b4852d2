import Moban.TcpThreads

/-!
# Closing a connection from several threads

`shutdown` and `forceClose` look at the state and store a new one in two steps. As long as
the store finds the connection still open, a close happens once, whatever the threads do in
between. If the loop thread completes a close after the look and before the store, the
stored state makes the closed connection look open again, and the queued functor closes it
a second time.

The loop thread alone can also enter a close twice, when a read in the turn that has closed the
connection returns the end of the stream. Such reads are taken to fail.
-/

namespace Moban

open Runs

variable {result : WriteResult} {message : List UInt8}

namespace TcpConnection

/-! ## What a step of the loop thread does to the connection -/

/-- Nothing was sent, nor was the writing side shut down. Reports are not taken back, and the
state changes only if the connection is reported down. -/
structure Quiet (c next : TcpConnection) : Prop where
  log : ∃ events, next.log = c.log ++ events ∧ .shutdownWrite ∉ events
  state : next.state = c.state ∨
    (next.state = .KDisconnected ∧ .connection false ∈ next.log)
  accepted : next.accepted = c.accepted
  outputBuffer : next.outputBuffer = c.outputBuffer
  offers : next.offers = c.offers

section Effects

variable {c middle next : TcpConnection}

theorem Quiet.trans (first : c.Quiet middle) (second : middle.Quiet next) : c.Quiet next := by
  obtain ⟨before, logged, quiet⟩ := first.log
  obtain ⟨after, later, still⟩ := second.log
  refine ⟨⟨before ++ after, by rw [later, logged, List.append_assoc], by simp [quiet, still]⟩,
    ?_, second.accepted.trans first.accepted, second.outputBuffer.trans first.outputBuffer,
    second.offers.trans first.offers⟩
  rcases second.state with same | down
  · rw [same, later, List.mem_append]
    exact first.state.imp_right (And.imp_right Or.inl)
  · exact .inr down

theorem Quiet.of_eq (log : next.log = c.log) (state : next.state = c.state)
    (accepted : next.accepted = c.accepted) (outputBuffer : next.outputBuffer = c.outputBuffer)
    (offers : next.offers = c.offers) : c.Quiet next :=
  ⟨⟨[], by rw [log, List.append_nil], List.not_mem_nil⟩, .inl state, accepted, outputBuffer, offers⟩

theorem Quiet.refl (c : TcpConnection) : c.Quiet c := .of_eq rfl rfl rfl rfl rfl

/-- A report of something else than a shutdown of the writing side. -/
theorem Quiet.report (c : TcpConnection) {event : ConnectionEvent}
    (other : event ≠ .shutdownWrite) :
    c.Quiet { c with log := c.log ++ [event] } :=
  ⟨⟨[event], rfl, by simp [other.symm]⟩, .inl rfl, rfl, rfl, rfl⟩

theorem onChannel_inv {operation : EPollPoller → Channel → Option (EPollPoller × Channel)}
    (done : c.onChannel operation = some next) :
    ∃ poller channel, next = { c with poller := poller, channel := channel } := by
  obtain ⟨⟨poller, channel⟩, _, made⟩ := Option.bind_eq_some_iff.mp done
  exact ⟨poller, channel, (Option.some.inj made).symm⟩

theorem onChannel_quiet {operation : EPollPoller → Channel → Option (EPollPoller × Channel)}
    (done : c.onChannel operation = some next) : c.Quiet next := by
  obtain ⟨poller, channel, rfl⟩ := onChannel_inv done
  exact .of_eq rfl rfl rfl rfl rfl

/-- The state is set, the channel disabled and the user called back. -/
theorem disconnect_quiet (done : (do
      let disabled ← { c with state := .KDisconnected }.onChannel Channel.disableAll
      return disabled.connectionCallback) = some next) : c.Quiet next := by
  obtain ⟨disabled, disabling, called⟩ := Option.bind_eq_some_iff.mp done
  cases called
  obtain ⟨poller, channel, rfl⟩ := onChannel_inv disabling
  exact ⟨⟨[.connection false], rfl, by simp⟩, .inr ⟨rfl, by simp [connectionCallback, connected]⟩,
    rfl, rfl, rfl⟩

theorem beginClose_quiet (done : c.beginClose = some next) : c.Quiet next := by
  rw [beginClose] at done
  obtain ⟨_, _, disconnecting⟩ := Option.bind_eq_some_iff.mp done
  exact disconnect_quiet disconnecting

theorem beginRead_quiet {readv : Readv} {closing : Bool}
    (done : c.beginRead readv = some (next, closing)) : c.Quiet next := by
  cases readv with
  | failed errno =>
    cases done
    exact .of_eq rfl rfl rfl rfl rfl
  | delivered bytes =>
    by_cases empty : bytes.length = 0
    · rw [beginRead, if_pos empty] at done
      obtain ⟨closed, closes, made⟩ := Option.bind_eq_some_iff.mp done
      cases made
      exact beginClose_quiet closes
    · rw [beginRead, if_neg empty] at done
      cases done
      have message : c.Quiet { c with log := c.log ++ [.message] } := .report c (by simp)
      exact message.trans (.of_eq rfl rfl rfl rfl rfl)

theorem beginForceClose_quiet {closing : Bool}
    (done : c.beginForceClose = some (next, closing)) : c.Quiet next := by
  by_cases opened : c.Open
  · rw [beginForceClose, if_pos opened] at done
    obtain ⟨closed, closes, made⟩ := Option.bind_eq_some_iff.mp done
    cases made
    exact beginClose_quiet closes
  · rw [beginForceClose, if_neg opened] at done
    cases done
    exact .refl c

theorem beginDestroy_quiet (done : c.beginDestroy = some next) : c.Quiet next := by
  by_cases connected : c.state = .KConnected
  · rw [beginDestroy, if_pos connected] at done
    exact disconnect_quiet done
  · rw [beginDestroy, if_neg connected] at done
    cases done
    exact .refl c

/-! Sending reports nothing and takes nothing out of the buffer. Writability reports at most a
shutdown of the writing side, with nothing left to send. -/

/-- A message was written or buffered; the connection is otherwise as it was. -/
structure Sent (c next : TcpConnection) : Prop where
  log : next.log = c.log
  state : next.state = c.state
  outputBuffer : ∃ rest, next.outputBuffer = c.outputBuffer ++ rest

theorem Sent.of_eq (log : next.log = c.log) (state : next.state = c.state)
    (outputBuffer : next.outputBuffer = c.outputBuffer) : c.Sent next :=
  ⟨log, state, [], by rw [outputBuffer, List.append_nil]⟩

theorem directWrite_sent (c : TcpConnection) (message : List UInt8) (result : WriteResult)
    (logged : Nat) :
    c.Sent (c.directWrite message result logged).1 := by
  simp only [directWrite]
  split_ifs
  all_goals exact .of_eq rfl rfl rfl

theorem bufferRest_sent {rest : List UInt8} (done : c.bufferRest rest = some next) :
    c.Sent next := by
  simp only [bufferRest] at done
  split_ifs at done
  all_goals first
    | cases done
      exact ⟨rfl, rfl, rest, rfl⟩
    | obtain ⟨poller, channel, rfl⟩ := onChannel_inv done
      exact ⟨rfl, rfl, rest, rfl⟩

theorem sendInLoop_sent {logged : Nat} (done : c.sendInLoop message result logged = some next) :
    c.Sent next := by
  obtain ⟨sent, passed, _, direct, buffered, rfl⟩ := sendInLoop_inv done
  obtain ⟨log, state, first, output⟩ : c.Sent sent := by
    rcases direct with rfl | rfl
    · exact .of_eq rfl rfl rfl
    · exact directWrite_sent c message result logged
  rcases buffered with rfl | ⟨_, buffering⟩
  · exact ⟨log, state, first, output⟩
  · obtain ⟨sameLog, sameState, second, more⟩ := bufferRest_sent buffering
    refine ⟨sameLog.trans log, sameState.trans state, first ++ second, ?_⟩
    rw [offered, more, output, List.append_assoc]

theorem send_sent {logged : Nat}
    (done : c.send message result logged = some next) : c.Sent next := by
  rw [send] at done
  split_ifs at done
  · exact sendInLoop_sent done
  · cases done
    exact .of_eq rfl rfl rfl

/-- A shutdown reports at most the shutdown of the writing side, of an idle channel. -/
theorem shutdownInLoop_log (c : TcpConnection) :
    c.shutdownInLoop.log = c.log ++ if c.channel.isWriting then [] else [.shutdownWrite] := by
  rw [shutdownInLoop]
  split_ifs
  · exact (List.append_nil _).symm
  · rfl

theorem updateChannel_events {poller updated : EPollPoller} {channel after : Channel}
    (done : poller.updateChannel channel = some (updated, after)) :
    after.events = channel.events := by
  rw [EPollPoller.updateChannel] at done
  split at done
  case h_1 | h_2 =>
    obtain ⟨_, _, adding⟩ := Option.bind_eq_some_iff.mp done
    obtain ⟨_, _, made⟩ := Option.bind_eq_some_iff.mp adding
    cases made
    rfl
  case h_3 =>
    split_ifs at done
    all_goals
      obtain ⟨_, _, made⟩ := Option.bind_eq_some_iff.mp done
      cases made
      rfl

theorem disableWriting_idle (done : c.onChannel Channel.disableWriting = some next) :
    next.channel.isWriting = false := by
  obtain ⟨⟨poller, channel⟩, disabled, made⟩ := Option.bind_eq_some_iff.mp done
  cases made
  have events := updateChannel_events disabled
  simp [Channel.isWriting, events, BitVec.and_assoc]

/-- Handling writability shuts the writing side down exactly if it empties the buffer of a
connection that was shut down. -/
theorem handleWrite_inv (done : c.handleWrite result = some next) : next.state = c.state ∧
      ((next.log = c.log ∧ (c.state = .KDisconnecting → c.outputBuffer ≠ [] →
          next.outputBuffer ≠ [])) ∨
        (next.log = c.log ++ [.shutdownWrite] ∧ next.outputBuffer = [] ∧
          c.state = .KDisconnecting ∧ result.count = c.outputBuffer.length)) := by
  by_cases writing : c.channel.isWriting = true
  case neg =>
    rw [handleWrite, if_neg writing] at done
    cases done
    exact ⟨rfl, .inl ⟨rfl, fun _ filled => filled⟩⟩
  case pos =>
    rw [handleWrite, if_pos writing] at done
    by_cases positive : 0 < result.count
    case neg =>
      simp only [if_neg positive] at done
      cases done
      exact ⟨rfl, .inl ⟨rfl, fun _ filled => filled⟩⟩
    case pos =>
      simp only [if_pos positive] at done
      obtain ⟨_, fits, finished⟩ := Option.bind_eq_some_iff.mp done
      have bound : result.count.toNat ≤ c.outputBuffer.length := by
        by_contra more
        simp [guard, more, failure] at fits
      by_cases empty : c.outputBuffer.drop result.count.toNat = []
      · have whole : result.count = c.outputBuffer.length := by
          have all := List.drop_eq_nil_iff.mp empty
          omega
        rw [if_pos (by rw [empty]; rfl)] at finished
        obtain ⟨stopped, stopping, made⟩ := Option.bind_eq_some_iff.mp finished
        have idle := disableWriting_idle stopping
        obtain ⟨poller, channel, rfl⟩ := onChannel_inv stopping
        cases made
        by_cases callback : c.writeCompleteCallback = true
        all_goals by_cases disconnecting : c.state = .KDisconnecting
        all_goals simp_all [queueInLoop, kernelWrite, shutdownInLoop]
      · rw [if_neg (fun zero => empty (List.length_eq_zero_iff.mp zero))] at finished
        cases finished
        exact ⟨rfl, .inl ⟨rfl, fun _ _ => empty⟩⟩

end Effects

end TcpConnection

namespace Lifecycle

open TcpConnection

/-- What a step of the loop thread does to the connection. Apart from the calls of user code,
only handling writability sends anything. -/
def Effect (s : Lifecycle) (next : TcpConnection) : Label → Prop
  | .user (.send message result logged) => s.conn.send message result logged = some next
  | .user .shutdown => next = s.conn.shutdown
  | .user .forceClose => next = s.conn.forceClose
  | .callback _ result => s.conn.Quiet next ∨
      (s.nextCallback = some .write ∧ s.conn.handleWrite result = some next)
  | _ => s.conn.Quiet next

variable {s next : Lifecycle}

theorem callback_effect {readv : Readv} (done : s.callback readv result = some next) :
    s.Effect next.conn (.callback readv result) := by
  rw [callback] at done
  split at done
  case h_2 => cases done
  case h_1 callback rest outer calls =>
    cases callback with
    | close =>
      obtain ⟨closed, closes, made⟩ := Option.bind_eq_some_iff.mp done
      cases made
      exact .inl (beginClose_quiet closes)
    | error =>
      cases done
      exact .inl (.refl _)
    | read =>
      obtain ⟨⟨read, closing⟩, reads, made⟩ := Option.bind_eq_some_iff.mp done
      cases made
      exact .inl (beginRead_quiet reads)
    | write =>
      obtain ⟨written, writes, made⟩ := Option.bind_eq_some_iff.mp done
      cases made
      exact .inr ⟨by rw [nextCallback, calls], writes⟩

theorem runFunctor_quiet (done : s.runFunctor = some next) : s.conn.Quiet next.conn := by
  rw [runFunctor] at done
  split at done
  case h_1 => cases done
  case h_2 functor rest functors =>
    have popped : s.conn.Quiet { s.conn with functors := rest } := .of_eq rfl rfl rfl rfl rfl
    cases functor with
    | writeComplete | highWaterMark size =>
      cases done
      exact popped
    | forceCloseInLoop =>
      obtain ⟨⟨closed, closing⟩, closes, made⟩ := Option.bind_eq_some_iff.mp done
      cases made
      exact popped.trans (beginForceClose_quiet closes)
    | connnectDestroyed =>
      obtain ⟨begun, begins, made⟩ := Option.bind_eq_some_iff.mp done
      cases made
      exact popped.trans (beginDestroy_quiet begins)

theorem user_effect {call : UserCall} (done : s.step (.user call) = some next) :
    s.Effect next.conn (.user call) := by
  obtain ⟨used, uses, made⟩ := Option.bind_eq_some_iff.mp done
  cases made
  cases call with
  | send message result logged => exact uses
  | shutdown =>
    cases uses
    rfl
  | forceClose =>
    cases uses
    rfl
  | retrieve count =>
    cases uses
    exact Quiet.of_eq rfl rfl rfl rfl rfl

/-- Every step of the loop thread has the effect of its label. -/
theorem step_effect {label : Label} (done : s.step label = some next) :
    s.Effect next.conn label := by
  cases label with
  | poll active revents =>
    cases done
    exact Quiet.of_eq rfl rfl rfl rfl rfl
  | turn =>
    simp only [step, turn] at done
    split at done
    · cases done
    · cases done
      exact Quiet.refl _
  | callback readv result => exact callback_effect done
  | endCallbacks =>
    simp only [step, endCallbacks] at done
    split at done
    · cases done
      exact Quiet.refl _
    · cases done
  | endEvents =>
    cases done
    exact Quiet.refl _
  | closeCallback =>
    simp only [step, closeCallback] at done
    split at done
    · cases done
      exact Quiet.report s.conn (by simp)
    · cases done
  | removeConnectionInLoop =>
    obtain ⟨_, _, made⟩ := Option.bind_eq_some_iff.mp done
    cases made
    exact Quiet.of_eq rfl rfl rfl rfl rfl
  | runFunctor => exact runFunctor_quiet done
  | finishDestroy =>
    simp only [step, finishDestroy] at done
    split at done
    · obtain ⟨destroyed, destroys, made⟩ := Option.bind_eq_some_iff.mp done
      cases made
      exact onChannel_quiet destroys
    · cases done
  | user call => exact user_effect done

/-- Reports are not taken back. -/
theorem Effect.grown {label : Label} {next : TcpConnection} (effect : s.Effect next label) :
    ∃ events, next.log = s.conn.log ++ events := by
  have quiet {next : TcpConnection} (quiet : s.conn.Quiet next) :
      ∃ events, next.log = s.conn.log ++ events :=
    quiet.log.imp fun _ => And.left
  have same {next : TcpConnection} (same : next.log = s.conn.log) :
      ∃ events, next.log = s.conn.log ++ events := ⟨[], by rw [same, List.append_nil]⟩
  cases label with
  | callback readv result =>
    rcases effect with silent | ⟨_, written⟩
    · exact quiet silent
    · rcases (handleWrite_inv written).2 with ⟨unchanged, _⟩ | ⟨shut, _⟩
      · exact same unchanged
      · exact ⟨[.shutdownWrite], shut⟩
  | user call =>
    cases call with
    | send message result logged => exact same (send_sent effect).log
    | shutdown =>
      cases effect
      rw [TcpConnection.shutdown]
      split_ifs
      · exact ⟨_, shutdownInLoop_log _⟩
      · exact same rfl
    | forceClose =>
      cases effect
      rw [TcpConnection.forceClose]
      split_ifs
      · exact same rfl
      · exact same rfl
    | retrieve count => exact quiet effect
  | poll | turn | endCallbacks | endEvents | closeCallback | removeConnectionInLoop | runFunctor
  | finishDestroy => exact quiet effect

/-- A closed connection stays closed. -/
theorem Living.still_closed (living : s.Living) (nextLiving : next.Living)
    {events : List ConnectionEvent} (grown : next.conn.log = s.conn.log ++ events)
    (closed : s.conn.Closed) : next.conn.Closed := by
  rcases nextLiving.downs with ⟨_, notDown⟩ | ⟨nextClosed, _⟩
  · have one := living.down closed
    rw [grown, List.count_append] at notDown
    omega
  · exact nextClosed

end Lifecycle

namespace TcpThreads

open TcpConnection

/-- The condition on a step: the state is stored while the connection is still open. -/
def Current (s : TcpThreads) : Label → Prop
  | .store _ => s.conn.Open
  | _ => True

instance (s : TcpThreads) : (label : Label) → Decidable (s.Current label)
  | .store _ => inferInstanceAs (Decidable s.conn.Open)
  | .loop _ | .runFunctor .. | .send .. | .shutdown _ | .forceClose _ | .queue _ =>
      instDecidableTrue

/-- The condition on the reads of the loop thread: one of a connection that was just closed
fails. -/
def Sound (s : TcpThreads) : Label → Prop
  | .loop label => s.life.Sound label
  | _ => True

instance (s : TcpThreads) : (label : Label) → Decidable (s.Sound label)
  | .loop label => inferInstanceAs (Decidable (s.life.Sound label))
  | .store _ | .runFunctor .. | .send .. | .shutdown _ | .forceClose _ | .queue _ =>
      instDecidableTrue

/-- The connection lives in its loop, and what it has queued is in the queue of the loop. -/
structure Alive (s : TcpThreads) : Prop where
  living : s.life.Living
  settled : s.conn.functors = []
  destroyable : .own .connnectDestroyed ∈ s.pendingFunctors → s.conn.Closed

section Steps

variable {s next : TcpThreads}

/-- The functors of the connection are exchanged for others. -/
theorem load_living {life : Lifecycle} (living : life.Living) {functors : List ConnectionFunctor}
    (destroyable : .connnectDestroyed ∈ functors → life.conn.Closed) :
    Lifecycle.Living { life with conn := { life.conn with functors := functors } } := by
  obtain ⟨ups, downs, closes, removals, _, batch, once, listed, frames, destroying⟩ := living
  have ready (before : life.conn.Ready) : Ready { life.conn with functors := functors } :=
    before.congr before.opened rfl rfl rfl
  have closed (before : life.conn.Closed) : Closed { life.conn with functors := functors } :=
    before.congr rfl rfl rfl
  refine ⟨ups, downs.imp (And.imp_left ready) (And.imp_left closed), closes, removals,
    fun queued => closed (destroyable queued), batch, once,
    fun member => (listed member).imp_left ready, ?_,
    fun member => (destroying member).imp_right closed⟩
  intro rest member
  exact (frames rest member).imp_right fun close called => (close called).imp_left ready

theorem settle_alive {life : Lifecycle} (living : life.Living)
    (destroyable : .own .connnectDestroyed ∈ s.pendingFunctors → life.conn.Closed)
    (queued : Bool) : (s.settle life queued).Alive where
  living := load_living living nofun
  settled := rfl
  destroyable := by
    intro member
    have closed : life.conn.Closed := by
      rcases List.mem_append.mp member with earlier | own
      · exact destroyable earlier
      · obtain ⟨functor, pending, same⟩ := List.mem_map.mp own
        cases same
        exact living.destroyable pending
    exact closed.congr rfl rfl rfl

/-- Other threads leave the connection as it is and queue no destruction. -/
theorem Alive.congr (alive : s.Alive) (life : next.life = s.life)
    (pending : .own .connnectDestroyed ∈ next.pendingFunctors →
      .own .connnectDestroyed ∈ s.pendingFunctors) : next.Alive where
  living := life ▸ alive.living
  settled := by
    rw [conn, life]
    exact alive.settled
  destroyable := fun member => by
    rw [conn, life]
    exact alive.destroyable (pending member)

/-- A message is given to the connection by the loop. -/
theorem sendInLoop_continues {c : TcpConnection} (registered : c.Ready ∨ c.Closed)
    (fits : result.Fits message) (logged : Nat) :
    ∃ sent, c.sendInLoop message result logged = some sent ∧ c.Continues sent := by
  rcases registered with ready | closed
  · obtain ⟨sent, sending, took⟩ := sendInLoop_took ready fits logged
    exact ⟨sent, sending, took.spares, .inl ⟨ready, took.ready⟩⟩
  · exact ⟨c.offered c message result true, if_pos closed.down, .of_eq rfl rfl rfl,
      .inr ⟨closed, closed.congr rfl rfl rfl⟩⟩

theorem shutdownInLoop_continues {c : TcpConnection} (registered : c.Ready ∨ c.Closed) :
    c.Continues c.shutdownInLoop := by
  apply Continues.of_eq registered (shutdownInLoop_spares c)
  all_goals
    rw [shutdownInLoop]
    split_ifs <;> rfl

/-- The connection is given its own functor back when the loop calls it. -/
theorem Alive.loaded (alive : s.Alive) {functor : ConnectionFunctor} {rest : List LoopFunctor}
    (pending : s.pendingFunctors = .own functor :: rest) :
    Lifecycle.Living { s.life with conn := { s.conn with functors := [functor] } } := by
  apply load_living alive.living
  intro destroys
  cases List.mem_singleton.mp destroys
  exact alive.destroyable (pending ▸ List.mem_cons_self)

theorem turn_living (alive : s.Alive) {label : Label} {base : TcpThreads} {life : Lifecycle}
    {queued : Bool} (enabled : s.Enabled label) (turn : s.Turn label base life queued) :
    life.Living ∧ ∃ events, life.conn.log = s.conn.log ++ events := by
  cases turn with
  | loop stepped =>
    exact ⟨Lifecycle.step_living _ _ _ alive.living enabled.2 stepped,
      (Lifecycle.step_effect stepped).grown⟩
  | own pending ran =>
    obtain ⟨events, grown, _⟩ := (Lifecycle.runFunctor_quiet ran).log
    obtain ⟨idle, calls, _⟩ := enabled
    exact ⟨Lifecycle.step_living _ .runFunctor life (alive.loaded pending)
      ⟨idle, calls, by simp⟩ ran, events, grown⟩
  | @sendInLoop ticket message _ _ result logged pending sends =>
    have fits : result.Fits message := enabled.2.2.2 message (by rw [nextMessage, pending]; rfl)
    obtain ⟨sent, sending, continues⟩ := sendInLoop_continues alive.living.registered fits logged
    cases sends.symm.trans sending
    exact ⟨alive.living.continue continues, [],
      by rw [(sendInLoop_sent sends).log, List.append_nil]⟩
  | shutdownInLoop pending =>
    exact ⟨alive.living.continue (shutdownInLoop_continues alive.living.registered), _,
      shutdownInLoop_log s.conn⟩

/-- A store that finds the connection open leaves it open. -/
theorem stores_alive (alive : s.Alive) (opened : s.conn.Open) {calls : Nat → Option ThreadCall} :
    Alive { s with
      life := { s.life with conn := { s.conn with state := .KDisconnecting } }
      calls := calls } := by
  have ready : s.conn.Ready :=
    alive.living.registered.resolve_right fun closed => closed.not_open opened
  have stored : s.conn.Continues { s.conn with state := .KDisconnecting } :=
    ⟨.of_eq rfl rfl rfl, .inl ⟨ready, ready.congr (.inr rfl) rfl rfl rfl⟩⟩
  refine ⟨alive.living.continue stored, alive.settled, fun member => ?_⟩
  exact absurd (alive.destroyable member).down ready.up

/-- As long as every store finds the connection open, the connection lives. -/
theorem step_alive (s : TcpThreads) (label : Label) (next : TcpThreads) (alive : s.Alive)
    (admitted : s.Enabled label ∧ s.Current label) (done : s.step label = some next) :
    next.Alive := by
  obtain ⟨enabled, current⟩ := admitted
  cases step_moves done with
  | turn turn =>
    obtain ⟨living, events, grown⟩ := turn_living alive enabled turn
    apply settle_alive living
    intro member
    exact alive.living.still_closed living grown (alive.destroyable (turn.shorter member))
  | begins begun => exact alive.congr begun.life (begun.pendingFunctors ▸ id)
  | stores calling => exact stores_alive alive current
  | sends calling => exact alive.congr rfl (by simp [returned])
  | @queues thread call calling other =>
    refine alive.congr rfl ?_
    cases call <;> simp [ThreadCall.functor]

/-- The loop finds every functor callable: a send fits what the kernel may take, and the
connection's own functors do not read. -/
theorem runFunctor_succeeds (alive : s.Alive) {logged : Nat}
    (enabled : s.Enabled (.runFunctor result logged)) :
    ∃ next, s.runFunctor result logged = some next := by
  obtain ⟨idle, calls, waiting, fits⟩ := enabled
  obtain ⟨functor, rest, pending⟩ := List.exists_cons_of_ne_nil waiting
  rw [runFunctor, pending]
  cases functor with
  | own functor =>
    rcases Lifecycle.step_decided _ .runFunctor (alive.loaded pending) ⟨idle, calls, by simp⟩ with
      ⟨_, unsound⟩ | ⟨life, ran, _⟩
    · exact absurd trivial unsound
    · exact ⟨_, Option.bind_eq_some_iff.mpr ⟨life, ran, rfl⟩⟩
  | sendInLoop ticket message =>
    obtain ⟨sent, sends, _⟩ := sendInLoop_continues alive.living.registered
      (fits message (by rw [nextMessage, pending]; rfl)) logged
    exact ⟨_, Option.bind_eq_some_iff.mpr ⟨sent, sends, rfl⟩⟩
  | shutdownInLoop => exact ⟨_, rfl⟩

/-- No assertion fails as long as the connection lives and reads are sound. -/
theorem step_succeeds (s : TcpThreads) (label : Label) (alive : s.Alive)
    (enabled : s.Enabled label) (sound : s.Sound label) : ∃ next, s.step label = some next := by
  cases label with
  | loop label =>
    rcases Lifecycle.step_decided s.life label alive.living enabled.2 with
      ⟨_, unsound⟩ | ⟨life, stepped, _⟩
    · exact absurd sound unsound
    · exact ⟨_, Option.bind_eq_some_iff.mpr ⟨life, stepped, rfl⟩⟩
  | runFunctor result logged => exact runFunctor_succeeds alive enabled
  | send | shutdown | forceClose => exact ⟨_, rfl⟩
  | store thread | queue thread =>
    obtain ⟨call, calling, _⟩ := Option.map_eq_some_iff.mp enabled
    exact ⟨_, Option.bind_eq_some_iff.mpr ⟨call, calling, rfl⟩⟩

end Steps

theorem established_alive (fd : Nat) (poller : EPollPoller)
    (writeCompleteCallback highWaterMarkCallback : Bool) (highWaterMark : Nat) :
    Alive (established (TcpConnection.established fd poller writeCompleteCallback
      highWaterMarkCallback highWaterMark)) where
  living := Lifecycle.established_living fd poller writeCompleteCallback highWaterMarkCallback
    highWaterMark
  settled := rfl
  destroyable := nofun

/-- The connection was closed at most once: its user was told so at most once, the server was
called back at most once, and the server finds every connection that it is asked to remove. -/
structure ClosedOnce (s : TcpThreads) : Prop where
  downs : s.conn.log.count (.connection false) ≤ 1
  closes : s.conn.log.count .close ≤ 1
  erasable : 0 < s.life.removing → s.life.connections = true

/-- A live connection has been closed at most once. -/
theorem Alive.closedOnce {s : TcpThreads} (alive : s.Alive) : s.ClosedOnce := by
  have closes := alive.living.closes
  have removals := alive.living.removals
  have downs : s.conn.log.count (.connection false) ≤ 1 := by
    rcases alive.living.downs with ⟨_, notDown⟩ | ⟨_, one⟩
    · exact notDown ▸ Nat.zero_le 1
    · exact Nat.le_of_eq one
  refine ⟨downs, ?_, fun asked => ?_⟩
  · rw [conn] at downs ⊢
    omega
  · rw [conn] at downs
    by_contra gone
    rw [if_neg gone] at removals
    omega

/-- Every run whose stores all find the connection open, and whose reads of a connection that
was just closed fail, succeeds and closes the connection at most once.

Proof: such a store keeps an open connection open, and every other step of another thread
leaves the connection alone. A step of the loop thread keeps the connection alive whatever
the queue holds: a close begins only in an open connection and is never taken back, so that
the destruction that follows it finds the connection closed. The only assertion that a step
could fail is that of a close in a closed connection, which a sound read does not enter. -/
theorem closed_once (fd : Nat) (poller : EPollPoller)
    (writeCompleteCallback highWaterMarkCallback : Bool) (highWaterMark : Nat)
    (unknown : poller.channels fd = false) (absent : poller.interest fd = none)
    (start : TcpConnection) (connected : (new fd poller writeCompleteCallback highWaterMarkCallback
      highWaterMark).connectEstablished = some start)
    (labels : List Label) (valid : system.Valid (established start) labels)
    (current : system.Along Current (established start) labels)
    (sound : system.Along Sound (established start) labels) :
    ∃ final, system.run (established start) labels = some final ∧ final.ClosedOnce := by
  cases (connectEstablished_exact unknown absent).symm.trans connected
  have initial := established_alive fd poller writeCompleteCallback highWaterMarkCallback
    highWaterMark
  have along := (System.along_and _ _ _ labels).mpr
    ⟨(System.along_and Enabled Current _ labels).mpr ⟨valid, current⟩, sound⟩
  obtain ⟨final, finished, alive⟩ := System.run_safe Alive
    (fun s label alive ⟨admitted, sound⟩ =>
      have ⟨next, stepped⟩ := step_succeeds s label alive admitted.1 sound
      ⟨next, stepped, step_alive s label next alive admitted stepped⟩)
    _ labels initial along
  exact ⟨final, finished, alive.closedOnce⟩

/-- Two threads force a close and a third shuts the connection down, all before the peer
hangs up; the read of the same turn fails, and the functors that the threads have queued find
the connection closed. -/
def contended : List Label :=
  [.forceClose 0, .shutdown 1, .forceClose 2, .store 1, .store 0, .queue 0, .store 2,
    .loop (.poll [7] (POLLHUP ||| POLLPRI)), .loop .turn,
    .loop (.callback (.failed 0) (.wrote 0)), .queue 2, .loop .closeCallback,
    .loop .removeConnectionInLoop, .loop (.callback (.failed ECONNRESET) (.wrote 0)),
    .loop .endCallbacks, .queue 1, .loop .endEvents, .runFunctor (.wrote 0) 0,
    .runFunctor (.wrote 0) 0, .runFunctor (.wrote 0) 0, .loop .finishDestroy,
    .runFunctor (.wrote 0) 0]

/-- Two forced closes, a shutdown and the peer meet, and the connection closes once. -/
theorem closed_once_contended :
    ∃ final, system.run (established (TcpConnection.established 7 EPollPoller.initial true true 64))
        contended = some final ∧ final.ClosedOnce :=
  closed_once 7 EPollPoller.initial true true 64 rfl rfl
    (TcpConnection.established 7 EPollPoller.initial true true 64)
    (connectEstablished_exact rfl rfl) contended (by decide) (by decide) (by decide)

/-- Thread 0 finds the connection up and is about to force a close. The peer closes the
connection meanwhile, and the close runs to its end before thread 0 goes on. -/
def overtaken : List Label :=
  [.forceClose 0, .loop (.poll [7] POLLIN), .loop .turn,
    .loop (.callback (.delivered []) (.wrote 0)), .loop .closeCallback,
    .loop .removeConnectionInLoop, .loop .endCallbacks, .loop .endEvents, .store 0, .queue 0,
    .runFunctor (.wrote 0) 0, .loop .finishDestroy, .runFunctor (.wrote 0) 0,
    .loop .closeCallback]

/-- The store and the queued functor close the connection a second time, and the server does
not find it in its map. -/
theorem close_overtaken_by_store :
    ∃ start final, (new 7 EPollPoller.initial true true 64).connectEstablished = some start ∧
      system.Valid (established start) overtaken ∧
      system.Along Sound (established start) overtaken ∧
      system.run (established start) overtaken = some final ∧
      final.conn.log =
        [.connection true, .connection false, .close, .connection false, .close] ∧
      ¬ final.ClosedOnce ∧
      system.enabled final (.loop .removeConnectionInLoop) ∧
      system.step final (.loop .removeConnectionInLoop) = none := by
  refine ⟨TcpConnection.established 7 EPollPoller.initial true true 64, _,
    connectEstablished_exact rfl rfl, by decide, by decide, rfl, by decide, fun once => ?_,
    by decide, rfl⟩
  exact absurd once.downs (by decide)

end TcpThreads

end Moban
