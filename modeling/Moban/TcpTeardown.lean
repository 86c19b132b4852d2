import Moban.TcpLifetime

/-!
# The destruction of a connection

`connnectDestroyed` runs when the server is destroyed or after it has removed a closed
connection. It closes a connection that is up and removes its channel. A connection that
was shut down or is to be closed by force, but is not closed yet, is neither: its channel
is still watched, the removal fails its assertion, and nobody is told that it is down.

The server may also be destroyed by the callback of another channel. The loop then
refuses to remove a channel that is listed in the batch it is handling.
-/

namespace Moban

open Channel Runs

namespace TcpConnection

/-- User code calls the connection several times. -/
def userCalls : TcpConnection → List UserCall → Option TcpConnection
  | c, [] => some c
  | c, call :: rest => do
      let next ← c.userCall call
      next.userCalls rest

/-- A connection that was up is reported down, and the user's callback may use it. -/
def connnectDestroyed (c : TcpConnection) (loop : ActiveEvents) (calls : List UserCall) :
    Option TcpConnection := do
  let begun ← c.beginDestroy
  let reported ← if c.state = .KConnected then begun.userCalls calls else some begun
  reported.endDestroy loop

/-- The channel is unknown to the poller and the kernel, and it was reported once that the
connection is down. -/
structure TornDown (c : TcpConnection) (fd : Nat) : Prop where
  events : c.channel.isNoneEvent = true
  table : c.poller.channels fd = false
  interest : c.poller.interest fd = none
  downs : c.log.count (.connection false) = 1

section Destruction

variable {c : TcpConnection} {loop : ActiveEvents}

theorem userCalls_closed (closed : c.Closed) {calls : List UserCall}
    (fits : ∀ call ∈ calls, call.Fits) :
    ∃ next, c.userCalls calls = some next ∧ next.Closed ∧ c.Spares next := by
  induction calls generalizing c with
  | nil => exact ⟨c, rfl, closed, .of_eq rfl rfl rfl⟩
  | cons call rest ih =>
    obtain ⟨middle, called, spares, registered⟩ :=
      userCall_continues (.inr closed) (fits call List.mem_cons_self)
    have stays : middle.Closed := by
      rcases registered with ⟨ready, _⟩ | ⟨_, after⟩
      · exact absurd closed.down ready.up
      · exact after
    obtain ⟨next, finished, nextClosed, later⟩ := ih stays
      (fun other member => fits other (List.mem_cons_of_mem _ member))
    refine ⟨next, ?_, nextClosed, spares.trans later⟩
    rw [userCalls, called]
    exact finished

theorem beginDestroy_connected (ready : c.Ready) (connected : c.state = .KConnected) :
    c.beginDestroy = some c.down := by
  have watching : Watching { c with state := .KDisconnected } :=
    ⟨ready.watching.index, ready.watching.table, ready.watching.interest, ready.watching.events⟩
  rw [beginDestroy, if_pos connected, disableAll_exact watching]
  rfl

/-- A closed connection is torn down unless the loop refuses to remove its channel. -/
theorem endDestroy_iff (loop : ActiveEvents) (closed : c.Closed)
    (downs : c.log.count (.connection false) = 1) :
    (∃ final, c.endDestroy loop = some final ∧ final.TornDown c.channel.fd) ↔
      loop.Removable c.channel.fd := by
  constructor
  · rintro ⟨final, destroyed, _⟩
    by_contra listed
    rw [endDestroy, remove_listed listed] at destroyed
    cases destroyed
  · intro removable
    refine ⟨c.unregister, remove_exact closed.unwatched removable, ?_⟩
    refine ⟨decide_eq_true closed.unwatched.events, Function.update_self _ _ _,
      closed.unwatched.interest, downs⟩

/-- The destruction of an open or closed connection, in terms of its state and of the batch
that the loop is handling. -/
theorem connnectDestroyed_iff (registered : (c.Ready ∧ c.log.count (.connection false) = 0) ∨
      (c.Closed ∧ c.log.count (.connection false) = 1)) {calls : List UserCall}
    (fits : ∀ call ∈ calls, call.Fits) :
    (∃ final, c.connnectDestroyed loop calls = some final ∧ final.TornDown c.channel.fd) ↔
      c.state ≠ .KDisconnecting ∧ loop.Removable c.channel.fd := by
  rcases registered with ⟨ready, notDown⟩ | ⟨closed, one⟩
  · rcases ready.opened with connected | disconnecting
    · -- The connection is closed here, and stays so while the user is told.
      obtain ⟨reported, called, closed, spares⟩ := userCalls_closed (down_closed c) fits
      have destroyed : c.connnectDestroyed loop calls = reported.endDestroy loop := by
        simp [connnectDestroyed, beginDestroy_connected ready connected, connected, called]
      have same : reported.channel.fd = c.channel.fd := spares.fd
      have before : reported.log.count (.connection false) = c.down.log.count (.connection false) :=
        spares.count nofun
      have downs : reported.log.count (.connection false) = 1 := by
        rw [before, TcpConnection.down, List.count_append, notDown]
        rfl
      rw [destroyed, ← same, endDestroy_iff loop closed downs]
      simp [connected]
    · -- The channel is still watched, so that its removal fails.
      have failed : c.connnectDestroyed loop calls = none := by
        simp [connnectDestroyed, beginDestroy, disconnecting, endDestroy,
          remove_watching ready.watching]
      simp [failed, disconnecting]
  · have destroyed : c.connnectDestroyed loop calls = c.endDestroy loop := by
      simp [connnectDestroyed, beginDestroy, closed.down]
    rw [destroyed, endDestroy_iff loop closed one]
    simp [closed.down]

end Destruction

end TcpConnection

namespace Lifecycle

open TcpConnection

/-- Whenever an established connection is destroyed, the destruction succeeds, the channel is
unknown to the poller and the kernel afterwards, and the connection was reported down
exactly once, if and only if it is not half closed and the loop's batch allows the removal
of its channel.

Proof: a life keeps the invariant, so that the connection is open and was never reported
down, or is closed and was reported down once. -/
theorem teardown_iff (fd : Nat) (poller : EPollPoller)
    (writeCompleteCallback highWaterMarkCallback : Bool) (highWaterMark : Nat)
    (unknown : poller.channels fd = false) (absent : poller.interest fd = none)
    (start : TcpConnection) (connected : (new fd poller writeCompleteCallback highWaterMarkCallback
      highWaterMark).connectEstablished = some start)
    (labels : List Label) (valid : system.Valid (established start) labels) (s : Lifecycle)
    (reached : system.run (established start) labels = some s)
    (calls : List UserCall) (fits : ∀ call ∈ calls, call.Fits) :
    (∃ final, s.conn.connnectDestroyed s.loop calls = some final ∧ final.TornDown s.fd) ↔
      s.conn.state ≠ .KDisconnecting ∧ s.loop.Removable s.fd := by
  cases (connectEstablished_exact unknown absent).symm.trans connected
  have living : s.Living := System.run_invariant Living step_living _ s labels
    (established_living _ _ _ _ _) valid reached
  exact connnectDestroyed_iff living.downs fits

/-- The server is destroyed by the message callback of a connection that still has bytes to
write, and the user tries to send when told that it is down. -/
theorem teardown_iff_pending : ∃ s final, system.run
        (established (TcpConnection.established 7 EPollPoller.initial true true 64))
        [.user (.send [1, 2, 3] (.wrote 1) 0), .poll [3, 7] POLLIN, .turn, .turn,
          .callback (.delivered [9]) (.wrote 0)] = some s ∧
      s.conn.connnectDestroyed s.loop [.send [4] (.wrote 1) 0, .forceClose] = some final ∧
      final.TornDown s.fd := by
  obtain ⟨final, destroyed⟩ := (teardown_iff 7 EPollPoller.initial true true 64 rfl rfl
    (TcpConnection.established 7 EPollPoller.initial true true 64)
    (connectEstablished_exact rfl rfl)
    [.user (.send [1, 2, 3] (.wrote 1) 0), .poll [3, 7] POLLIN, .turn, .turn,
      .callback (.delivered [9]) (.wrote 0)] (by decide) _ rfl
    [.send [4] (.wrote 1) 0, .forceClose] (by decide)).mpr (by decide)
  exact ⟨_, final, rfl, destroyed⟩

/-- The server is destroyed while a connection is half closed, and while another channel of
the batch has its turn. The removal of the channel fails both times. -/
theorem half_closed_teardown_fails :
    ∃ start s t, (new 7 EPollPoller.initial true true 64).connectEstablished = some start ∧
      system.Valid (established start) [.user .shutdown] ∧
      system.run (established start) [.user .shutdown] = some s ∧
      s.conn.state = .KDisconnecting ∧ s.conn.log.count (.connection false) = 0 ∧
      s.conn.connnectDestroyed s.loop [] = none ∧
      system.Valid (established start) [.poll [3, 7] POLLIN, .turn] ∧
      system.run (established start) [.poll [3, 7] POLLIN, .turn] = some t ∧
      t.conn.connnectDestroyed t.loop [] = none :=
  ⟨TcpConnection.established 7 EPollPoller.initial true true 64, _, _,
    connectEstablished_exact rfl rfl, by decide, rfl, rfl, by decide, rfl, by decide, rfl, rfl⟩

end Lifecycle

end Moban
