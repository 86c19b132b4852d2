import Moban.TcpTeardown
import Moban.TcpThreads

/-!
# The lifetime of a server and the callbacks of its connections

A server lives on a base loop and spreads its connections over the loops of its thread pool.
A connection that closes calls back into the server, and the server removes it in the base
loop. Both calls hold a bare pointer to the server. The destructor runs on the base loop. It
posts the teardown of every connection to the loop of that connection, and then stops and
joins the pool; it does not wait for callbacks. A step that calls a server whose destructor
has started fails.

A connection is reduced to its loop, its state, and whether its loop thread is between the two
callbacks of `handleClose`, where user code runs. Its channel is watched while the connection
is open. The map of the server holds numbers in place of names. What a connection sends and
receives has no part in this, and shutting down its writing side only changes its state.

Any thread may call `shutdown` and `forceClose`. Such a call reads the state, stores a new one
and queues a functor, each in a step of its own, so that the store may come after a close.
-/

namespace Moban

open Runs

/-- The base loop of a server, or a loop of its thread pool. -/
inductive ServerLoop where
  | base
  | io (index : Nat)
deriving DecidableEq

/-- A connection of a server. -/
structure ServerConnection where
  loop : ServerLoop
  state : StateE
  closing : Bool
deriving DecidableEq

/-- What is called later, with the number of the connection. -/
inductive ServerFunctor where
  | connectEstablished (id : Nat)
  | connnectDestroyed (id : Nat)
  | forceCloseInLoop (id : Nat)
  | removeConnectionInLoop (id : Nat)
deriving DecidableEq

/-- The functor calls the server. -/
def ServerFunctor.removes : ServerFunctor → Bool
  | .removeConnectionInLoop _ => true
  | _ => false

/-- A call of `shutdown` or `forceClose` that has found the connection in the right state. -/
structure ServerCall where
  id : Nat
  forced : Bool
  stored : Bool
deriving DecidableEq

/-- Where the server is in its life. The destructor ends when the pool has been joined. -/
inductive ServerStage where
  | alive
  | destroying
  | destroyed
deriving DecidableEq

namespace ServerConnection

def Open (c : ServerConnection) : Prop := c.state = .KConnected ∨ c.state = .KDisconnecting

instance (c : ServerConnection) : Decidable c.Open := instDecidableOr

def new (loop : ServerLoop) : ServerConnection where
  loop := loop
  state := .KConnecting
  closing := false

def connectEstablished (c : ServerConnection) : Option ServerConnection := do
  guard (c.state = .KConnecting)
  return { c with state := .KConnected }

/-- `handleClose` up to and including the connection callback. -/
def beginClose (c : ServerConnection) : Option ServerConnection := do
  guard c.Open
  return { c with state := .KDisconnected, closing := true }

/-- The second part of `shutdown` and `forceClose`: the new state is stored, whatever the
connection has become since its state was read. -/
def store (c : ServerConnection) : ServerConnection := { c with state := .KDisconnecting }

/-- The removal of the channel asserts that nothing is watched, and fails for a channel that
the poller does not know yet. -/
def connnectDestroyed (c : ServerConnection) : Option ServerConnection :=
  match c.state with
  | .KConnected => some { c with state := .KDisconnected }
  | .KDisconnected => some c
  | .KConnecting | .KDisconnecting => none

/-- The connection was established and is not up any more. -/
def Left (c : ServerConnection) : Prop := c.state = .KDisconnecting ∨ c.state = .KDisconnected

/-- What can become of a connection. It stays in its loop, and one that was given up does not
come back; it may seem to be half closed again. -/
structure Becomes (c next : ServerConnection) : Prop where
  loop : next.loop = c.loop
  left : c.Left → next.Left

section Operations

variable {c next : ServerConnection}

theorem Becomes.refl (c : ServerConnection) : c.Becomes c := ⟨rfl, id⟩

theorem Left.not_connecting (left : c.Left) : c.state ≠ .KConnecting := by
  rcases left with disconnecting | down
  · simp [disconnecting]
  · simp [down]

theorem Left.disconnecting (left : c.Left) (opened : c.Open) : c.state = .KDisconnecting := by
  rcases left with disconnecting | down
  · exact disconnecting
  · simp [Open, down] at opened

theorem connectEstablished_inv (done : c.connectEstablished = some next) :
    c.state = .KConnecting ∧ next = { c with state := .KConnected } := by
  obtain ⟨_, connecting, result⟩ := Option.bind_eq_some_iff.mp done
  cases result
  exact ⟨(Option.guard_eq_some' _).mp connecting, rfl⟩

theorem beginClose_inv (done : c.beginClose = some next) :
    c.Open ∧ next = { c with state := .KDisconnected, closing := true } := by
  obtain ⟨_, opened, result⟩ := Option.bind_eq_some_iff.mp done
  cases result
  exact ⟨(Option.guard_eq_some' _).mp opened, rfl⟩

/-- A teardown that succeeds leaves the connection down. -/
theorem connnectDestroyed_inv (done : c.connnectDestroyed = some next) :
    next = { c with state := .KDisconnected } := by
  unfold connnectDestroyed at done
  split at done
  · exact (Option.some.inj done).symm
  case h_2 down =>
    cases done
    rw [← down]
  · cases done
  · cases done

end Operations

/-! ### Agreement with the connection in its loop thread -/

section Agreement

variable {c : ServerConnection} {conn final : TcpConnection}

theorem onChannel_state {operation : EPollPoller → Channel → Option (EPollPoller × Channel)}
    (done : conn.onChannel operation = some final) : final.state = conn.state := by
  obtain ⟨_, _, result⟩ := Option.bind_eq_some_iff.mp done
  cases result
  rfl

theorem open_iff (same : c.state = conn.state) : c.Open ↔ conn.Open := by
  rw [Open, TcpConnection.Open, same]

theorem connectEstablished_agrees (same : c.state = conn.state)
    (done : conn.connectEstablished = some final) :
    ∃ next, c.connectEstablished = some next ∧ next.state = final.state := by
  obtain ⟨_, connecting, rest⟩ := Option.bind_eq_some_iff.mp done
  obtain ⟨reading, enabled, result⟩ := Option.bind_eq_some_iff.mp rest
  have here : c.state = .KConnecting := same.trans ((Option.guard_eq_some' _).mp connecting)
  have state := onChannel_state enabled
  cases result
  exact ⟨{ c with state := .KConnected }, by simp [connectEstablished, here], state.symm⟩

theorem beginClose_agrees (same : c.state = conn.state) (done : conn.beginClose = some final) :
    ∃ next, c.beginClose = some next ∧ next.state = final.state := by
  obtain ⟨_, opened, rest⟩ := Option.bind_eq_some_iff.mp done
  obtain ⟨closed, disabled, result⟩ := Option.bind_eq_some_iff.mp rest
  have here : c.Open := (open_iff same).mpr ((Option.guard_eq_some' _).mp opened)
  have state := onChannel_state disabled
  cases result
  exact ⟨{ c with state := .KDisconnected, closing := true }, by simp [beginClose, here],
    state.symm⟩

variable {s next : TcpThreads} {thread : Nat}

/-- Another thread goes on with a `shutdown` if it finds the connection up. -/
theorem shutdown_agrees (same : c.state = s.conn.state) : (s.shutdown thread).calls thread =
      if c.state = .KConnected then some (.shutdown false) else s.calls thread := by
  simp only [TcpThreads.shutdown, same]
  split_ifs <;> simp

/-- Another thread goes on with a `forceClose` if it finds the connection open. -/
theorem forceClose_agrees (same : c.state = s.conn.state) : (s.forceClose thread).calls thread =
      if c.Open then some (.forceClose false) else s.calls thread := by
  simp only [TcpThreads.forceClose, open_iff same]
  split_ifs <;> simp

theorem store_agrees (done : s.store thread = some next) : c.store.state = next.conn.state := by
  obtain ⟨_, _, made⟩ := Option.bind_eq_some_iff.mp done
  cases made
  rfl

/-- A teardown that succeeds in the loop thread does so here: it found the connection up, or
closed. -/
theorem connnectDestroyed_agrees (same : c.state = conn.state)
    (registered : conn.Ready ∨ conn.Closed) {loop : ActiveEvents} {calls : List UserCall}
    (fits : ∀ call ∈ calls, call.Fits) (done : conn.connnectDestroyed loop calls = some final) :
    ∃ next, c.connnectDestroyed = some next ∧ next.state = final.state := by
  rcases registered with ready | closed
  · rcases ready.opened with connected | disconnecting
    · obtain ⟨reported, called, closed, _⟩ :=
        TcpConnection.userCalls_closed (TcpConnection.down_closed conn) fits
      have destroyed : conn.connnectDestroyed loop calls = reported.endDestroy loop := by
        simp [TcpConnection.connnectDestroyed, TcpConnection.beginDestroy_connected ready connected,
          connected, called]
      have state := onChannel_state (destroyed.symm.trans done)
      exact ⟨{ c with state := .KDisconnected }, by simp [connnectDestroyed, same, connected],
        (state.trans closed.down).symm⟩
    · -- The channel is still watched, so that its removal fails.
      have failed : conn.connnectDestroyed loop calls = none := by
        simp [TcpConnection.connnectDestroyed, TcpConnection.beginDestroy, disconnecting,
          TcpConnection.endDestroy, TcpConnection.remove_watching ready.watching]
      cases failed.symm.trans done
  · have destroyed : conn.connnectDestroyed loop calls = conn.endDestroy loop := by
      simp [TcpConnection.connnectDestroyed, TcpConnection.beginDestroy, closed.down]
    have state := onChannel_state (destroyed.symm.trans done)
    exact ⟨c, by simp [connnectDestroyed, same, closed.down], same.trans state.symm⟩

end Agreement

end ServerConnection

/-- A server, its loops, and the connections it has made, which are numbered in order. -/
structure TcpServer where
  stage : ServerStage
  /-- The number of loops in the pool. -/
  numThread : Nat
  next : Nat
  conns : List ServerConnection
  /-- The connections that are in the server's map. -/
  connections : Finset Nat
  pendingFunctors : ServerLoop → List ServerFunctor
  /-- The calls of `shutdown` and `forceClose` that are in progress. -/
  calls : List ServerCall

namespace TcpServer

def initial (numThread : Nat) : TcpServer where
  stage := .alive
  numThread := numThread
  next := 0
  conns := []
  connections := ∅
  pendingFunctors := fun _ => []
  calls := []

def queueInLoop (s : TcpServer) (loop : ServerLoop) (functor : ServerFunctor) : TcpServer :=
  { s with
    pendingFunctors :=
      Function.update s.pendingFunctors loop (s.pendingFunctors loop ++ [functor]) }

/-- Let a connection do something. -/
def onConnection (s : TcpServer) (id : Nat)
    (operation : ServerConnection → Option ServerConnection) : Option TcpServer := do
  let c ← s.conns[id]?
  let after ← operation c
  return { s with conns := s.conns.set id after }

/-! ## The server -/

/-- The loop of the next connection, and the position of the loop after it. -/
def getNextLoop (s : TcpServer) : ServerLoop × Nat :=
  if s.numThread = 0 then (.base, s.next)
  else (.io s.next, if s.next + 1 ≥ s.numThread then 0 else s.next + 1)

/-- A new connection in the map of the server. -/
def addConnection (s : TcpServer) (loop : ServerLoop) (next : Nat) : TcpServer :=
  { s with
    next := next
    conns := s.conns ++ [ServerConnection.new loop]
    connections := insert s.conns.length s.connections }

def newConnection (s : TcpServer) : Option TcpServer :=
  let (loop, next) := s.getNextLoop
  let id := s.conns.length
  let made := s.addConnection loop next
  if loop = .base then made.onConnection id ServerConnection.connectEstablished
  else some (made.queueInLoop loop (.connectEstablished id))

/-- The assertion requires that the connection was in the map. -/
def removeConnectionInLoop (s : TcpServer) (id : Nat) : Option TcpServer := do
  guard (s.stage = .alive)
  guard (id ∈ s.connections)
  let c ← s.conns[id]?
  return { s with connections := s.connections.erase id }.queueInLoop c.loop (.connnectDestroyed id)

/-- Called in the given loop. -/
def removeConnection (s : TcpServer) (caller : ServerLoop) (id : Nat) : Option TcpServer := do
  guard (s.stage = .alive)
  if caller = .base then s.removeConnectionInLoop id
  else some (s.queueInLoop .base (.removeConnectionInLoop id))

/-- The destructor starts. -/
def destroy (s : TcpServer) : TcpServer := { s with stage := .destroying }

/-- `runInLoop` of the teardown of a connection, called in the base loop. -/
def postTeardown (s : TcpServer) (loop : ServerLoop) (id : Nat) : Option TcpServer :=
  if loop = .base then s.onConnection id ServerConnection.connnectDestroyed
  else some (s.queueInLoop loop (.connnectDestroyed id))

/-- The destructor takes a connection out of the map and posts its teardown. -/
def destroyNext (s : TcpServer) (id : Nat) : Option TcpServer := do
  let c ← s.conns[id]?
  let posted ← s.postTeardown c.loop id
  return { posted with connections := posted.connections.erase id }

/-- The thread pool has joined its threads, and the destructor ends. -/
def destroyed (s : TcpServer) : TcpServer := { s with stage := .destroyed }

/-! ## The connections -/

/-- The rest of `handleClose`. -/
def closeCallback (s : TcpServer) (id : Nat) : Option TcpServer := do
  let c ← s.conns[id]?
  let returning := { s with conns := s.conns.set id { c with closing := false } }
  returning.removeConnection c.loop id

def forceCloseInLoop (s : TcpServer) (id : Nat) : Option TcpServer := do
  let c ← s.conns[id]?
  if c.Open then s.onConnection id ServerConnection.beginClose else some s

/-- The first part of a call: the state is read, and if it is right the call goes on. -/
def ask (s : TcpServer) (id : Nat) (forced : Bool) (right : ServerConnection → Bool) :
    Option TcpServer := do
  let c ← s.conns[id]?
  return if right c then { s with calls := s.calls ++ [{ id, forced, stored := false }] } else s

/-- Only a connection that is up is shut down. -/
def shutdown (s : TcpServer) (id : Nat) : Option TcpServer :=
  s.ask id false fun c => c.state = .KConnected

/-- Only an open connection is closed. -/
def forceClose (s : TcpServer) (id : Nat) : Option TcpServer :=
  s.ask id true fun c => c.Open

/-- The second part of a call. -/
def store (s : TcpServer) (index : Nat) : Option TcpServer := do
  let call ← s.calls[index]?
  let stored ← s.onConnection call.id fun c => some c.store
  return { stored with calls := s.calls.set index { call with stored := true } }

/-- The last part of a call: a forced close queues its functor. That of a shutdown is left out,
since it changes nothing here. -/
def queue (s : TcpServer) (index : Nat) : Option TcpServer := do
  let call ← s.calls[index]?
  let c ← s.conns[call.id]?
  let returned := { s with calls := s.calls.eraseIdx index }
  return if call.forced then returned.queueInLoop c.loop (.forceCloseInLoop call.id) else returned

/-- Call a functor in its loop. -/
def call (s : TcpServer) : ServerFunctor → Option TcpServer
  | .connectEstablished id => s.onConnection id ServerConnection.connectEstablished
  | .connnectDestroyed id => s.onConnection id ServerConnection.connnectDestroyed
  | .forceCloseInLoop id => s.forceCloseInLoop id
  | .removeConnectionInLoop id => s.removeConnectionInLoop id

def runFunctor (s : TcpServer) (loop : ServerLoop) : Option TcpServer :=
  match s.pendingFunctors loop with
  | [] => some s
  | functor :: rest =>
      { s with pendingFunctors := Function.update s.pendingFunctors loop rest }.call functor

/-! ## Runs -/

inductive Label where
  | newConnection
  | handleClose (id : Nat)
  | closeCallback (id : Nat)
  | shutdown (id : Nat)
  | forceClose (id : Nat)
  | store (index : Nat)
  | queue (index : Nat)
  | runFunctor (loop : ServerLoop)
  | destroy
  | destroyNext (id : Nat)
  | destroyed
deriving DecidableEq

def step (s : TcpServer) : Label → Option TcpServer
  | .newConnection => s.newConnection
  | .handleClose id => s.onConnection id ServerConnection.beginClose
  | .closeCallback id => s.closeCallback id
  | .shutdown id => s.shutdown id
  | .forceClose id => s.forceClose id
  | .store index => s.store index
  | .queue index => s.queue index
  | .runFunctor loop => s.runFunctor loop
  | .destroy => some s.destroy
  | .destroyNext id => s.destroyNext id
  | .destroyed => some s.destroyed

/-- The thread of a loop is not in the destructor, and has not been joined. -/
def Running (s : TcpServer) : ServerLoop → Prop
  | .base => s.stage ≠ .destroying
  | .io _ => s.stage ≠ .destroyed

/-- The thread of a loop is in no callback that `handleClose` waits for. -/
def Idle (s : TcpServer) (loop : ServerLoop) : Prop :=
  s.Running loop ∧ ∀ c ∈ s.conns, c.loop = loop → c.closing = false

/-- A loop exists. -/
def Exists (s : TcpServer) : ServerLoop → Prop
  | .base => True
  | .io _ => s.stage ≠ .destroyed

/-- Connections are accepted while the server lives. An event closes a connection that is
watched. Any thread may shut a connection down or close it by force while its loop exists, and
the parts of its call may come at any later time. The server may be destroyed by any code of
the base loop, and its pool is joined when every teardown is posted and no thread of the pool
is in a callback. -/
def Enabled (s : TcpServer) : Label → Prop
  | .newConnection => s.stage = .alive ∧ s.Idle .base
  | .handleClose id => ∃ c ∈ s.conns[id]?, c.Open ∧ s.Idle c.loop
  | .closeCallback id => ∃ c ∈ s.conns[id]?, c.closing = true ∧ s.Running c.loop
  | .shutdown id | .forceClose id => ∃ c ∈ s.conns[id]?, s.Exists c.loop
  | .store index => ∃ call ∈ s.calls[index]?, call.stored = false
  | .queue index => ∃ call ∈ s.calls[index]?, call.stored = true ∧
      ∃ c ∈ s.conns[call.id]?, s.Exists c.loop
  | .runFunctor loop => s.pendingFunctors loop ≠ [] ∧ s.Idle loop
  | .destroy => s.stage = .alive
  | .destroyNext id => s.stage = .destroying ∧ id ∈ s.connections
  | .destroyed => s.stage = .destroying ∧ s.connections = ∅ ∧
      ∀ c ∈ s.conns, c.loop ≠ .base → c.closing = false

instance (s : TcpServer) : (loop : ServerLoop) → Decidable (s.Running loop)
  | .base | .io _ => instDecidableNot

instance (s : TcpServer) (loop : ServerLoop) : Decidable (s.Idle loop) := instDecidableAnd

instance (s : TcpServer) : (loop : ServerLoop) → Decidable (s.Exists loop)
  | .base => instDecidableTrue
  | .io _ => instDecidableNot

instance (s : TcpServer) : DecidablePred s.Enabled
  | .newConnection | .runFunctor _ | .destroyNext _ | .destroyed => instDecidableAnd
  | .handleClose _ | .closeCallback _ | .shutdown _ | .forceClose _ | .store _ | .queue _ =>
      inferInstanceAs (Decidable (∃ _ ∈ _, _))
  | .destroy => decEq _ _

def system : System TcpServer Label where
  step := step
  enabled := Enabled

instance (s : TcpServer) (label : Label) : Decidable (system.enabled s label) :=
  inferInstanceAs (Decidable (s.Enabled label))

/-! ## What keeps a destroyed server from being called -/

/-- The step calls neither `removeConnection` nor `removeConnectionInLoop`, or the destructor
has not started. -/
def CallsLive (s : TcpServer) : Label → Prop
  | .closeCallback _ => s.stage = .alive
  | .runFunctor loop =>
      ∀ functor ∈ (s.pendingFunctors loop).head?, functor.removes = true → s.stage = .alive
  | _ => True

/-- No close is in progress: no connection is between the callbacks of `handleClose`, none
waits to be removed, none is half closed, and no thread is in a call that will give one up. -/
structure Calm (s : TcpServer) : Prop where
  returned : ∀ c ∈ s.conns, c.closing = false
  settled : ∀ c ∈ s.conns, c.state ≠ .KDisconnecting
  unasked : ∀ functor ∈ s.pendingFunctors .base, functor.removes = false
  uncalled : s.calls = []

/-- When the destructor starts, no close is in progress, and while it runs nobody closes a
connection: neither the peer nor a call of another thread. -/
def Considerate (s : TcpServer) : Label → Prop
  | .destroy => s.Calm
  | .handleClose _ | .shutdown _ | .forceClose _ => s.stage ≠ .destroying
  | _ => True

instance (s : TcpServer) : Decidable s.Calm :=
  decidable_of_iff ((∀ c ∈ s.conns, c.closing = false) ∧
      (∀ c ∈ s.conns, c.state ≠ .KDisconnecting) ∧
      (∀ functor ∈ s.pendingFunctors .base, functor.removes = false) ∧ s.calls = [])
    ⟨fun ⟨returned, settled, unasked, uncalled⟩ => ⟨returned, settled, unasked, uncalled⟩,
      fun calm => ⟨calm.returned, calm.settled, calm.unasked, calm.uncalled⟩⟩

instance (s : TcpServer) : DecidablePred s.Considerate
  | .destroy => inferInstanceAs (Decidable s.Calm)
  | .handleClose _ | .shutdown _ | .forceClose _ => instDecidableNot
  | .newConnection | .closeCallback _ | .store _ | .queue _ | .runFunctor _ | .destroyNext _
  | .destroyed => instDecidableTrue

instance (s : TcpServer) : DecidablePred s.CallsLive
  | .closeCallback _ => decEq _ _
  | .runFunctor _ => inferInstanceAs (Decidable (∀ _ ∈ _, _))
  | .newConnection | .handleClose _ | .shutdown _ | .forceClose _ | .store _ | .queue _
  | .destroy | .destroyNext _ | .destroyed => instDecidableTrue

/-- A functor waits in the loop it belongs to, for a connection in a state that fits. -/
def Home (s : TcpServer) (loop : ServerLoop) : ServerFunctor → Prop
  | .connectEstablished id | .connnectDestroyed id => ∃ c, s.conns[id]? = some c ∧ c.loop = loop
  | .forceCloseInLoop id => ∃ c, s.conns[id]? = some c ∧ c.loop = loop ∧ c.Left
  | .removeConnectionInLoop id => loop = .base ∧ ∃ c, s.conns[id]? = some c ∧ c.Left

/-- Functors are in their places, only a connection that was given up waits for its close
callback, and a connection of the base loop that is not is in the map. A call that has stored
the new state leaves such a connection behind. Once the destructor has started, no close is in
progress, and in the end the map is empty. -/
structure Sound (s : TcpServer) : Prop where
  homes : ∀ loop, ∀ functor ∈ s.pendingFunctors loop, s.Home loop functor
  closing : ∀ c ∈ s.conns, c.closing = true → c.Left
  mapped : ∀ id c, s.conns[id]? = some c → c.loop = .base → ¬ c.Left → id ∈ s.connections
  stored : ∀ call ∈ s.calls, call.stored = true → ∃ c, s.conns[call.id]? = some c ∧ c.Left
  calm : s.stage ≠ .alive → s.Calm
  empty : s.stage = .destroyed → s.connections = ∅

theorem initial_sound (numThread : Nat) : (initial numThread).Sound where
  homes := by simp [initial]
  closing := by simp [initial]
  mapped := by simp [initial]
  stored := nofun
  calm := fun destroyed => absurd rfl destroyed
  empty := fun _ => rfl

section Parts

variable {s next : TcpServer} {loop : ServerLoop} {functor : ServerFunctor} {id : Nat}
  {c after : ServerConnection}

theorem Running.exists (running : s.Running loop) : s.Exists loop := by
  cases loop with
  | base => trivial
  | io index => exact running

theorem onConnection_inv {operation : ServerConnection → Option ServerConnection}
    (done : s.onConnection id operation = some next) :
    ∃ c after, s.conns[id]? = some c ∧ operation c = some after ∧
      next = { s with conns := s.conns.set id after } := by
  obtain ⟨c, found, rest⟩ := Option.bind_eq_some_iff.mp done
  obtain ⟨after, operated, result⟩ := Option.bind_eq_some_iff.mp rest
  cases result
  exact ⟨c, after, found, operated, rfl⟩

/-- Every connection goes on. -/
def Continues (s other : TcpServer) : Prop :=
  ∀ (id : Nat) (c : ServerConnection), s.conns[id]? = some c →
    ∃ after, other.conns[id]? = some after ∧ c.Becomes after

theorem continues_set (found : s.conns[id]? = some c) (becomes : c.Becomes after) :
    s.Continues { s with conns := s.conns.set id after } := by
  intro other old there
  by_cases same : other = id
  · subst same
    cases found.symm.trans there
    exact ⟨after, getElem?_set_found found after, becomes⟩
  · exact ⟨old, by rw [List.getElem?_set_ne (Ne.symm same)]; exact there, .refl old⟩

theorem continues_add (s : TcpServer) (loop : ServerLoop) (next : Nat) :
    s.Continues (s.addConnection loop next) := by
  intro id c found
  obtain ⟨bound, _⟩ := List.getElem?_eq_some_iff.mp found
  exact ⟨c, (List.getElem?_append_left bound).trans found, .refl c⟩

/-- A functor stays at home while connections go on. -/
theorem Home.keep {other : TcpServer} (home : s.Home loop functor)
    (continues : s.Continues other) : other.Home loop functor := by
  cases functor with
  | connectEstablished id | connnectDestroyed id =>
    obtain ⟨c, found, same⟩ := home
    obtain ⟨after, there, becomes⟩ := continues id c found
    exact ⟨after, there, becomes.loop.trans same⟩
  | forceCloseInLoop id =>
    obtain ⟨c, found, same, left⟩ := home
    obtain ⟨after, there, becomes⟩ := continues id c found
    exact ⟨after, there, becomes.loop.trans same, becomes.left left⟩
  | removeConnectionInLoop id =>
    obtain ⟨base, c, found, left⟩ := home
    obtain ⟨after, there, becomes⟩ := continues id c found
    exact ⟨base, after, there, becomes.left left⟩

/-- A call that has stored the new state leaves a connection that was given up behind. -/
theorem Sound.stored_keep {other : TcpServer} (sound : s.Sound) (continues : s.Continues other)
    {call : ServerCall} (member : call ∈ s.calls) (stored : call.stored = true) :
    ∃ c, other.conns[call.id]? = some c ∧ c.Left := by
  obtain ⟨c, found, left⟩ := sound.stored call member stored
  obtain ⟨after, there, becomes⟩ := continues call.id c found
  exact ⟨after, there, becomes.left left⟩

/-- A connection goes on. After the destructor has started, it neither waits for its close
callback nor is it half closed. -/
theorem Sound.set (sound : s.Sound) (found : s.conns[id]? = some c) (becomes : c.Becomes after)
    (closing : after.closing = true → after.Left)
    (calm : s.stage ≠ .alive → after.closing = false ∧ after.state ≠ .KDisconnecting) :
    Sound { s with conns := s.conns.set id after } where
  homes := fun loop functor queued =>
    (sound.homes loop functor queued).keep (continues_set found becomes)
  closing := by
    intro other member
    rcases List.mem_or_eq_of_mem_set member with earlier | rfl
    · exact sound.closing other earlier
    · exact closing
  mapped := by
    intro other connection there base up
    rcases getElem?_set_inv there with ⟨rfl, rfl⟩ | ⟨_, there⟩
    · exact sound.mapped other c found (becomes.loop.symm.trans base) (mt becomes.left up)
    · exact sound.mapped other connection there base up
  stored := fun _ member => sound.stored_keep (continues_set found becomes) member
  calm := by
    intro destroyed
    have before := sound.calm destroyed
    refine ⟨fun other member => ?_, fun other member => ?_, before.unasked, before.uncalled⟩
    · rcases List.mem_or_eq_of_mem_set member with earlier | rfl
      · exact before.returned other earlier
      · exact (calm destroyed).1
    · rcases List.mem_or_eq_of_mem_set member with earlier | rfl
      · exact before.settled other earlier
      · exact (calm destroyed).2
  empty := sound.empty

/-- The calls in progress change while the server lives. -/
theorem Sound.calling (sound : s.Sound) (alive : s.stage = .alive) {calls : List ServerCall}
    (stored : ∀ call ∈ calls, call.stored = true → ∃ c, s.conns[call.id]? = some c ∧ c.Left) :
    Sound { s with calls := calls } :=
  ⟨sound.homes, sound.closing, sound.mapped, stored, fun destroyed => absurd alive destroyed,
    sound.empty⟩

/-- A call is in progress only while the server lives. -/
theorem Sound.alive_of_call (sound : s.Sound) {index : Nat} {call : ServerCall}
    (calling : s.calls[index]? = some call) : s.stage = .alive := by
  by_contra destroyed
  simp [(sound.calm destroyed).uncalled] at calling

/-- A functor is queued in its loop. -/
theorem Sound.queue (sound : s.Sound) (home : s.Home loop functor)
    (calm : s.stage ≠ .alive → functor.removes = false) : (s.queueInLoop loop functor).Sound where
  homes := by
    intro other queued member
    rcases mem_update_snoc member with earlier | ⟨rfl, rfl⟩
    · exact sound.homes _ _ earlier
    · exact home
  closing := sound.closing
  mapped := sound.mapped
  stored := sound.stored
  calm := by
    intro destroyed
    have before := sound.calm destroyed
    refine ⟨before.returned, before.settled, fun queued member => ?_, before.uncalled⟩
    rcases mem_update_snoc member with earlier | ⟨_, rfl⟩
    · exact before.unasked _ earlier
    · exact calm destroyed
  empty := sound.empty

/-- A functor is taken out of its queue. -/
theorem Sound.take (sound : s.Sound) {rest : List ServerFunctor}
    (taken : s.pendingFunctors loop = functor :: rest) :
    Sound { s with pendingFunctors := Function.update s.pendingFunctors loop rest } where
  homes := fun other queued member => sound.homes other queued (mem_update_tail taken member)
  closing := sound.closing
  mapped := sound.mapped
  stored := sound.stored
  calm := fun destroyed =>
    { sound.calm destroyed with
      unasked := fun queued member =>
        (sound.calm destroyed).unasked queued (mem_update_tail taken member) }
  empty := sound.empty

/-- A connection leaves the map; in the base loop it was given up. -/
theorem Sound.erase (sound : s.Sound)
    (left : ∀ c, s.conns[id]? = some c → c.loop = .base → c.Left) :
    Sound { s with connections := s.connections.erase id } where
  homes := sound.homes
  closing := sound.closing
  mapped := by
    intro other connection found base up
    refine Finset.mem_erase.mpr ⟨?_, sound.mapped other connection found base up⟩
    rintro rfl
    exact up (left connection found base)
  stored := sound.stored
  calm := fun destroyed =>
    { sound.calm destroyed with }
  empty := by
    intro destroyed
    simp [sound.empty destroyed]

/-- A living server makes a connection. -/
theorem Sound.add (sound : s.Sound) (alive : s.stage = .alive) (loop : ServerLoop) (next : Nat) :
    (s.addConnection loop next).Sound where
  homes := fun other functor queued =>
    (sound.homes other functor queued).keep (continues_add s loop next)
  closing := by
    intro c member
    rcases List.mem_append.mp member with earlier | new
    · exact sound.closing c earlier
    · cases List.mem_singleton.mp new
      simp [ServerConnection.new]
  mapped := by
    intro id c found base up
    refine Finset.mem_insert.mpr ?_
    rcases Nat.lt_trichotomy id s.conns.length with earlier | same | later
    · have before := (List.getElem?_append_left earlier).symm.trans found
      exact .inr (sound.mapped id c before base up)
    · exact .inl same
    · have bound := (List.getElem?_eq_some_iff.mp found).1
      simp only [addConnection, List.length_append, List.length_singleton] at bound
      omega
  stored := fun _ member => sound.stored_keep (continues_add s loop next) member
  calm := fun destroyed => absurd alive destroyed
  empty := by
    intro destroyed
    cases alive.symm.trans destroyed

/-- An open connection whose loop exists is closed only while the server lives, or during the
destructor: after it, the connections of the base loop are closed. -/
theorem Sound.alive (sound : s.Sound) (found : s.conns[id]? = some c) (opened : c.Open)
    (existing : s.Exists c.loop) (outside : s.stage ≠ .destroying) : s.stage = .alive := by
  cases stage : s.stage with
  | alive => rfl
  | destroying => exact absurd stage outside
  | destroyed =>
    cases loop : c.loop with
    | base =>
      have calm := sound.calm (by simp [stage])
      have up : ¬ c.Left := fun left =>
        calm.settled c (List.mem_of_getElem? found) (left.disconnecting opened)
      have present := sound.mapped id c found loop up
      rw [sound.empty stage] at present
      cases present
    | io index =>
      rw [loop] at existing
      exact absurd stage existing

end Parts

section Steps

variable {s next : TcpServer} {id : Nat} {c : ServerConnection}

theorem newConnection_sound (sound : s.Sound) (alive : s.stage = .alive)
    (done : s.newConnection = some next) : next.Sound := by
  obtain ⟨loop, position, chosen⟩ : ∃ loop position, s.getNextLoop = (loop, position) := ⟨_, _, rfl⟩
  have made := sound.add alive loop position
  simp only [newConnection, chosen] at done
  split at done
  · obtain ⟨c, after, found, established, rfl⟩ := onConnection_inv done
    obtain ⟨connecting, rfl⟩ := ServerConnection.connectEstablished_inv established
    refine made.set found ⟨rfl, fun left => absurd connecting left.not_connecting⟩ ?_
      fun destroyed => absurd alive destroyed
    intro waiting
    have left := made.closing c (List.mem_of_getElem? found) waiting
    exact absurd connecting left.not_connecting
  · cases done
    refine made.queue ⟨ServerConnection.new loop, ?_, rfl⟩ fun _ => rfl
    simp [addConnection]

/-- A connection that was given up is removed by a living server. -/
theorem removeConnectionInLoop_sound (sound : s.Sound) (found : s.conns[id]? = some c)
    (left : c.Left) (done : s.removeConnectionInLoop id = some next) :
    next.Sound := by
  obtain ⟨_, _, rest⟩ := Option.bind_eq_some_iff.mp done
  obtain ⟨_, _, rest⟩ := Option.bind_eq_some_iff.mp rest
  obtain ⟨c', there, result⟩ := Option.bind_eq_some_iff.mp rest
  cases found.symm.trans there
  cases result
  refine (sound.erase fun other there _ => ?_).queue ⟨c, found, rfl⟩ fun _ => rfl
  cases found.symm.trans there
  exact left

/-- An open connection begins to close while the server lives. -/
theorem beginClose_sound (sound : s.Sound) (found : s.conns[id]? = some c)
    (alive : s.stage = .alive)
    (done : s.onConnection id ServerConnection.beginClose = some next) : next.Sound := by
  obtain ⟨c', after, there, began, rfl⟩ := onConnection_inv done
  cases found.symm.trans there
  obtain ⟨_, rfl⟩ := ServerConnection.beginClose_inv began
  exact sound.set found ⟨rfl, fun _ => .inr rfl⟩ (fun _ => .inr rfl)
    fun destroyed => absurd alive destroyed

theorem connnectDestroyed_sound (sound : s.Sound)
    (done : s.onConnection id ServerConnection.connnectDestroyed = some next) :
    next.Sound ∧ ∀ c, next.conns[id]? = some c → c.Left := by
  obtain ⟨c, after, found, torn, rfl⟩ := onConnection_inv done
  cases ServerConnection.connnectDestroyed_inv torn
  constructor
  · refine sound.set found ⟨rfl, fun _ => .inr rfl⟩ (fun _ => .inr rfl) ?_
    intro destroyed
    exact ⟨(sound.calm destroyed).returned c (List.mem_of_getElem? found), by simp⟩
  · intro other there
    cases (getElem?_set_found found _).symm.trans there
    exact .inr rfl

theorem closeCallback_sound (sound : s.Sound) (found : s.conns[id]? = some c)
    (closing : c.closing = true) (done : s.closeCallback id = some next) : next.Sound := by
  obtain ⟨c', there, rest⟩ := Option.bind_eq_some_iff.mp done
  cases found.symm.trans there
  have left := sound.closing c (List.mem_of_getElem? found) closing
  have returned : Sound { s with conns := s.conns.set id { c with closing := false } } :=
    sound.set found ⟨rfl, fun left => left⟩ (by simp) fun destroyed =>
      ⟨rfl, (sound.calm destroyed).settled c (List.mem_of_getElem? found)⟩
  have here := getElem?_set_found found { c with closing := false }
  obtain ⟨_, alive, removed⟩ := Option.bind_eq_some_iff.mp rest
  have living : s.stage = .alive := (Option.guard_eq_some' _).mp alive
  split at removed
  · exact removeConnectionInLoop_sound returned here left removed
  · cases removed
    exact returned.queue ⟨rfl, _, here, left⟩ fun destroyed => absurd living destroyed

/-- A call begins while the server lives, or finds that there is nothing to do. -/
theorem ask_sound (sound : s.Sound) {forced : Bool} {right : ServerConnection → Bool}
    (alive : ∀ c, s.conns[id]? = some c → right c = true → s.stage = .alive)
    (done : s.ask id forced right = some next) : next.Sound := by
  obtain ⟨c, found, made⟩ := Option.bind_eq_some_iff.mp done
  cases made
  by_cases finds : right c = true
  · rw [if_pos finds]
    refine sound.calling (alive c found finds) fun call member stored => ?_
    rcases List.mem_append.mp member with earlier | new
    · exact sound.stored call earlier stored
    · cases List.mem_singleton.mp new
      cases stored
  · rw [if_neg finds]
    exact sound

/-- The new state is stored while the server lives, in whatever state the connection is. -/
theorem store_sound (sound : s.Sound) {index : Nat} (done : s.store index = some next) :
    next.Sound := by
  obtain ⟨call, calling, rest⟩ := Option.bind_eq_some_iff.mp done
  obtain ⟨stored, storing, made⟩ := Option.bind_eq_some_iff.mp rest
  cases made
  obtain ⟨c, after, found, operated, rfl⟩ := onConnection_inv storing
  cases operated
  have alive := sound.alive_of_call calling
  have kept : Sound { s with conns := s.conns.set call.id c.store } :=
    sound.set found ⟨rfl, fun _ => .inl rfl⟩ (fun _ => .inl rfl) fun destroyed =>
      absurd alive destroyed
  refine kept.calling alive fun other member stored => ?_
  rcases List.mem_or_eq_of_mem_set member with earlier | rfl
  · exact kept.stored other earlier stored
  · exact ⟨c.store, getElem?_set_found found _, .inl rfl⟩

/-- A call ends, and a forced close is queued for a connection that was given up. -/
theorem queue_sound (sound : s.Sound) {index : Nat} (enabled : s.Enabled (.queue index))
    (done : s.queue index = some next) : next.Sound := by
  obtain ⟨call, calling, stored, _⟩ := enabled
  obtain ⟨_, same, rest⟩ := Option.bind_eq_some_iff.mp done
  cases Option.some.inj (same.symm.trans calling)
  obtain ⟨c, found, made⟩ := Option.bind_eq_some_iff.mp rest
  cases made
  have returned : Sound { s with calls := s.calls.eraseIdx index } :=
    sound.calling (sound.alive_of_call calling) fun other member =>
      sound.stored other (List.mem_of_mem_eraseIdx member)
  obtain ⟨_, there, left⟩ := sound.stored call (List.mem_of_getElem? calling) stored
  cases found.symm.trans there
  by_cases forced : call.forced = true
  · rw [if_pos forced]
    exact returned.queue ⟨c, found, rfl, left⟩ fun _ => rfl
  · rw [if_neg forced]
    exact returned

/-- A functor at home is called. After the destructor has started, it closes nothing: a
connection that was to be closed by force is closed. -/
theorem call_sound (sound : s.Sound) {loop : ServerLoop} {functor : ServerFunctor}
    (home : s.Home loop functor) (done : s.call functor = some next) : next.Sound := by
  cases functor with
  | connectEstablished id =>
    obtain ⟨c, after, found, established, rfl⟩ := onConnection_inv done
    obtain ⟨connecting, rfl⟩ := ServerConnection.connectEstablished_inv established
    have member := List.mem_of_getElem? found
    refine sound.set found ⟨rfl, fun left => absurd connecting left.not_connecting⟩ ?_
      fun destroyed => ⟨(sound.calm destroyed).returned c member, by simp⟩
    intro waiting
    exact absurd connecting (sound.closing c member waiting).not_connecting
  | connnectDestroyed id => exact (connnectDestroyed_sound sound done).1
  | forceCloseInLoop id =>
    obtain ⟨c, found, _, left⟩ := home
    obtain ⟨c', there, rest⟩ := Option.bind_eq_some_iff.mp done
    cases found.symm.trans there
    split at rest
    case isTrue opened =>
      have alive : s.stage = .alive := by
        by_contra destroyed
        exact (sound.calm destroyed).settled c (List.mem_of_getElem? found)
          (left.disconnecting opened)
      exact beginClose_sound sound found alive rest
    · cases rest
      exact sound
  | removeConnectionInLoop id =>
    obtain ⟨_, c, found, left⟩ := home
    exact removeConnectionInLoop_sound sound found left done

theorem destroyNext_sound (sound : s.Sound) (done : s.destroyNext id = some next) : next.Sound := by
  obtain ⟨c, found, rest⟩ := Option.bind_eq_some_iff.mp done
  obtain ⟨posted, torn, result⟩ := Option.bind_eq_some_iff.mp rest
  cases result
  unfold postTeardown at torn
  split at torn
  · obtain ⟨kept, left⟩ := connnectDestroyed_sound sound torn
    exact kept.erase fun c there _ => left c there
  case isFalse pool =>
    cases torn
    have home : s.Home c.loop (.connnectDestroyed id) := ⟨c, found, rfl⟩
    refine (sound.queue home fun _ => rfl).erase fun other there base => ?_
    cases found.symm.trans there
    exact absurd base pool

/-- Every step that meets the condition keeps the server sound. -/
theorem step_sound (s : TcpServer) (label : Label) (next : TcpServer) (sound : s.Sound)
    (admitted : s.Enabled label ∧ s.Considerate label) (stepped : s.step label = some next) :
    next.Sound := by
  obtain ⟨enabled, considerate⟩ := admitted
  cases label with
  | newConnection => exact newConnection_sound sound enabled.1 stepped
  | handleClose id =>
    obtain ⟨c, found, opened, running, _⟩ := enabled
    have alive := sound.alive found opened (Running.exists running) considerate
    exact beginClose_sound sound found alive stepped
  | closeCallback id =>
    obtain ⟨c, found, closing, _⟩ := enabled
    exact closeCallback_sound sound found closing stepped
  | shutdown id =>
    obtain ⟨c, found, existing⟩ := enabled
    refine ask_sound sound (fun other there up => ?_) stepped
    cases Option.some.inj (found.symm.trans there)
    exact sound.alive found (.inl (of_decide_eq_true up)) existing considerate
  | forceClose id =>
    obtain ⟨c, found, existing⟩ := enabled
    refine ask_sound sound (fun other there opened => ?_) stepped
    cases Option.some.inj (found.symm.trans there)
    exact sound.alive found (of_decide_eq_true opened) existing considerate
  | store index => exact store_sound sound stepped
  | queue index => exact queue_sound sound enabled stepped
  | runFunctor loop =>
    have ran : s.runFunctor loop = some next := stepped
    unfold runFunctor at ran
    split at ran
    · cases ran
      exact sound
    case h_2 functor rest taken =>
      have home := sound.homes loop functor (taken ▸ List.mem_cons_self)
      exact call_sound (sound.take taken) (Home.keep home fun id c found => ⟨c, found, .refl c⟩) ran
  | destroy =>
    cases stepped
    exact ⟨sound.homes, sound.closing, sound.mapped, sound.stored, fun _ => { considerate with },
      by simp [destroy]⟩
  | destroyNext id => exact destroyNext_sound sound stepped
  | destroyed =>
    cases stepped
    obtain ⟨destroying, empty, _⟩ := enabled
    exact ⟨sound.homes, sound.closing, sound.mapped, sound.stored,
      fun _ => { sound.calm (by simp [destroying]) with }, fun _ => empty⟩

/-- A close callback and a removal are called only before the destructor has started. -/
theorem Sound.callsLive (sound : s.Sound) {label : Label} (enabled : s.Enabled label) :
    s.CallsLive label := by
  cases label with
  | closeCallback id =>
    obtain ⟨c, found, closing, _⟩ := enabled
    by_contra destroyed
    have returned := (sound.calm destroyed).returned c (List.mem_of_getElem? found)
    cases closing.symm.trans returned
  | runFunctor loop =>
    intro functor first removes
    by_contra destroyed
    have queued : functor ∈ s.pendingFunctors loop := List.mem_of_mem_head? first
    cases functor with
    | removeConnectionInLoop id =>
      obtain ⟨rfl, _⟩ := sound.homes loop _ queued
      cases removes.symm.trans ((sound.calm destroyed).unasked _ queued)
    | _ => cases removes
  | _ => trivial

end Steps

/-- Suppose no close is in progress when the destructor of a server starts, and nobody closes a
connection while it runs. Then for any number of loops and in every interleaving no step calls
`removeConnection` or `removeConnectionInLoop` after the destructor has started.

Proof: what can still call the server is a connection between the callbacks of `handleClose`
or a removal in the queue of the base loop. There is none when the destructor starts, nor a
call that could make a connection look open again. Later only an open connection can add one.
While the destructor runs, no event closes one, and a queued forced close finds its connection
closed. After it, every connection of the base loop was torn down, and the other loops are
gone. -/
theorem destroyed_server_not_called (numThread : Nat) (labels : List Label)
    (valid : system.Valid (initial numThread) labels)
    (considerate : system.Along Considerate (initial numThread) labels) :
    system.Along CallsLive (initial numThread) labels :=
  System.along_invariant Sound step_sound
    (fun _ _ sound admitted => sound.callsLive admitted.1) _ _ (initial_sound numThread)
    ((System.along_and Enabled Considerate _ _).mpr ⟨valid, considerate⟩)

/-- Two connections on one loop of a pool. Another thread closes the first by force, and the
server removes it; the second is up when the server is destroyed, and is torn down in its
loop. -/
def destroyedInTime : List Label :=
  [.newConnection, .newConnection, .runFunctor (.io 0), .runFunctor (.io 0), .forceClose 0,
    .store 0, .queue 0, .runFunctor (.io 0), .closeCallback 0, .runFunctor .base,
    .runFunctor (.io 0), .destroy, .destroyNext 1, .runFunctor (.io 0), .destroyed]

/-- Both connections are down, and the server was never called late. -/
theorem destroyed_server_not_called_up : (∃ s, system.run (initial 1) destroyedInTime = some s ∧
      s.conns.map ServerConnection.state = [.KDisconnected, .KDisconnected]) ∧
    system.Along CallsLive (initial 1) destroyedInTime :=
  ⟨⟨_, rfl, by decide⟩, destroyed_server_not_called 1 _ (by decide) (by decide)⟩

/-- Four ways in which a destroyed server is called, with the number of loops in the pool. -/
def destroyedTooEarly : List (Nat × List Label) :=
  -- The peer closes a connection of the pool before the posted teardown.
  [(1, [.newConnection, .runFunctor (.io 0), .destroy, .destroyNext 0, .handleClose 0,
      .closeCallback 0]),
    -- The removal of a connection is in the queue of the base loop.
    (1, [.newConnection, .runFunctor (.io 0), .handleClose 0, .closeCallback 0, .destroy,
      .destroyNext 0, .runFunctor (.io 0), .destroyed, .runFunctor .base]),
    -- The connection callback of a connection that goes down destroys the server.
    (0, [.newConnection, .handleClose 0, .destroy, .destroyNext 0, .destroyed, .closeCallback 0]),
    -- A forced close was begun before, and goes on after the teardown of its connection.
    (1, [.newConnection, .runFunctor (.io 0), .forceClose 0, .destroy, .destroyNext 0,
      .runFunctor (.io 0), .store 0, .queue 0, .runFunctor (.io 0), .closeCallback 0])]

/-- Each of the four runs is possible and calls a destroyed server. -/
theorem destroyed_server_called : destroyedTooEarly.Forall fun run =>
    system.Valid (initial run.1) run.2 ∧ ¬ system.Along CallsLive (initial run.1) run.2 := by
  decide

end TcpServer

end Moban
