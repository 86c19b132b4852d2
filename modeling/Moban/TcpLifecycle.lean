import Moban.TcpStream

/-!
# The life of a connection in its event loop

The loop polls, gives each active channel its turn, and calls the queued functors. The
turn of the connection's channel calls back for the reported events, one callback after
the other. A close calls the user back in the middle, and the server then takes the
connection out of its map and queues its destruction.

User code runs inside of all these calls, so that it may use the connection between any
two steps. The calls in progress are kept innermost first. What other channels do with
their turns does not matter here.
-/

namespace Moban

open Channel Runs

/-- What user code calls in the loop thread. -/
inductive UserCall where
  | send (message : List UInt8) (result : WriteResult) (logged : Nat)
  | shutdown
  | forceClose
  | retrieve (count : Nat)
deriving DecidableEq

/-- The kernel accepts no more than it is offered. -/
def UserCall.Fits : UserCall → Prop
  | .send message result _ => result.Fits message
  | _ => True

instance : (call : UserCall) → Decidable call.Fits
  | .send message result _ => inferInstanceAs (Decidable (result.Fits message))
  | .shutdown | .forceClose | .retrieve _ => instDecidableTrue

namespace TcpConnection

def userCall (c : TcpConnection) : UserCall → Option TcpConnection
  | .send message result logged => c.send message result logged
  | .shutdown => some c.shutdown
  | .forceClose => some c.forceClose
  | .retrieve count => some { c with inputBuffer := c.inputBuffer.drop count }

/-- The kernel reports what was asked for, hang-ups and errors. -/
def Deliverable (c : TcpConnection) (revents : BitVec 32) : Prop :=
  match c.poller.interest c.channel.fd with
  | some events => revents &&& ~~~(events ||| POLLHUP ||| POLLERR) = 0
  | none => False

instance (c : TcpConnection) (revents : BitVec 32) : Decidable (c.Deliverable revents) :=
  match interest : c.poller.interest c.channel.fd with
  | some events => decidable_of_iff (revents &&& ~~~(events ||| POLLHUP ||| POLLERR) = 0)
      (by rw [Deliverable, interest])
  | none => .isFalse (by rw [Deliverable, interest]; exact id)

end TcpConnection

/-- A call in progress: a turn of the channel with the callbacks that are left, a close that
has yet to call the server back, or a destruction that has yet to remove the channel. -/
inductive Frame where
  | callbacks (rest : List Callback)
  | closing
  | destroying
deriving DecidableEq

/-- A connection, the batch of its loop, and its place in the map of its server. -/
structure Lifecycle where
  conn : TcpConnection
  loop : ActiveEvents
  /-- The channels of the batch that wait for their turn. -/
  waiting : List Nat
  calls : List Frame
  connections : Bool
  /-- The calls of `removeConnectionInLoop` that were asked for. -/
  removing : Nat

namespace Lifecycle

inductive Label where
  | poll (active : List Nat) (revents : BitVec 32)
  | turn
  | callback (readv : Readv) (result : WriteResult)
  | endCallbacks
  | endEvents
  | closeCallback
  | removeConnectionInLoop
  | runFunctor
  | finishDestroy
  | user (call : UserCall)
deriving DecidableEq

/-- A connection whose establishment was just reported. -/
def established (conn : TcpConnection) : Lifecycle where
  conn := conn
  loop := { eventHandling := false, currentActiveChannel := none, activeChannels := [] }
  waiting := []
  calls := []
  connections := true
  removing := 0

/-- The descriptor of the connection. -/
def fd (s : Lifecycle) : Nat := s.conn.channel.fd

/-- The poller reports some descriptors. -/
def poll (s : Lifecycle) (active : List Nat) (revents : BitVec 32) : Lifecycle :=
  { s with
    conn := { s.conn with channel := { s.conn.channel with revents :=
      if s.fd ∈ active then revents else s.conn.channel.revents } }
    loop := { s.loop with eventHandling := true, activeChannels := active }
    waiting := active }

/-- The next reported channel has its turn. -/
def turn (s : Lifecycle) : Option Lifecycle :=
  match s.waiting with
  | [] => none
  | current :: rest =>
      some { s with
        loop := { s.loop with currentActiveChannel := some current }
        waiting := rest
        calls :=
          if current = s.fd then [.callbacks (Channel.callbacks s.conn.channel.revents)] else [] }

/-- Return from a first part; a close in progress is the innermost call. -/
def returned (s : Lifecycle) (calls : List Frame) (result : TcpConnection × Bool) : Lifecycle :=
  { s with conn := result.1, calls := if result.2 then .closing :: calls else calls }

/-- The next callback of the turn. -/
def callback (s : Lifecycle) (readv : Readv) (result : WriteResult) : Option Lifecycle :=
  match s.calls with
  | .callbacks (next :: rest) :: outer =>
      let calls := .callbacks rest :: outer
      match next with
      | .close => do
          let closed ← s.conn.beginClose
          return s.returned calls (closed, true)
      | .error => some (s.returned calls (s.conn, false))
      | .read => do
          let read ← s.conn.beginRead readv
          return s.returned calls read
      | .write => do
          let written ← s.conn.handleWrite result
          return s.returned calls (written, false)
  | _ => none

/-- No channel has its turn any more. -/
def endEvents (s : Lifecycle) : Lifecycle :=
  { s with loop := { s.loop with eventHandling := false, currentActiveChannel := none } }

/-- The rest of `handleClose`: the server is asked to remove the connection. -/
def closeCallback (s : Lifecycle) : Option Lifecycle :=
  match s.calls with
  | .closing :: outer =>
      some { s with conn := s.conn.endClose, calls := outer, removing := s.removing + 1 }
  | _ => none

/-- The server forgets the connection and has it destroyed later. -/
def removeConnectionInLoop (s : Lifecycle) : Option Lifecycle := do
  guard (s.connections = true)
  return { s with
    conn := s.conn.queueInLoop .connnectDestroyed
    connections := false
    removing := s.removing - 1 }

/-- The next functor is called. -/
def runFunctor (s : Lifecycle) : Option Lifecycle :=
  match s.conn.functors with
  | [] => none
  | functor :: rest =>
      let popped := { s.conn with functors := rest }
      match functor with
      | .writeComplete | .highWaterMark _ => some (s.returned s.calls (popped, false))
      | .forceCloseInLoop => do
          let closed ← popped.beginForceClose
          return s.returned s.calls closed
      | .connnectDestroyed => do
          let begun ← popped.beginDestroy
          return { s with conn := begun, calls := .destroying :: s.calls }

/-- The rest of `connnectDestroyed`. -/
def finishDestroy (s : Lifecycle) : Option Lifecycle :=
  match s.calls with
  | .destroying :: outer => do
      let destroyed ← s.conn.endDestroy s.loop
      return { s with conn := destroyed, calls := outer }
  | _ => none

/-- The turn is over. -/
def endCallbacks (s : Lifecycle) : Option Lifecycle :=
  match s.calls with
  | .callbacks [] :: outer => some { s with calls := outer }
  | _ => none

def step (s : Lifecycle) : Label → Option Lifecycle
  | .poll active revents => some (s.poll active revents)
  | .turn => s.turn
  | .callback readv result => s.callback readv result
  | .endCallbacks => s.endCallbacks
  | .endEvents => some s.endEvents
  | .closeCallback => s.closeCallback
  | .removeConnectionInLoop => s.removeConnectionInLoop
  | .runFunctor => s.runFunctor
  | .finishDestroy => s.finishDestroy
  | .user call => do
      let used ← s.conn.userCall call
      return { s with conn := used }

/-- The callback that the channel is to call next. -/
def nextCallback (s : Lifecycle) : Option Callback :=
  match s.calls with
  | .callbacks (next :: _) :: _ => some next
  | _ => none

/-- What the loop and the kernel may do next. A poll lists a channel at most once, functors
are called outside of event handling, and a call ends before the next one begins. -/
def Enabled (s : Lifecycle) : Label → Prop
  | .poll active revents => s.loop.eventHandling = false ∧ s.calls = [] ∧
      active.count s.fd ≤ 1 ∧ (s.fd ∈ active → s.conn.Deliverable revents)
  | .turn => s.calls = [] ∧ s.waiting ≠ []
  | .callback _ result => s.nextCallback ≠ none ∧ result.Fits s.conn.outputBuffer
  | .endCallbacks => s.calls.head? = some (.callbacks [])
  | .endEvents => s.calls = [] ∧ s.waiting = []
  | .closeCallback => s.calls.head? = some .closing
  | .removeConnectionInLoop => 0 < s.removing
  | .runFunctor => s.loop.eventHandling = false ∧ s.calls = [] ∧ s.conn.functors ≠ []
  | .finishDestroy => s.calls.head? = some .destroying
  | .user call => call.Fits

instance (s : Lifecycle) : (label : Label) → Decidable (s.Enabled label)
  | .poll .. | .turn | .callback .. | .endEvents | .runFunctor => instDecidableAnd
  | .endCallbacks | .closeCallback | .finishDestroy => decEq _ _
  | .removeConnectionInLoop => inferInstanceAs (Decidable (0 < s.removing))
  | .user call => inferInstanceAs (Decidable call.Fits)

def system : System Lifecycle Label where
  step := step
  enabled := Enabled

instance (s : Lifecycle) (label : Label) : Decidable (system.enabled s label) :=
  inferInstanceAs (Decidable (s.Enabled label))

end Lifecycle

end Moban
