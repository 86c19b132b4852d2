import Moban.Channel
import Moban.EventLoop

/-!
# The connector in its event loop

A connector makes one connection attempt after the other until one succeeds. The channel of
an attempt is watched for writability. When the attempt ends, the channel is taken out of the
poller at once, and a queued functor releases it. A failed attempt sets a timer that begins
the next one, with a delay that doubles up to a bound.

Any thread may call `start` and `stop`. Both first use the flag `connect_` and then hand a
functor to the loop, and other threads may act in between, so these are separate steps. The
loop thread reads the flag once in each of its steps. Descriptors are numbered so that a
number is used once; the numbers of other channels are none of them. Which events a poll
reports and what the system calls return is left open. User code that runs in the loop thread
makes its calls between two callbacks.

A step without a result has failed: an assertion does not hold, or a null pointer is used. An
exception is no failure. It ends the loop if it comes out of a callback, a functor or a timer,
and user code may catch it otherwise. The callback for new connections is set before the first
start, and the connector is not destroyed.
-/

namespace Moban

open Channel Runs

/-- The state, as the loop thread sees it. -/
inductive ConnectorState where
  | KDisconnected
  | Kconnecting
  | Kconnected
deriving DecidableEq

def EAGAIN : Nat := 11
def EISCONN : Nat := 106
def EINPROGRESS : Nat := 115
def EADDRINUSE : Nat := 98
def EADDRNOTAVAIL : Nat := 99
def ECONNREFUSED : Nat := 111
def ENETUNREACH : Nat := 101
def EACCES : Nat := 13

/-- What `connect` does with a descriptor. -/
inductive ConnectOutcome where
  | connecting
  | retry
  | close
deriving DecidableEq

/-- The errors that are listed as fatal and those that are not listed have the same effect. -/
def connectOutcome (saveError : Nat) : ConnectOutcome :=
  if saveError ∈ [0, EINPROGRESS, EISCONN] then .connecting
  else if saveError ∈ [EAGAIN, EADDRINUSE, EADDRNOTAVAIL, ECONNREFUSED, ENETUNREACH] then .retry
  else .close

/-- What is called later in the loop thread. -/
inductive ConnectorFunctor where
  | startInLoop
  | stopInLoop
  | resetChannel
deriving DecidableEq

/-- Where a thread is inside a call: `start` has found the flag clear, `start` or `restart`
has set it, `stop` has cleared it, or `startInLoop` has found it set and is about to call
`connect`, on behalf of user code or not. -/
inductive ConnectorCall where
  | tested
  | started
  | stopped
  | connecting (user : Bool)
deriving DecidableEq

/-- The call leads to a new attempt. -/
def ConnectorCall.begins : ConnectorCall → Bool
  | .stopped => false
  | _ => true

/-- A connector with its poller, its loop and its descriptors. -/
structure Connector where
  connect_ : Bool
  state : ConnectorState
  channel : Option Channel
  retryDelayMs : Nat
  /-- The base class that keeps the weak reference of `shared_from_this` is accessible, so
  that the reference is set. -/
  accessible : Bool
  poller : EPollPoller
  events : ActiveEvents
  /-- The channels of the batch that wait for their turn. -/
  waiting : List Nat
  /-- The callbacks that are left of the connector's own turn. -/
  turn : List Callback
  pendingFunctors : List ConnectorFunctor
  /-- What is left of the functors that `doPendingFunctors` is calling. -/
  functors : Option (List ConnectorFunctor)
  /-- The delays of the retry timers that have not fired. -/
  timers : List Nat
  calls : Caller → Option ConnectorCall
  /-- An exception has left the loop. -/
  escaped : Bool
  opened : List Nat
  closed : List Nat
  handed : List Nat
  /-- The connections that were handed over and have not ended. -/
  connections : List Nat
  /-- The attempts that failed while they were wanted, since the construction or the last
  `restart`. -/
  failures : Nat

namespace Connector

/-- No delay is longer. -/
def KMaxRetryDelayMs : Nat := 30 * 1000
/-- The first delay. -/
def KInitRetryDelayMs : Nat := 500

/-- The constructor. The source derives from `enable_shared_from_this` privately, which makes
the base class inaccessible. -/
def new (accessible : Bool) : Connector where
  connect_ := false
  state := .KDisconnected
  channel := none
  retryDelayMs := KInitRetryDelayMs
  accessible := accessible
  poller := .initial
  events := { eventHandling := false, currentActiveChannel := none, activeChannels := [] }
  waiting := []
  turn := []
  pendingFunctors := []
  functors := none
  timers := []
  calls := fun _ => none
  escaped := false
  opened := []
  closed := []
  handed := []
  connections := []
  failures := 0

/-! ## Attempts -/

def queueInLoop (s : Connector) (functor : ConnectorFunctor) : Connector :=
  { s with pendingFunctors := s.pendingFunctors ++ [functor] }

/-- The descriptor is closed, and this is recorded. -/
def closeSocket (s : Connector) (sockfd : Nat) : Connector :=
  { s with closed := s.closed ++ [sockfd] }

/-- The delay after this one. -/
def nextDelay (retryDelayMs : Nat) : Nat :=
  if retryDelayMs * 2 < KMaxRetryDelayMs then retryDelayMs * 2 else KMaxRetryDelayMs

/-- Retry later, and whether `shared_from_this` has thrown. -/
def retry (s : Connector) (sockfd : Nat) : Connector × Bool :=
  let closed := { s with state := .KDisconnected }.closeSocket sockfd
  if closed.connect_ then
    if closed.accessible then
      ({ closed with
        timers := closed.timers ++ [closed.retryDelayMs]
        retryDelayMs := nextDelay closed.retryDelayMs
        failures := closed.failures + 1 }, false)
    else
      ({ closed with failures := closed.failures + 1 }, true)
  else
    (closed, false)

/-- Wait for the descriptor to become writable, on a channel of its own. -/
def connecting (s : Connector) (sockfd : Nat) : Option Connector := do
  guard (s.channel = none)
  let (poller, channel) ← Channel.enableWriting s.poller (Channel.new sockfd)
  return { s with state := .Kconnecting, poller := poller, channel := some channel }

/-- Take the channel out of the poller and have it released later; its descriptor. -/
def removeAndResetChannel (s : Connector) : Option (Connector × Nat) := do
  let channel ← s.channel
  let (disabledPoller, disabled) ← channel.disableAll s.poller
  let (poller, removed) ← disabled.remove s.events disabledPoller
  return ({ s with poller := poller, channel := some removed }.queueInLoop .resetChannel,
    channel.fd)

/-- The channel is released. -/
def resetChannel (s : Connector) : Connector := { s with channel := none }

/-- A new descriptor, which is recorded. -/
def createNonblockingOrDie (s : Connector) (sockfd : Nat) : Connector :=
  { s with opened := s.opened ++ [sockfd] }

/-- `connect` with the descriptor that was created for it, and whether it has thrown. -/
def connect (s : Connector) (sockfd saveError : Nat) : Option (Connector × Bool) :=
  match connectOutcome saveError with
  | .connecting => do
      let begun ← (s.createNonblockingOrDie sockfd).connecting sockfd
      return (begun, false)
  | .retry => some ((s.createNonblockingOrDie sockfd).retry sockfd)
  | .close => some ((s.createNonblockingOrDie sockfd).closeSocket sockfd, false)

/-- `startInLoop` up to its call of `connect`. -/
def startInLoop (s : Connector) (user : Bool) : Option Connector := do
  guard (s.state = .KDisconnected)
  return { s with
    calls := Function.update s.calls .loop (if s.connect_ then some (.connecting user) else none) }

/-- Only an attempt that is waiting is given up. -/
def stopInLoop (s : Connector) : Option Connector :=
  if s.state = .Kconnecting then do
    let (removed, sockfd) ← { s with state := .KDisconnected }.removeAndResetChannel
    return removed.closeSocket sockfd
  else
    some s

/-- What becomes of a descriptor that is writable: an error and a connection to itself are
tried again, and a connection is given to the owner if it is still wanted. -/
def writable (s : Connector) (sockfd err : Nat) (selfConnect : Bool) : Connector × Bool :=
  if err ≠ 0 then s.retry sockfd
  else if selfConnect then s.retry sockfd
  else if s.connect_ then
    ({ s with
      state := .Kconnected
      handed := s.handed ++ [sockfd]
      connections := s.connections ++ [sockfd] }, false)
  else
    ({ s with state := .Kconnected }.closeSocket sockfd, false)

/-- The attempt has succeeded or failed; the channel is taken down either way. -/
def handleWrite (s : Connector) (err : Nat) (selfConnect : Bool) : Option (Connector × Bool) :=
  if s.state = .Kconnecting then do
    let (removed, sockfd) ← s.removeAndResetChannel
    return removed.writable sockfd err selfConnect
  else do
    guard (s.state = .KDisconnected)
    return (s, false)

/-- The attempt has failed. -/
def handleError (s : Connector) : Option (Connector × Bool) := do
  guard (s.state = .Kconnecting)
  let (removed, sockfd) ← s.removeAndResetChannel
  return removed.retry sockfd

/-! ## Calls -/

/-- The thread goes on to another place of its call, or returns. -/
def call (s : Connector) (caller : Caller) (next : Option ConnectorCall) : Connector :=
  { s with calls := Function.update s.calls caller next }

/-- A connector that was started already is left alone. -/
def start (s : Connector) (caller : Caller) : Connector :=
  if s.connect_ then s else s.call caller (some .tested)

/-- The rest of `start` up to `runInLoop`. -/
def setConnect (s : Connector) (caller : Caller) : Connector :=
  { s with connect_ := true }.call caller (some .started)

/-- `stop` up to `runInLoop`. -/
def stop (s : Connector) (caller : Caller) : Connector :=
  { s with connect_ := false }.call caller (some .stopped)

/-- `restart` up to `startInLoop`. -/
def restart (s : Connector) : Connector :=
  { s with
    state := .KDisconnected
    retryDelayMs := KInitRetryDelayMs
    failures := 0
    connect_ := true }.call .loop (some .started)

/-- The last part of `start`, `stop` and `restart`: the loop thread acts at once, and another
thread queues a functor. -/
def runInLoop (s : Connector) (caller : Caller) : Option Connector :=
  match s.calls caller with
  | some .started =>
      if EventLoop.isInLoopThread caller then s.startInLoop true
      else some ((s.queueInLoop .startInLoop).call caller none)
  | some .stopped =>
      if EventLoop.isInLoopThread caller then (s.call caller none).stopInLoop
      else some ((s.queueInLoop .stopInLoop).call caller none)
  | _ => none

/-! ## The loop -/

/-- The channel after a poll that has found some descriptors active. -/
def polled (active : List Nat) (revents : BitVec 32) (channel : Channel) : Channel :=
  { channel with revents := if channel.fd ∈ active then revents else channel.revents }

/-- The poller reports some descriptors. -/
def poll (s : Connector) (active : List Nat) (revents : BitVec 32) : Connector :=
  { s with
    channel := s.channel.map (polled active revents)
    events := { s.events with eventHandling := true, activeChannels := active }
    waiting := active }

/-- The callbacks of the turn of a channel, which are the connector's if the channel is. -/
def turnCallbacks (s : Connector) (current : Nat) : List Callback :=
  match s.channel with
  | some channel => if channel.fd = current then Channel.callbacks channel.revents else []
  | none => []

/-- The next reported channel has its turn. -/
def beginTurn (s : Connector) : Option Connector :=
  match s.waiting with
  | [] => none
  | current :: rest =>
      some { s with
        events := { s.events with currentActiveChannel := some current }
        waiting := rest
        turn := s.turnCallbacks current }

/-- An exception that comes out of a callback, a functor or a timer ends the loop. -/
def finish (result : Connector × Bool) (user : Bool) : Connector :=
  { result.1 with escaped := result.1.escaped || (result.2 && !user) }

/-- The connector sets no callback for closing and none for reading. -/
def callback (s : Connector) (err : Nat) (selfConnect : Bool) : Option Connector :=
  match s.turn with
  | [] => none
  | next :: rest =>
      let popped := { s with turn := rest }
      match next with
      | .close | .read => some popped
      | .error => do
          let handled ← popped.handleError
          return finish handled false
      | .write => do
          let handled ← popped.handleWrite err selfConnect
          return finish handled false

/-- After the last turn, the queued functors are taken. -/
def endEvents (s : Connector) : Connector :=
  { s with
    events := { s.events with eventHandling := false, currentActiveChannel := none }
    functors := some s.pendingFunctors
    pendingFunctors := [] }

/-- The next functor is called. -/
def runFunctor (s : Connector) : Option Connector :=
  match s.functors with
  | some (functor :: rest) =>
      let popped := { s with functors := some rest }
      match functor with
      | .startInLoop => popped.startInLoop false
      | .stopInLoop => popped.stopInLoop
      | .resetChannel => some popped.resetChannel
  | _ => none

/-- The loop polls again. -/
def endFunctors (s : Connector) : Connector := { s with functors := none }

/-- A retry timer fires. -/
def retryTimer (s : Connector) (delay : Nat) : Option Connector :=
  { s with timers := s.timers.erase delay }.startInLoop false

/-- `startInLoop` calls `connect`. -/
def attempt (s : Connector) (sockfd saveError : Nat) : Option Connector :=
  match s.calls .loop with
  | some (.connecting user) => do
      let result ← (s.call .loop none).connect sockfd saveError
      return finish result user
  | _ => none

/-! ## Runs -/

inductive Label where
  | start (caller : Caller)
  | setConnect (caller : Caller)
  | stop (caller : Caller)
  | restart
  | runInLoop (caller : Caller)
  | attempt (sockfd saveError : Nat)
  | poll (active : List Nat) (revents : BitVec 32)
  | beginTurn
  | callback (err : Nat) (selfConnect : Bool)
  | endEvents
  | runFunctor
  | endFunctors
  | retryTimer (delay : Nat)
  | connectionEnds (sockfd : Nat)
deriving DecidableEq

def step (s : Connector) : Label → Option Connector
  | .start caller => some (s.start caller)
  | .setConnect caller => some (s.setConnect caller)
  | .stop caller => some (s.stop caller)
  | .restart => some s.restart
  | .runInLoop caller => s.runInLoop caller
  | .attempt sockfd saveError => s.attempt sockfd saveError
  | .poll active revents => some (s.poll active revents)
  | .beginTurn => s.beginTurn
  | .callback err selfConnect => s.callback err selfConnect
  | .endEvents => some s.endEvents
  | .runFunctor => s.runFunctor
  | .endFunctors => some s.endFunctors
  | .retryTimer delay => s.retryTimer delay
  | .connectionEnds sockfd => some { s with connections := s.connections.erase sockfd }

/-- The loop thread is in the loop and not inside a call of the connector. -/
def Looping (s : Connector) : Prop := s.escaped = false ∧ s.calls .loop = none

/-- The thread may begin a call. User code runs in the loop thread outside the connector's own
turn. -/
def MayCall (s : Connector) : Caller → Prop
  | .loop => s.Looping ∧ s.turn = []
  | .thread identifier => s.calls (.thread identifier) = none

/-- The loop thread stops with the loop. -/
def Runs (s : Connector) : Caller → Prop
  | .loop => s.escaped = false
  | .thread _ => True

/-- The kernel reports what was asked for, hang-ups and errors, of a watched channel. -/
def Reported (s : Connector) (active : List Nat) (revents : BitVec 32) : Prop :=
  ∀ channel ∈ s.channel, channel.fd ∈ active →
    (s.poller.interest channel.fd).any
      (fun events => revents &&& ~~~(events ||| POLLHUP ||| POLLERR) == 0) = true

/-- What the threads, the kernel and the loop may do next. -/
def Enabled (s : Connector) : Label → Prop
  | .start caller | .stop caller => s.MayCall caller
  | .setConnect caller => s.Runs caller ∧ s.calls caller = some .tested
  | .restart => s.MayCall .loop
  | .runInLoop caller =>
      s.Runs caller ∧ (s.calls caller = some .started ∨ s.calls caller = some .stopped)
  | .attempt sockfd _ =>
      s.escaped = false ∧
        (s.calls .loop = some (.connecting true) ∨ s.calls .loop = some (.connecting false)) ∧
        sockfd ∉ s.opened ∧ sockfd ∉ s.events.activeChannels
  | .poll active revents =>
      s.Looping ∧ s.events.eventHandling = false ∧ s.functors = none ∧ active.Nodup ∧
        s.Reported active revents
  | .beginTurn =>
      s.Looping ∧ s.events.eventHandling = true ∧ s.turn = [] ∧ s.waiting ≠ []
  | .callback _ _ => s.Looping ∧ s.turn ≠ []
  | .endEvents => s.Looping ∧ s.events.eventHandling = true ∧ s.turn = [] ∧ s.waiting = []
  | .runFunctor => s.Looping ∧ s.functors ≠ none ∧ s.functors ≠ some []
  | .endFunctors => s.Looping ∧ s.functors = some []
  | .retryTimer delay =>
      s.Looping ∧ s.events.eventHandling = true ∧ s.turn = [] ∧ delay ∈ s.timers
  | .connectionEnds sockfd => s.MayCall .loop ∧ sockfd ∈ s.connections

instance (s : Connector) : Decidable s.Looping := instDecidableAnd

instance (s : Connector) : (caller : Caller) → Decidable (s.MayCall caller)
  | .loop => instDecidableAnd
  | .thread _ => decEq _ _

instance (s : Connector) : (caller : Caller) → Decidable (s.Runs caller)
  | .loop => decEq _ _
  | .thread _ => instDecidableTrue

instance (s : Connector) (active : List Nat) (revents : BitVec 32) :
    Decidable (s.Reported active revents) := inferInstanceAs (Decidable (∀ _ ∈ _, _))

instance (s : Connector) : (label : Label) → Decidable (s.Enabled label)
  | .start caller | .stop caller => inferInstanceAs (Decidable (s.MayCall caller))
  | .setConnect _ | .runInLoop _ | .attempt .. | .poll .. | .beginTurn | .callback ..
  | .endEvents | .runFunctor | .endFunctors | .retryTimer _ | .connectionEnds _ => instDecidableAnd
  | .restart => inferInstanceAs (Decidable (s.MayCall .loop))

def system : System Connector Label where
  step := step
  enabled := Enabled

instance (s : Connector) (label : Label) : Decidable (system.enabled s label) :=
  inferInstanceAs (Decidable (s.Enabled label))

/-! ## What the operations do -/

/-- The functors that are queued, in the order in which they will be called. -/
def backlog (s : Connector) : List ConnectorFunctor :=
  s.functors.getD [] ++ s.pendingFunctors

section Operations

variable {s next : Connector} {fd : Nat}

theorem queueInLoop_backlog (functor : ConnectorFunctor) :
    (s.queueInLoop functor).backlog = s.backlog ++ [functor] := by
  simp [backlog, queueInLoop]

theorem call_calls_self {caller : Caller} {stage : Option ConnectorCall} :
    (s.call caller stage).calls caller = stage := Function.update_self _ _ _

theorem call_calls_of_ne {caller other : Caller} (different : caller ≠ other)
    {stage : Option ConnectorCall} : (s.call caller stage).calls other = s.calls other :=
  Function.update_of_ne different.symm _ _

/-- A failed attempt closes its descriptor, and does no more than setting a timer. -/
theorem retry_inv (s : Connector) (fd : Nat) : ∃ timers delay failures, (s.retry fd).1 = { s with
    state := .KDisconnected, closed := s.closed ++ [fd], timers := timers
    retryDelayMs := delay, failures := failures } := by
  unfold retry
  simp only
  split
  · split
    · exact ⟨_, _, _, rfl⟩
    · exact ⟨_, _, _, rfl⟩
  · exact ⟨_, _, _, rfl⟩

/-- Waiting begins with no channel and makes one. -/
theorem connecting_inv (done : s.connecting fd = some next) :
    s.channel = none ∧ ∃ poller channel, channel.fd = fd ∧
      next = { s with state := .Kconnecting, poller := poller, channel := some channel } := by
  obtain ⟨_, free, rest⟩ := Option.bind_eq_some_iff.mp done
  obtain ⟨⟨poller, channel⟩, enabled, result⟩ := Option.bind_eq_some_iff.mp rest
  cases result
  obtain ⟨_, _, added⟩ := Option.bind_eq_some_iff.mp enabled
  obtain ⟨_, _, same⟩ := Option.bind_eq_some_iff.mp added
  cases same
  exact ⟨(Option.guard_eq_some' _).mp free, poller, _, rfl, rfl⟩

/-- The channel is gone from the poller and is released later. -/
theorem removeAndResetChannel_inv (done : s.removeAndResetChannel = some (next, fd)) :
    ∃ channel poller removed, s.channel = some channel ∧ channel.fd = fd ∧
      next = { s with
        poller := poller, channel := some removed
        pendingFunctors := s.pendingFunctors ++ [.resetChannel] } := by
  obtain ⟨channel, here, rest⟩ := Option.bind_eq_some_iff.mp done
  obtain ⟨⟨disabledPoller, disabled⟩, _, rest⟩ := Option.bind_eq_some_iff.mp rest
  obtain ⟨⟨poller, removed⟩, _, result⟩ := Option.bind_eq_some_iff.mp rest
  cases result
  exact ⟨channel, poller, removed, here, rfl, rfl⟩

end Operations

end Connector

end Moban
