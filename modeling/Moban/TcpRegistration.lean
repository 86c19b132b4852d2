import Moban.TcpConnection

/-!
# The registration of a connection

The channel of an open connection is watched for reading, and for writing while there is
something to write. Closing makes the kernel forget the channel while the poller keeps
it in its table; removal takes it out of the table as well. In each of these conditions
the poller's assertions hold and the kernel accepts the operation.
-/

namespace Moban

open Channel Function

namespace TcpConnection

/-- The channel is registered and the kernel watches exactly the wanted events. -/
structure Watching (c : TcpConnection) : Prop where
  index : c.channel.index = .KAdded
  table : c.poller.channels c.channel.fd = true
  interest : c.poller.interest c.channel.fd = some c.channel.events
  events : c.channel.events = KReadEvent ∨ c.channel.events = KReadEvent ||| KWriteEvent

/-- The channel wants nothing and is not watched, whether or not it is still in the table. -/
structure Unwatched (c : TcpConnection) : Prop where
  index : c.channel.index ≠ .KAdded
  interest : c.poller.interest c.channel.fd = none
  events : c.channel.events = KNoneEvent

/-- The connection with other wanted events, mirrored in the kernel. -/
def watch (c : TcpConnection) (events : BitVec 32) : TcpConnection :=
  { c with
    channel := { c.channel with events := events }
    poller := { c.poller with
      interest := update c.poller.interest c.channel.fd (some events) } }

/-- The connection whose channel wants nothing and is not watched. -/
def unwatch (c : TcpConnection) : TcpConnection :=
  { c with
    channel := { c.channel with events := KNoneEvent, index := .KDeleted }
    poller := { c.poller with
      interest := update c.poller.interest c.channel.fd none } }

/-- The connection after its closing was reported to the user. -/
def down (c : TcpConnection) : TcpConnection :=
  { c.unwatch with state := .KDisconnected, log := c.log ++ [.connection false] }

/-- The connection whose channel the poller has forgotten. -/
def unregister (c : TcpConnection) : TcpConnection :=
  { c with
    channel := { c.channel with index := .KNew }
    poller := { c.poller with
      channels := update c.poller.channels c.channel.fd false } }

/-- A new connection for a descriptor that the poller does not know is established. -/
def established (fd : Nat) (poller : EPollPoller)
    (writeCompleteCallback highWaterMarkCallback : Bool) (highWaterMark : Nat) : TcpConnection :=
  { new fd poller writeCompleteCallback highWaterMarkCallback highWaterMark with
    state := .KConnected
    channel := { Channel.new fd with events := KReadEvent, index := .KAdded }
    poller :=
      { channels := update poller.channels fd true
        interest := update poller.interest fd (some KReadEvent) }
    log := [.connection true] }

section Establishment

variable {fd : Nat} {poller : EPollPoller} {writeCompleteCallback highWaterMarkCallback : Bool}
  {highWaterMark : Nat}

theorem connectEstablished_exact (unknown : poller.channels fd = false)
    (absent : poller.interest fd = none) :
    (new fd poller writeCompleteCallback highWaterMarkCallback highWaterMark).connectEstablished =
      some (established fd poller writeCompleteCallback highWaterMarkCallback highWaterMark) := by
  simp [connectEstablished, new, onChannel, enableReading, EPollPoller.updateChannel,
    EPollPoller.update, Channel.new, unknown, absent, established, connectionCallback, connected]

theorem established_watching :
    (established fd poller writeCompleteCallback highWaterMarkCallback highWaterMark).Watching :=
  ⟨rfl, update_self _ _ _, update_self _ _ _, .inl rfl⟩

end Establishment

section Operations

variable {c : TcpConnection}

theorem watch_watching (watching : c.Watching) {events : BitVec 32}
    (wanted : events = KReadEvent ∨ events = KReadEvent ||| KWriteEvent) :
    (c.watch events).Watching :=
  ⟨watching.index, watching.table, update_self _ _ _, wanted⟩

/-- Changing the events of a watched channel to other ones changes the kernel's entry. -/
theorem updateChannel_watched (watching : c.Watching) {events : BitVec 32}
    (wanted : events ≠ KNoneEvent) :
    c.onChannel (fun poller channel => poller.updateChannel { channel with events := events }) =
      some (c.watch events) := by
  simp [onChannel, EPollPoller.updateChannel, EPollPoller.update, watching.index,
    watching.interest, isNoneEvent, wanted, watch]

theorem enableWriting_exact (watching : c.Watching) :
    c.onChannel Channel.enableWriting = some (c.watch (KReadEvent ||| KWriteEvent)) := by
  have events : c.channel.events ||| KWriteEvent = KReadEvent ||| KWriteEvent := by
    rcases watching.events with reading | writing
    · rw [reading]
    · rw [writing]
      decide
  rw [← updateChannel_watched watching (by decide), onChannel, enableWriting, events, onChannel]

theorem disableWriting_exact (watching : c.Watching) :
    c.onChannel Channel.disableWriting = some (c.watch KReadEvent) := by
  have events : c.channel.events &&& ~~~KWriteEvent = KReadEvent := by
    rcases watching.events with reading | writing
    · rw [reading]
      decide
    · rw [writing]
      decide
  rw [← updateChannel_watched watching (by decide), onChannel, disableWriting, events, onChannel]

theorem disableAll_exact (watching : c.Watching) :
    c.onChannel Channel.disableAll = some c.unwatch := by
  simp [onChannel, disableAll, EPollPoller.updateChannel, EPollPoller.update, watching.index,
    watching.interest, isNoneEvent, unwatch]

/-- Removing an unwatched channel succeeds if the loop's batch allows it. -/
theorem remove_exact (unwatched : c.Unwatched) {loop : ActiveEvents}
    (removable : loop.Removable c.channel.fd) :
    c.onChannel (Channel.remove loop) = some c.unregister := by
  simp [onChannel, remove, ActiveEvents.removeChannel, EPollPoller.removeChannel,
    unwatched.index, isNoneEvent, unwatched.events, removable, unregister]

/-- Removing a watched channel fails its assertion. -/
theorem remove_watching (watching : c.Watching) (loop : ActiveEvents) :
    c.onChannel (Channel.remove loop) = none := by
  have wanted : c.channel.isNoneEvent = false := by
    rcases watching.events with reading | writing
    · rw [isNoneEvent, reading]
      decide
    · rw [isNoneEvent, writing]
      decide
  simp [onChannel, remove, wanted, failure]

/-- Removing a channel of the batch out of its turn fails the assertion of the loop. -/
theorem remove_listed {loop : ActiveEvents} (listed : ¬ loop.Removable c.channel.fd) :
    c.onChannel (Channel.remove loop) = none := by
  by_cases disabled : c.channel.isNoneEvent = true
  · simp [onChannel, remove, ActiveEvents.removeChannel, listed, disabled, failure]
  · simp [onChannel, remove, disabled, failure]

theorem isWriting_watch_reading : (c.watch KReadEvent).channel.isWriting = false :=
  show decide (KReadEvent &&& KWriteEvent ≠ 0) = false by decide

theorem isWriting_watch_writing : (c.watch (KReadEvent ||| KWriteEvent)).channel.isWriting = true :=
  show decide ((KReadEvent ||| KWriteEvent) &&& KWriteEvent ≠ 0) = true by decide

end Operations

/-! ## Open and closed connections -/

/-- An open connection is watched, for writing exactly while it has something to write. -/
structure Ready (c : TcpConnection) : Prop where
  opened : c.Open
  watching : c.Watching
  writing : c.channel.isWriting = true ↔ c.outputBuffer ≠ []

/-- A closed connection is not watched. -/
structure Closed (c : TcpConnection) : Prop where
  down : c.state = .KDisconnected
  unwatched : c.Unwatched

section Conditions

variable {c : TcpConnection}

theorem Ready.up (ready : c.Ready) : c.state ≠ .KDisconnected := by
  rcases ready.opened with connected | disconnecting
  · rw [connected]
    decide
  · rw [disconnecting]
    decide

theorem Closed.not_writing (closed : c.Closed) : c.channel.isWriting = false := by
  rw [isWriting, closed.unwatched.events]
  decide

/-- A connection that differs in neither its state, registration nor output is as ready. -/
theorem Ready.congr {next : TcpConnection} (ready : c.Ready) (state : next.Open)
    (channel : next.channel = c.channel) (poller : next.poller = c.poller)
    (output : next.outputBuffer = c.outputBuffer) : next.Ready where
  opened := state
  watching := by
    obtain ⟨index, table, interest, events⟩ := ready.watching
    constructor
    all_goals simp only [channel, poller]
    all_goals assumption
  writing := by
    rw [channel, output]
    exact ready.writing

theorem Closed.congr {next : TcpConnection} (closed : c.Closed) (state : next.state = c.state)
    (channel : next.channel = c.channel) (poller : next.poller = c.poller) : next.Closed where
  down := state.trans closed.down
  unwatched := by
    obtain ⟨index, interest, events⟩ := closed.unwatched
    constructor
    all_goals simp only [channel, poller]
    all_goals assumption

theorem Closed.not_open (closed : c.Closed) : ¬ c.Open := by
  rw [Open, closed.down]
  decide

/-- Closing an open connection stops watching it and reports that it is down. -/
theorem beginClose_exact (ready : c.Ready) : c.beginClose = some c.down := by
  have watching : Watching { c with state := .KDisconnected } :=
    ⟨ready.watching.index, ready.watching.table, ready.watching.interest, ready.watching.events⟩
  rw [beginClose, disableAll_exact watching]
  simp [ready.opened, down, unwatch, connectionCallback, connected]

theorem down_closed (c : TcpConnection) : c.down.Closed :=
  ⟨rfl, nofun, update_self _ _ _, rfl⟩

theorem unregister_closed (closed : c.Closed) : c.unregister.Closed :=
  ⟨closed.down, nofun, closed.unwatched.interest, closed.unwatched.events⟩

theorem established_ready {fd : Nat} {poller : EPollPoller}
    {writeCompleteCallback highWaterMarkCallback : Bool} {highWaterMark : Nat} :
    (established fd poller writeCompleteCallback highWaterMarkCallback highWaterMark).Ready where
  opened := .inl rfl
  watching := established_watching
  writing := by
    have reading : isWriting { Channel.new fd with events := KReadEvent, index := .KAdded } =
      false := show decide (KReadEvent &&& KWriteEvent ≠ 0) = false by decide
    simp [established, new, reading]

end Conditions

end TcpConnection

end Moban
