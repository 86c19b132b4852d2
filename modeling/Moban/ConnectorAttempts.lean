import Moban.Connector

/-!
# One attempt at a time

The assertions of the connector hold as long as the right to begin an attempt has at most one
holder: a thread inside `start` or `restart`, a queued functor, a retry timer, or the attempt
that is in progress. Nothing in the code makes this so. A call that hands out the right while
somebody has it, or while the channel of the last attempt is not released, leads to a failing
assertion. If no call does, every run succeeds.
-/

namespace Moban

open Channel Runs

/-! ## Registration -/

namespace EPollPoller

/-- The poller watches the channel for writability. -/
structure Watched (p : EPollPoller) (c : Channel) : Prop where
  index : c.index = .KAdded
  table : p.channels c.fd = true
  interest : p.interest c.fd = some KWriteEvent
  events : c.events = KWriteEvent

/-- The poller that watches one more descriptor for writability. -/
def watch (p : EPollPoller) (fd : Nat) : EPollPoller where
  channels := Function.update p.channels fd true
  interest := Function.update p.interest fd (some KWriteEvent)

/-- The poller that has forgotten a descriptor. -/
def without (p : EPollPoller) (fd : Nat) : EPollPoller where
  channels := Function.update p.channels fd false
  interest := Function.update p.interest fd none

end EPollPoller

namespace Connector

/-- The channel of an attempt. -/
def writing (fd : Nat) : Channel := { Channel.new fd with events := KWriteEvent, index := .KAdded }

/-- The connector whose attempt has ended. -/
def released (s : Connector) (channel : Channel) : Connector :=
  { s with
    poller := s.poller.without channel.fd
    channel := some { channel with events := KNoneEvent, index := .KNew }
    pendingFunctors := s.pendingFunctors ++ [.resetChannel] }

section Operations

variable {s : Connector} {channel : Channel} {fd : Nat}

theorem connecting_exact (free : s.channel = none) (unlisted : s.poller.channels fd = false)
    (unwatched : s.poller.interest fd = none) :
    s.connecting fd = some { s with
      state := .Kconnecting, poller := s.poller.watch fd, channel := some (writing fd) } := by
  have enabled : Channel.enableWriting s.poller (Channel.new fd) =
      some (s.poller.watch fd, writing fd) := by
    simp [enableWriting, EPollPoller.updateChannel, EPollPoller.update, Channel.new, unlisted,
      unwatched, EPollPoller.watch, writing]
  simp [connecting, free, enabled]

theorem removeAndResetChannel_exact (here : s.channel = some channel)
    (watched : s.poller.Watched channel) (removable : s.events.Removable channel.fd) :
    s.removeAndResetChannel = some (s.released channel, channel.fd) := by
  simp [removeAndResetChannel, here, disableAll, EPollPoller.updateChannel, EPollPoller.update,
    watched.index, watched.interest, isNoneEvent, remove, ActiveEvents.removeChannel, removable,
    EPollPoller.removeChannel, queueInLoop, released, EPollPoller.without]

theorem handleError_exact {next : Connector} (connecting : s.state = .Kconnecting)
    (removed : s.removeAndResetChannel = some (next, fd)) :
    s.handleError = some (next.retry fd) := by
  simp [handleError, connecting, removed]

theorem handleWrite_exact {next : Connector} (connecting : s.state = .Kconnecting)
    (removed : s.removeAndResetChannel = some (next, fd)) (err : Nat) (selfConnect : Bool) :
    s.handleWrite err selfConnect = some (next.writable fd err selfConnect) := by
  simp [handleWrite, connecting, removed]

end Operations

/-! ## The invariant -/

/-- Who has the right to begin an attempt, or is making one. -/
inductive Holder where
  | nobody
  | caller (caller : Caller)
  | queue
  | timer
  | attempt
deriving DecidableEq

/-- Nobody else has the right, and the channel is free when the right is used. -/
structure Held (s : Connector) (holder : Holder) : Prop where
  calls : ∀ caller call, s.calls caller = some call → call.begins = true →
    holder = .caller caller
  queued : .startInLoop ∈ s.backlog → holder = .queue
  once : s.backlog.count .startInLoop ≤ 1
  timers : s.timers ≠ [] → holder = .timer
  single : s.timers.length ≤ 1
  attempt : s.state = .Kconnecting → holder = .attempt
  waits : holder ≠ .nobody → holder ≠ .attempt → s.state = .KDisconnected
  free : ∀ call, s.calls .loop = some call → call.begins = true → s.channel = none
  ordered : ∀ front back, s.backlog = front ++ .startInLoop :: back → s.channel ≠ none →
    .resetChannel ∈ front

/-- Where the channel is: watched by the poller during an attempt, waiting for its release
after it. Only the channel of an attempt can have events in the batch. -/
structure Placed (s : Connector) : Prop where
  watched : s.state = .Kconnecting → ∃ channel, s.channel = some channel ∧
    s.poller.Watched channel
  unknown : ∀ fd, (s.state = .Kconnecting → ∀ channel ∈ s.channel, channel.fd ≠ fd) →
    s.poller.channels fd = false ∧ s.poller.interest fd = none
  resets : s.backlog.count .resetChannel =
    if s.channel ≠ none ∧ s.state ≠ .Kconnecting then 1 else 0
  listed : ∀ channel ∈ s.channel, channel.fd ∈ s.waiting → s.state = .Kconnecting
  distinct : s.waiting.Nodup
  active : s.waiting ⊆ s.events.activeChannels
  current : ∀ fd ∈ s.events.currentActiveChannel, fd ∉ s.waiting
  quiet : s.events.eventHandling = false → s.waiting = [] ∧ s.turn = []
  nobody : s.events.eventHandling = false → s.events.currentActiveChannel = none
  calling : s.functors ≠ none → s.events.eventHandling = false
  sorted : s.turn.Sublist [.close, .error, .read, .write]
  turn : s.turn ≠ [] → s.state ≠ .Kconnected ∧
    ∃ channel ∈ s.channel, s.events.currentActiveChannel = some channel.fd
  error : .error ∈ s.turn → s.state = .Kconnecting

structure Sound (s : Connector) : Prop where
  held : ∃ holder, s.Held holder
  placed : s.Placed
  outside : s.calls .loop ≠ none → s.turn = []

theorem new_sound (accessible : Bool) : (new accessible).Sound where
  held := ⟨.nobody, by constructor <;> simp [new, backlog]⟩
  placed := by constructor <;> simp [new, backlog, EPollPoller.initial]
  outside := fun _ => rfl

section Frames

variable {s next : Connector} {holder : Holder}

/-- What the holder depends on. -/
theorem Held.congr (held : s.Held holder) (calls : next.calls = s.calls)
    (backlog : next.backlog = s.backlog) (timers : next.timers = s.timers)
    (state : next.state = s.state) (channel : next.channel = none ↔ s.channel = none) :
    next.Held holder where
  calls := by rw [calls]; exact held.calls
  queued := by rw [backlog]; exact held.queued
  once := by rw [backlog]; exact held.once
  timers := by rw [timers]; exact held.timers
  single := by rw [timers]; exact held.single
  attempt := by rw [state]; exact held.attempt
  waits := by rw [state]; exact held.waits
  free := by rw [calls, channel]; exact held.free
  ordered := by rw [backlog, ne_eq, channel]; exact held.ordered

/-- What the place of the channel depends on. -/
theorem Placed.congr (placed : s.Placed) (state : next.state = s.state)
    (channel : next.channel = s.channel) (poller : next.poller = s.poller)
    (backlog : next.backlog.count .resetChannel = s.backlog.count .resetChannel)
    (events : next.events = s.events) (waiting : next.waiting = s.waiting)
    (turn : next.turn = s.turn) (functors : next.functors = s.functors) : next.Placed where
  watched := by rw [state, channel, poller]; exact placed.watched
  unknown := by rw [state, channel, poller]; exact placed.unknown
  resets := by rw [state, channel, backlog]; exact placed.resets
  listed := by rw [state, channel, waiting]; exact placed.listed
  distinct := by rw [waiting]; exact placed.distinct
  active := by rw [waiting, events]; exact placed.active
  current := by rw [waiting, events]; exact placed.current
  quiet := by rw [waiting, events, turn]; exact placed.quiet
  nobody := by rw [events]; exact placed.nobody
  calling := by rw [functors, events]; exact placed.calling
  sorted := by rw [turn]; exact placed.sorted
  turn := by rw [turn, state, channel, events]; exact placed.turn
  error := by rw [turn, state]; exact placed.error

end Frames

/-! ## Calls -/

/-- Nobody has the right to begin an attempt. -/
structure Unclaimed (s : Connector) : Prop where
  calls : ∀ caller call, s.calls caller = some call → call.begins = false
  queue : .startInLoop ∉ s.backlog
  timers : s.timers = []

section Calls

variable {s next : Connector} {holder : Holder} {caller : Caller}

/-- The right may be given to anybody who may have it. -/
theorem Unclaimed.held (unclaimed : s.Unclaimed)
    (attempt : s.state = .Kconnecting → holder = .attempt)
    (waits : holder ≠ .nobody → holder ≠ .attempt → s.state = .KDisconnected) :
    s.Held holder where
  calls := by
    intro caller call found begins
    cases (unclaimed.calls caller call found).symm.trans begins
  queued := fun queued => absurd queued unclaimed.queue
  once := by simp [List.count_eq_zero.mpr unclaimed.queue]
  timers := fun pending => absurd unclaimed.timers pending
  single := by simp [unclaimed.timers]
  attempt := attempt
  waits := waits
  free := by
    intro call found begins
    cases (unclaimed.calls .loop call found).symm.trans begins
  ordered := by
    intro front back split
    exact absurd (split ▸ List.mem_append_right _ List.mem_cons_self) unclaimed.queue

/-- A thread goes on in its call. -/
theorem Held.call (held : s.Held holder) {stage : Option ConnectorCall}
    (right : ∀ call, stage = some call → call.begins = true →
      holder = .caller caller ∧ (caller = .loop → s.channel = none)) :
    (s.call caller stage).Held holder := by
  refine { held with calls := ?_, free := ?_ }
  · intro other call found begins
    simp only [Connector.call, Function.update_apply] at found
    split at found
    case isTrue same =>
      rw [same]
      exact (right call found begins).1
    · exact held.calls other call found begins
  · intro call found begins
    simp only [Connector.call, Function.update_apply] at found
    split at found
    case isTrue same => exact (right call found begins).2 same.symm
    · exact held.free call found begins

/-- What remains of the calls when the thread that has the right gives it back. -/
theorem Held.others (held : s.Held holder) (mine : holder = .caller caller) {other : Caller}
    {call : ConnectorCall} {stage : Option ConnectorCall}
    (found : (s.call caller stage).calls other = some call) (begins : call.begins = true) :
    stage = some call := by
  simp only [Connector.call, Function.update_apply] at found
  split at found
  · exact found
  case isFalse different =>
    cases mine.symm.trans (held.calls other call found begins)
    exact absurd rfl different

theorem Placed.call (placed : s.Placed) (stage : Option ConnectorCall) :
    (s.call caller stage).Placed :=
  placed.congr rfl rfl rfl rfl rfl rfl rfl rfl

theorem Placed.free (placed : s.Placed) (free : s.channel = none) : s.state ≠ .Kconnecting := by
  intro connecting
  obtain ⟨channel, here, _⟩ := placed.watched connecting
  cases free.symm.trans here

/-- User code in the loop thread runs outside the connector's own turn. -/
theorem Sound.call_outside (sound : s.Sound) (may : caller = .loop → s.turn = [])
    (stage : Option ConnectorCall) : (s.call caller stage).calls .loop ≠ none → s.turn = [] := by
  intro inside
  by_cases same : caller = .loop
  · exact may same
  · apply sound.outside
    rwa [call_calls_of_ne same] at inside

theorem start_sound (sound : s.Sound) (may : caller = .loop → s.turn = [])
    (exclusive : s.connect_ = true ∨ s.Unclaimed ∧ s.state = .KDisconnected ∧
      (caller = .loop → s.channel = none)) : (s.start caller).Sound := by
  unfold start
  split
  · exact sound
  case isFalse clear =>
    obtain ⟨unclaimed, disconnected, free⟩ := exclusive.resolve_left clear
    have held : s.Held (.caller caller) :=
      unclaimed.held (by simp [disconnected]) (fun _ _ => disconnected)
    exact ⟨⟨_, held.call fun _ _ _ => ⟨rfl, free⟩⟩, sound.placed.call _,
      sound.call_outside may _⟩

theorem setConnect_sound (sound : s.Sound) (inside : s.calls caller = some .tested) :
    (s.setConnect caller).Sound := by
  obtain ⟨holder, held⟩ := sound.held
  have set : { s with connect_ := true }.Held holder := held.congr rfl rfl rfl rfl Iff.rfl
  refine ⟨⟨holder, set.call ?_⟩, sound.placed.congr rfl rfl rfl rfl rfl rfl rfl rfl,
    sound.call_outside ?_ _⟩
  · intro call _ _
    refine ⟨held.calls caller _ inside rfl, ?_⟩
    rintro rfl
    exact held.free _ inside rfl
  · rintro rfl
    exact sound.outside (by simp [inside])

theorem stop_sound (sound : s.Sound) (may : caller = .loop → s.turn = []) :
    (s.stop caller).Sound := by
  obtain ⟨holder, held⟩ := sound.held
  have cleared : { s with connect_ := false }.Held holder := held.congr rfl rfl rfl rfl Iff.rfl
  refine ⟨⟨holder, cleared.call ?_⟩, sound.placed.congr rfl rfl rfl rfl rfl rfl rfl rfl,
    sound.call_outside may _⟩
  rintro call same begins
  cases same
  cases begins

theorem restart_sound (sound : s.Sound) (outside : s.turn = []) (unclaimed : s.Unclaimed)
    (free : s.channel = none) : s.restart.Sound := by
  have placed := sound.placed
  have idle := placed.free free
  have stillUnclaimed : ({ s with
      state := .KDisconnected, retryDelayMs := KInitRetryDelayMs, failures := 0
      connect_ := true } : Connector).Unclaimed :=
    ⟨unclaimed.calls, unclaimed.queue, unclaimed.timers⟩
  have held : Held _ (.caller .loop) := stillUnclaimed.held nofun (fun _ _ => rfl)
  refine ⟨⟨_, held.call fun _ _ _ => ⟨rfl, fun _ => free⟩⟩, Placed.call ?_ _,
    fun _ => outside⟩
  refine { placed with
    watched := nofun, unknown := ?_, resets := ?_, listed := ?_, turn := ?_, error := ?_ }
  · intro fd _
    exact placed.unknown fd fun connecting => absurd connecting idle
  · have nothing := placed.resets
    rw [if_neg (by simp [free])] at nothing
    rw [if_neg (by simp [free])]
    exact nothing
  · intro channel here
    cases free.symm.trans here
  · exact fun within => absurd outside within
  · exact fun pending => absurd outside (List.ne_nil_of_mem pending)

end Calls

/-! ## The end of an attempt -/

section Ends

variable {s next : Connector} {holder : Holder} {channel removed : Channel} {fd : Nat}

theorem Held.unclaimed (held : s.Held holder) (calls : ∀ caller, holder ≠ .caller caller)
    (queue : holder ≠ .queue) (timer : holder ≠ .timer) : s.Unclaimed where
  calls := by
    intro caller call found
    by_contra begins
    exact calls caller (held.calls caller call found (by simpa using begins))
  queue := fun queued => queue (held.queued queued)
  timers := by
    by_contra pending
    exact timer (held.timers pending)

theorem Sound.unclaimed (sound : s.Sound) (connecting : s.state = .Kconnecting) : s.Unclaimed := by
  obtain ⟨holder, held⟩ := sound.held
  have attempt := held.attempt connecting
  exact held.unclaimed (by simp [attempt]) (by simp [attempt]) (by simp [attempt])

theorem Unclaimed.congr (unclaimed : s.Unclaimed) (calls : next.calls = s.calls)
    (backlog : .startInLoop ∈ next.backlog → .startInLoop ∈ s.backlog)
    (timers : next.timers = s.timers) : next.Unclaimed where
  calls := by rw [calls]; exact unclaimed.calls
  queue := fun queued => unclaimed.queue (backlog queued)
  timers := timers.trans unclaimed.timers

theorem released_backlog : (s.released channel).backlog = s.backlog ++ [.resetChannel] := by
  simp [backlog, released]

theorem Unclaimed.released (unclaimed : s.Unclaimed) : (s.released channel).Unclaimed := by
  refine unclaimed.congr rfl ?_ rfl
  rw [released_backlog]
  simp

/-- A failed attempt leaves a timer or nobody with the right to begin the next one. -/
theorem Unclaimed.retry (unclaimed : s.Unclaimed) : ∃ holder, (s.retry fd).1.Held holder := by
  have closed : ({ s with state := .KDisconnected }.closeSocket fd).Unclaimed :=
    unclaimed.congr rfl id rfl
  unfold Connector.retry
  simp only
  split
  · split
    · refine ⟨.timer, ?_⟩
      have held : Held _ .timer := closed.held nofun (fun _ _ => rfl)
      refine { held with timers := fun _ => rfl, single := ?_ }
      simp [closed.timers]
    · refine ⟨.nobody, Unclaimed.held ?_ nofun (fun absent => absurd rfl absent)⟩
      exact closed.congr rfl id rfl
  · exact ⟨.nobody, closed.held nofun (fun absent => absurd rfl absent)⟩

/-- The poller has forgotten the channel, which waits for its release. -/
theorem Placed.ended (placed : s.Placed) (connecting : s.state = .Kconnecting)
    (here : s.channel = some channel) (away : channel.fd ∉ s.waiting)
    (state : next.state ≠ .Kconnecting) (waits : next.channel = some removed)
    (same : removed.fd = channel.fd) (poller : next.poller = s.poller.without channel.fd)
    (backlog : next.backlog = s.backlog ++ [.resetChannel]) (events : next.events = s.events)
    (waiting : next.waiting = s.waiting) (functors : next.functors = s.functors)
    (sorted : next.turn.Sublist [.close, .error, .read, .write]) (error : .error ∉ next.turn)
    (quiet : s.turn = [] → next.turn = []) (turn : next.turn ≠ [] → next.state = .KDisconnected ∧
      s.events.currentActiveChannel = some channel.fd) : next.Placed where
  watched := fun again => absurd again state
  unknown := by
    intro other _
    rw [poller]
    by_cases mine : other = channel.fd
    · simp [EPollPoller.without, mine]
    · have unknown := placed.unknown other (by
        intro _ found listed
        cases here.symm.trans listed
        exact Ne.symm mine)
      simpa [EPollPoller.without, mine] using unknown
  resets := by
    have nothing := placed.resets
    rw [if_neg (by simp [connecting])] at nothing
    rw [backlog, List.count_append, nothing, if_pos ⟨by simp [waits], state⟩]
    rfl
  listed := by
    intro found present
    cases waits.symm.trans present
    rw [same, waiting]
    exact fun listed => absurd listed away
  distinct := waiting ▸ placed.distinct
  active := by rw [waiting, events]; exact placed.active
  current := by rw [waiting, events]; exact placed.current
  quiet := by
    rw [waiting, events]
    exact fun silent => ⟨(placed.quiet silent).1, quiet (placed.quiet silent).2⟩
  nobody := by rw [events]; exact placed.nobody
  calling := by rw [functors, events]; exact placed.calling
  sorted := sorted
  turn := by
    intro within
    obtain ⟨disconnected, current⟩ := turn within
    refine ⟨by simp [disconnected], removed, waits, ?_⟩
    rw [events, same]
    exact current
  error := fun pending => absurd pending error

end Ends

/-! ## Steps of the loop thread -/

section Loop

variable {s next : Connector} {holder : Holder} {channel : Channel} {fd : Nat}
  {rest : List Callback} {callback : Callback}

theorem finish_sound {result : Connector × Bool} (sound : result.1.Sound) (user : Bool) :
    (finish result user).Sound := by
  obtain ⟨holder, held⟩ := sound.held
  exact ⟨⟨holder, held.congr rfl rfl rfl rfl Iff.rfl⟩,
    sound.placed.congr rfl rfl rfl rfl rfl rfl rfl rfl, sound.outside⟩

/-- The right is used: `startInLoop` finds the connector disconnected. -/
theorem startInLoop_sound (held : s.Held (.caller .loop)) (placed : s.Placed)
    (free : s.channel = none) (outside : s.turn = []) (user : Bool) :
    ∃ next, s.startInLoop user = some next ∧ next.Sound := by
  have disconnected := held.waits (by simp) (by simp)
  refine ⟨s.call .loop (if s.connect_ then some (.connecting user) else none), ?_,
    ⟨_, held.call fun _ _ _ => ⟨rfl, fun _ => free⟩⟩, placed.call _, fun _ => outside⟩
  simp [startInLoop, disconnected, Connector.call]

/-- The channel of an attempt is not waiting for its turn when it may be removed. -/
theorem Placed.away (placed : s.Placed) (removable : s.events.Removable fd) : fd ∉ s.waiting := by
  intro listed
  by_cases handling : s.events.eventHandling = true
  · rcases removable handling with current | absent
    · exact placed.current fd current listed
    · exact absent (placed.active listed)
  · rw [(placed.quiet (by simpa using handling)).1] at listed
    cases listed

theorem stopInLoop_sound (sound : s.Sound) (outside : s.turn = [])
    (removable : s.state = .Kconnecting → ∀ channel ∈ s.channel,
      s.events.Removable channel.fd) :
    ∃ next, s.stopInLoop = some next ∧ next.Sound := by
  unfold stopInLoop
  split
  case isTrue connecting =>
    obtain ⟨channel, here, watched⟩ := sound.placed.watched connecting
    have allowed := removable connecting channel here
    have removed := removeAndResetChannel_exact (s := { s with state := .KDisconnected }) here
      watched allowed
    have unclaimed : (({ s with state := .KDisconnected } : Connector).released
        channel).Unclaimed :=
      Unclaimed.released ((sound.unclaimed connecting).congr rfl id rfl)
    refine ⟨({ s with state := .KDisconnected }.released channel).closeSocket channel.fd,
      by simp [removed], ⟨.nobody, ?_⟩, ?_, fun _ => outside⟩
    · refine Unclaimed.held ?_ nofun (fun absent => absurd rfl absent)
      exact unclaimed.congr rfl id rfl
    · refine sound.placed.ended connecting here (sound.placed.away allowed) nofun rfl rfl rfl ?_
        rfl rfl rfl ?_ ?_ (fun _ => outside) (fun within => absurd outside within)
      · simp [backlog, closeSocket, released]
      · exact outside ▸ List.nil_sublist _
      · exact fun pending => absurd outside (List.ne_nil_of_mem pending)
  · exact ⟨s, rfl, sound⟩

/-- A queued functor that begins no attempt does not matter for the right to begin one. -/
theorem Held.queue (held : s.Held holder) {functor : ConnectorFunctor}
    (other : functor ≠ .startInLoop) : (s.queueInLoop functor).Held holder := by
  refine { held with queued := ?_, once := ?_, ordered := ?_ }
  · rw [queueInLoop_backlog, List.mem_append, List.mem_singleton]
    rintro (queued | same)
    · exact held.queued queued
    · exact absurd same.symm other
  · rw [queueInLoop_backlog, List.count_append, List.count_singleton]
    simpa [other] using held.once
  · intro front back split waits
    rw [queueInLoop_backlog] at split
    rcases List.eq_nil_or_concat back with rfl | ⟨shorter, last, rfl⟩
    · obtain ⟨_, same⟩ := List.append_inj' split rfl
      exact absurd (List.singleton_inj.mp same) other
    · have regrouped : s.backlog ++ [functor] =
          (front ++ .startInLoop :: shorter) ++ [last] := by
        rw [split]
        simp
      exact held.ordered front shorter (List.append_inj' regrouped rfl).1 waits

theorem Placed.queue (placed : s.Placed) {functor : ConnectorFunctor}
    (other : functor ≠ .resetChannel) : (s.queueInLoop functor).Placed := by
  refine placed.congr rfl rfl rfl ?_ rfl rfl rfl rfl
  rw [queueInLoop_backlog, List.count_append, List.count_singleton]
  simp [other]

/-- Another thread puts the right to begin an attempt into the queue. The channel of the last
attempt is released before it is used. -/
theorem queueStart_held (held : s.Held (.caller (.thread fd))) (placed : s.Placed) :
    ((s.queueInLoop .startInLoop).call (.thread fd) none).Held .queue := by
  have disconnected := held.waits (by simp) (by simp)
  have unqueued : .startInLoop ∉ s.backlog := by
    intro queued
    cases held.queued queued
  have nobody : ∀ other call,
      ((s.queueInLoop .startInLoop).call (.thread fd) none).calls other = some call →
      call.begins = true → False := by
    intro other call found begins
    cases (held.others rfl found begins : none = some call)
  refine
    { calls := fun other call found begins => (nobody other call found begins).elim
      queued := fun _ => rfl
      once := ?_
      timers := ?_
      single := held.single
      attempt := ?_
      waits := fun _ _ => disconnected
      free := fun call found begins => (nobody _ call found begins).elim
      ordered := ?_ }
  · show (s.queueInLoop .startInLoop).backlog.count .startInLoop ≤ 1
    rw [queueInLoop_backlog, List.count_append, List.count_eq_zero.mpr unqueued]
    simp
  · intro pending
    cases held.timers pending
  · intro connecting
    cases disconnected.symm.trans connecting
  · intro front back split waits
    have order : s.backlog ++ [.startInLoop] = front ++ .startInLoop :: back :=
      queueInLoop_backlog (s := s) .startInLoop ▸ split
    have count := placed.resets
    rw [if_pos ⟨waits, by simp [disconnected]⟩] at count
    have queued : .resetChannel ∈ s.backlog := List.count_pos_iff.mp (by omega)
    rcases List.eq_nil_or_concat back with rfl | ⟨shorter, last, rfl⟩
    · exact (List.append_inj' order rfl).1 ▸ queued
    · have regrouped : s.backlog ++ [.startInLoop] =
          (front ++ .startInLoop :: shorter) ++ [last] := by
        rw [order]
        simp
      refine absurd ?_ unqueued
      rw [(List.append_inj' regrouped rfl).1]
      simp

theorem runInLoop_sound (sound : s.Sound) {caller : Caller}
    (inside : s.calls caller = some .started ∨ s.calls caller = some .stopped)
    (removable : caller = .loop → s.calls .loop = some .stopped → s.state = .Kconnecting →
      ∀ channel ∈ s.channel, s.events.Removable channel.fd) :
    ∃ next, s.runInLoop caller = some next ∧ next.Sound := by
  obtain ⟨holder, held⟩ := sound.held
  rcases inside with started | stopped
  · obtain rfl := held.calls caller _ started rfl
    cases caller with
    | loop =>
      have result := startInLoop_sound held sound.placed (held.free _ started rfl)
        (sound.outside (by simp [started])) true
      simpa [runInLoop, started, EventLoop.isInLoopThread] using result
    | thread identifier =>
      refine ⟨(s.queueInLoop .startInLoop).call (.thread identifier) none, ?_,
        ⟨_, queueStart_held held sound.placed⟩, (sound.placed.queue (by simp)).call _, ?_⟩
      · simp [runInLoop, started, EventLoop.isInLoopThread]
      · rw [call_calls_of_ne (by simp)]
        exact sound.outside
  · cases caller with
    | loop =>
      have outside := sound.outside (by simp [stopped])
      have returned : (s.call .loop none).Sound :=
        ⟨⟨holder, held.call nofun⟩, sound.placed.call _, fun _ => outside⟩
      have result := stopInLoop_sound returned outside (removable rfl stopped)
      simpa [runInLoop, stopped, EventLoop.isInLoopThread] using result
    | thread identifier =>
      refine ⟨(s.queueInLoop .stopInLoop).call (.thread identifier) none, ?_,
        ⟨holder, (held.queue (by simp)).call (by simp)⟩,
        (sound.placed.queue (by simp)).call _, ?_⟩
      · simp [runInLoop, stopped, EventLoop.isInLoopThread]
      · rw [call_calls_of_ne (by simp)]
        exact sound.outside

/-- The channel of a new attempt. -/
theorem Placed.begun (placed : s.Placed) (free : s.channel = none) (outside : s.turn = []) :
    ({ s with
      state := .Kconnecting, poller := s.poller.watch fd
      channel := some (writing fd) } : Connector).Placed := by
  have idle := placed.free free
  refine { placed with
    watched := fun _ => ⟨_, rfl, rfl, ?_, ?_, rfl⟩, unknown := ?_, resets := ?_
    listed := fun _ _ _ => rfl, turn := fun within => absurd outside within
    error := fun _ => rfl }
  · exact Function.update_self _ _ _
  · exact Function.update_self _ _ _
  · intro other different
    have apart : fd ≠ other := different rfl _ rfl
    have unknown := placed.unknown other fun connecting => absurd connecting idle
    simpa [EPollPoller.watch, apart.symm] using unknown
  · have nothing := placed.resets
    rw [if_neg (by simp [free])] at nothing
    rw [if_neg (by simp)]
    exact nothing

theorem retry_placed (placed : s.Placed) (disconnected : s.state = .KDisconnected) :
    (s.retry fd).1.Placed := by
  obtain ⟨timers, delay, failures, retried⟩ := retry_inv s fd
  rw [retried]
  exact placed.congr disconnected.symm rfl rfl rfl rfl rfl rfl rfl

/-- `connect` while nobody has the right to begin another attempt. -/
theorem connect_sound (unclaimed : s.Unclaimed) (placed : s.Placed) (free : s.channel = none)
    (disconnected : s.state = .KDisconnected) (outside : s.turn = []) (saveError : Nat) :
    ∃ next, s.connect fd saveError = some next ∧ next.1.Sound := by
  have created : (s.createNonblockingOrDie fd).Unclaimed := unclaimed.congr rfl id rfl
  have kept : (s.createNonblockingOrDie fd).Placed :=
    placed.congr rfl rfl rfl rfl rfl rfl rfl rfl
  unfold connect
  split
  · obtain ⟨unlisted, unwatched⟩ := kept.unknown fd fun again => by
      cases disconnected.symm.trans again
    have begun := connecting_exact (s := s.createNonblockingOrDie fd) free unlisted unwatched
    refine ⟨(_, false), by rw [begun]; rfl, ⟨.attempt, ?_⟩, kept.begun free outside,
      fun _ => outside⟩
    refine Unclaimed.held ?_ (fun _ => rfl) (fun _ other => absurd rfl other)
    exact created.congr rfl id rfl
  · refine ⟨_, rfl, created.retry, retry_placed kept disconnected, fun _ => ?_⟩
    obtain ⟨timers, delay, failures, retried⟩ := retry_inv (s.createNonblockingOrDie fd) fd
    rw [retried]
    exact outside
  · refine ⟨((s.createNonblockingOrDie fd).closeSocket fd, false), rfl, ⟨.nobody, ?_⟩, ?_,
      fun _ => outside⟩
    · refine Unclaimed.held ?_ (fun again => ?_) (fun absent => absurd rfl absent)
      · exact created.congr rfl id rfl
      · cases disconnected.symm.trans again
    · exact kept.congr rfl rfl rfl rfl rfl rfl rfl rfl

theorem attempt_sound (sound : s.Sound) {user : Bool} {saveError : Nat}
    (inside : s.calls .loop = some (.connecting user)) :
    ∃ next, s.attempt fd saveError = some next ∧ next.Sound := by
  obtain ⟨holder, held⟩ := sound.held
  obtain rfl := held.calls .loop _ inside rfl
  have returned : (s.call .loop none).Unclaimed :=
    { calls := by
        intro other call found
        by_contra begins
        cases held.others rfl found (by simpa using begins)
      queue := by
        intro queued
        cases held.queued queued
      timers := by
        by_contra pending
        cases held.timers pending }
  obtain ⟨next, done, kept⟩ : ∃ next, (s.call .loop none).connect fd saveError = some next ∧
      next.1.Sound :=
    connect_sound returned (sound.placed.call _) (held.free _ inside rfl)
      (held.waits nofun nofun) (sound.outside (by simp [inside])) saveError
  exact ⟨finish next user, by simp [attempt, inside, done], finish_sound kept user⟩

/-- Nothing is called after the callback for writing. -/
theorem write_last
    (sorted : (Callback.write :: rest).Sublist [.close, .error, .read, .write]) : rest = [] := by
  cases rest with
  | nil => rfl
  | cons second others =>
    have pair : [Callback.write, second].Sublist [.close, .error, .read, .write] :=
      ((List.nil_sublist others).cons_cons second |>.cons_cons .write).trans sorted
    cases second <;> exact absurd pair (by decide)

/-- The attempt of a channel that has its turn may end. -/
theorem Sound.turn_removable (sound : s.Sound) (within : s.turn ≠ [])
    (here : s.channel = some channel) : s.events.Removable channel.fd := by
  obtain ⟨_, found, present, current⟩ := sound.placed.turn within
  cases here.symm.trans present
  exact fun _ => .inl current

/-- The end of an attempt in the turn of its channel, with a state that fits the callbacks
that are left. -/
theorem ended_sound (sound : s.Sound) (connecting : s.state = .Kconnecting)
    (looping : s.calls .loop = none)
    (turn : s.turn = callback :: rest) (last : callback = .error ∨ callback = .write)
    (here : s.channel = some channel) (held : ∃ holder, next.Held holder)
    (state : next.state ≠ .Kconnecting) (fits : rest ≠ [] → next.state = .KDisconnected)
    (same : next.channel = (s.released channel).channel)
    (poller : next.poller = (s.released channel).poller)
    (backlog : next.backlog = (s.released channel).backlog) (events : next.events = s.events)
    (waiting : next.waiting = s.waiting) (functors : next.functors = s.functors)
    (calls : next.calls = s.calls) (left : next.turn = rest) : next.Sound := by
  have within : s.turn ≠ [] := by simp [turn]
  have removable := sound.turn_removable within here
  obtain ⟨_, found, present, current⟩ := sound.placed.turn within
  cases here.symm.trans present
  have sorted := sound.placed.sorted
  rw [turn] at sorted
  have tail : rest.Sublist [.close, .error, .read, .write] :=
    (List.sublist_cons_self _ _).trans sorted
  have noError : .error ∉ rest := by
    rcases last with rfl | rfl
    · exact (List.nodup_cons.mp (sorted.nodup (by decide))).1
    · rw [write_last sorted]
      exact List.not_mem_nil
  refine ⟨held, ?_, fun inside => absurd (calls ▸ looping) inside⟩
  refine sound.placed.ended connecting here (sound.placed.away removable) state same rfl poller
    (backlog.trans released_backlog) events waiting functors (left ▸ tail) (left ▸ noError)
    (fun outside => absurd outside within) ?_
  intro pending
  exact ⟨fits (left ▸ pending), current⟩

theorem retry_ends (sound : s.Sound) (connecting : s.state = .Kconnecting)
    (looping : s.calls .loop = none)
    (turn : s.turn = callback :: rest) (last : callback = .error ∨ callback = .write)
    (here : s.channel = some channel) :
    (({ s with turn := rest } : Connector).released channel |>.retry channel.fd).1.Sound := by
  have unclaimed : (({ s with turn := rest } : Connector).released channel).Unclaimed :=
    Unclaimed.released ((sound.unclaimed connecting).congr rfl id rfl)
  have held : ∃ holder, Held (retry _ channel.fd).1 holder := unclaimed.retry
  obtain ⟨timers, delay, failures, retried⟩ :=
    retry_inv (({ s with turn := rest } : Connector).released channel) channel.fd
  rw [retried] at held ⊢
  exact ended_sound sound connecting looping turn last here held nofun (fun _ => rfl) rfl rfl rfl
    rfl rfl rfl rfl rfl

theorem handleError_sound (sound : s.Sound) (looping : s.calls .loop = none)
    (turn : s.turn = .error :: rest) :
    ∃ next, ({ s with turn := rest } : Connector).handleError = some next ∧ next.1.Sound := by
  have connecting := sound.placed.error (by simp [turn])
  obtain ⟨channel, here, watched⟩ := sound.placed.watched connecting
  have removed := removeAndResetChannel_exact (s := { s with turn := rest }) here watched
    (sound.turn_removable (by simp [turn]) here)
  exact ⟨_, handleError_exact (s := { s with turn := rest }) connecting removed,
    retry_ends sound connecting looping turn (.inl rfl) here⟩

theorem writable_sound (sound : s.Sound) (connecting : s.state = .Kconnecting)
    (looping : s.calls .loop = none) (turn : s.turn = .write :: rest)
    (here : s.channel = some channel) (err : Nat) (selfConnect : Bool) :
    (({ s with turn := rest } : Connector).released channel |>.writable channel.fd err
      selfConnect).1.Sound := by
  have failed := retry_ends sound connecting looping turn (.inr rfl) here
  have sorted := sound.placed.sorted
  rw [turn] at sorted
  have last := write_last sorted
  have unclaimed : (({ s with turn := rest } : Connector).released channel).Unclaimed :=
    Unclaimed.released ((sound.unclaimed connecting).congr rfl id rfl)
  unfold writable
  split
  · exact failed
  · split
    · exact failed
    · split
      all_goals
        refine ended_sound sound connecting looping turn (.inr rfl) here ⟨.nobody, ?_⟩ nofun
          (fun more => absurd last more) rfl rfl rfl rfl rfl rfl rfl rfl
        refine Unclaimed.held ?_ nofun (fun absent => absurd rfl absent)
        exact unclaimed.congr rfl id rfl

/-- A callback without effect is over. -/
theorem popped_sound (sound : s.Sound)
    (turn : s.turn = callback :: rest) : ({ s with turn := rest } : Connector).Sound := by
  obtain ⟨holder, held⟩ := sound.held
  have placed := sound.placed
  have within : s.turn ≠ [] := by simp [turn]
  refine ⟨⟨holder, held.congr rfl rfl rfl rfl Iff.rfl⟩, ?_, fun inside => ?_⟩
  · refine { placed with
      quiet := ?_, sorted := ?_, turn := fun _ => placed.turn within, error := ?_ }
    · exact fun silent => absurd (placed.quiet silent).2 within
    · exact (List.sublist_cons_self _ _).trans (turn ▸ placed.sorted)
    · exact fun pending => placed.error (turn ▸ List.mem_cons_of_mem _ pending)
  · exact absurd (sound.outside inside) within

theorem handleWrite_sound (sound : s.Sound) (looping : s.calls .loop = none)
    (turn : s.turn = .write :: rest) (err : Nat) (selfConnect : Bool) :
    ∃ next, ({ s with turn := rest } : Connector).handleWrite err selfConnect = some next ∧
      next.1.Sound := by
  have within : s.turn ≠ [] := by simp [turn]
  by_cases connecting : s.state = .Kconnecting
  · obtain ⟨channel, here, watched⟩ := sound.placed.watched connecting
    have removed := removeAndResetChannel_exact (s := { s with turn := rest }) here watched
      (sound.turn_removable within here)
    exact ⟨_, handleWrite_exact (s := { s with turn := rest }) connecting removed _ _,
      writable_sound sound connecting looping turn here err selfConnect⟩
  · have down := (sound.placed.turn within).1
    have disconnected : s.state = .KDisconnected := by
      cases state : s.state with
      | KDisconnected => rfl
      | Kconnecting => exact absurd state connecting
      | Kconnected => exact absurd state down
    exact ⟨({ s with turn := rest }, false), by simp [handleWrite, disconnected],
      popped_sound sound turn⟩

theorem callback_sound (sound : s.Sound) (looping : s.calls .loop = none) (within : s.turn ≠ [])
    (err : Nat) (selfConnect : Bool) :
    ∃ next, s.callback err selfConnect = some next ∧ next.Sound := by
  cases turn : s.turn with
  | nil => exact absurd turn within
  | cons next rest =>
    cases next with
    | close => exact ⟨_, by simp [callback, turn], popped_sound sound turn⟩
    | read => exact ⟨_, by simp [callback, turn], popped_sound sound turn⟩
    | error =>
      obtain ⟨next, handled, kept⟩ := handleError_sound sound looping turn
      exact ⟨_, by simp [callback, turn, handled], finish_sound kept false⟩
    | write =>
      obtain ⟨next, handled, kept⟩ := handleWrite_sound sound looping turn err selfConnect
      exact ⟨_, by simp [callback, turn, handled], finish_sound kept false⟩

theorem poll_sound (sound : s.Sound) {active : List Nat} {revents : BitVec 32}
    (looping : s.calls .loop = none) (idle : s.events.eventHandling = false)
    (polling : s.functors = none) (distinct : active.Nodup)
    (reported : s.Reported active revents) : (s.poll active revents).Sound := by
  obtain ⟨holder, held⟩ := sound.held
  have placed := sound.placed
  have outside : s.turn = [] := (placed.quiet idle).2
  have found : ∀ polled, (s.poll active revents).channel = some polled →
      ∃ channel, s.channel = some channel ∧ channel.fd = polled.fd := by
    intro polled present
    obtain ⟨channel, here, rfl⟩ := Option.map_eq_some_iff.mp present
    exact ⟨channel, here, rfl⟩
  refine ⟨⟨holder, held.congr rfl rfl rfl rfl Option.map_eq_none_iff⟩, ?_,
    fun inside => absurd looping inside⟩
  refine { placed with
    watched := ?_, unknown := ?_, resets := ?_, listed := ?_, distinct := distinct
    active := List.Subset.refl _, current := ?_, quiet := ?_, nobody := ?_, calling := ?_
    turn := fun within => absurd outside within }
  · intro connecting
    obtain ⟨channel, here, watched⟩ := placed.watched connecting
    exact ⟨polled active revents channel, congrArg (Option.map _) here, watched.index,
      watched.table, watched.interest, watched.events⟩
  · intro fd different
    refine placed.unknown fd fun connecting channel here => ?_
    exact different connecting (polled active revents channel) (congrArg (Option.map _) here)
  · have count := placed.resets
    simpa [poll, backlog] using count
  · intro polled present listed
    obtain ⟨channel, here, same⟩ := found polled present
    by_contra away
    have absent := (placed.unknown channel.fd fun connecting => absurd connecting away).2
    have watched := reported channel here (same ▸ listed)
    simp [absent] at watched
  · intro fd current
    cases (placed.nobody idle).symm.trans current
  · intro quiet
    cases quiet
  · intro quiet
    cases quiet
  · exact fun calling => absurd polling calling

/-- The callbacks of a turn are called in a fixed order. -/
theorem callbacks_sorted (revents : BitVec 32) :
    (Channel.callbacks revents).Sublist [.close, .error, .read, .write] := by
  have each : ∀ (condition : Bool) (callback : Callback),
      (if condition then [callback] else []).Sublist [callback] := by
    intro condition callback
    cases condition <;> simp
  exact (((each _ .close).append (each _ .error)).append (each _ .read)).append (each _ .write)

/-- The channel that has callbacks in a turn. -/
theorem turnCallbacks_own {current : Nat} (within : s.turnCallbacks current ≠ []) :
    ∃ channel, s.channel = some channel ∧ channel.fd = current := by
  unfold turnCallbacks at within
  split at within
  case h_1 channel here =>
    split at within
    case isTrue same => exact ⟨channel, here, same⟩
    · exact absurd rfl within
  · exact absurd rfl within

theorem turnCallbacks_sorted (current : Nat) :
    (s.turnCallbacks current).Sublist [.close, .error, .read, .write] := by
  unfold turnCallbacks
  split
  · split
    · exact callbacks_sorted _
    · exact List.nil_sublist _
  · exact List.nil_sublist _

theorem beginTurn_sound (sound : s.Sound) (looping : s.calls .loop = none)
    (handling : s.events.eventHandling = true) (more : s.waiting ≠ []) :
    ∃ next, s.beginTurn = some next ∧ next.Sound := by
  obtain ⟨holder, held⟩ := sound.held
  have placed := sound.placed
  obtain ⟨current, rest, waiting⟩ := List.exists_cons_of_ne_nil more
  obtain ⟨absent, remaining⟩ := List.nodup_cons.mp (waiting ▸ placed.distinct)
  have own : s.turnCallbacks current ≠ [] → s.state = .Kconnecting ∧
      ∃ channel ∈ s.channel, channel.fd = current := by
    intro within
    obtain ⟨channel, here, same⟩ := turnCallbacks_own within
    exact ⟨placed.listed channel here (by simp [waiting, same]), channel, here, same⟩
  refine ⟨{ s with
    events := { s.events with currentActiveChannel := some current }
    waiting := rest
    turn := s.turnCallbacks current }, by simp only [beginTurn, waiting],
    ⟨holder, held.congr rfl rfl rfl rfl Iff.rfl⟩, ?_, fun inside => absurd looping inside⟩
  refine { placed with
    listed := ?_, distinct := remaining, active := ?_, current := ?_
    quiet := fun silent => absurd (handling.symm.trans silent) nofun
    nobody := fun silent => absurd (handling.symm.trans silent) nofun
    sorted := turnCallbacks_sorted current, turn := ?_, error := ?_ }
  · intro channel here listed
    exact placed.listed channel here (waiting ▸ List.mem_cons_of_mem _ listed)
  · intro fd listed
    exact placed.active (waiting ▸ List.mem_cons_of_mem _ listed)
  · rintro fd same
    cases Option.some.inj same
    exact absent
  · intro within
    obtain ⟨connecting, channel, here, same⟩ := own within
    exact ⟨by simp [connecting], channel, here, by rw [same]⟩
  · exact fun pending => (own (List.ne_nil_of_mem pending)).1

theorem endEvents_sound (sound : s.Sound) (looping : s.calls .loop = none)
    (handling : s.events.eventHandling = true) (outside : s.turn = []) (finished : s.waiting = []) :
    s.endEvents.Sound := by
  obtain ⟨holder, held⟩ := sound.held
  have called : s.functors = none := by
    by_contra calling
    cases handling.symm.trans (sound.placed.calling calling)
  have same : s.endEvents.backlog = s.backlog := by simp [backlog, endEvents, called]
  refine ⟨⟨holder, held.congr rfl same rfl rfl Iff.rfl⟩, ?_, fun inside => absurd looping inside⟩
  refine { sound.placed with
    resets := ?_, listed := ?_, active := ?_, current := ?_
    quiet := fun _ => ⟨finished, outside⟩, nobody := fun _ => rfl, calling := fun _ => rfl
    turn := fun within => absurd outside within }
  · rw [same]
    exact sound.placed.resets
  · exact sound.placed.listed
  · exact sound.placed.active
  · intro fd current
    cases current

/-- The functor that begins an attempt is called when the channel is free. -/
theorem runStart_sound (sound : s.Sound) {rest : List ConnectorFunctor}
    (functors : s.functors = some (.startInLoop :: rest)) :
    ∃ next, ({ s with functors := some rest } : Connector).startInLoop false = some next ∧
      next.Sound := by
  obtain ⟨holder, held⟩ := sound.held
  have split : s.backlog = [] ++ .startInLoop :: (rest ++ s.pendingFunctors) := by
    simp [backlog, functors]
  obtain rfl := held.queued (split ▸ List.mem_append_right _ List.mem_cons_self)
  have free : s.channel = none := by
    by_contra waits
    cases held.ordered _ _ split waits
  have outside : s.turn = [] :=
    (sound.placed.quiet (sound.placed.calling (by simp [functors]))).2
  have unclaimed : ({ s with functors := some rest } : Connector).Unclaimed :=
    { calls := by
        intro caller call found
        by_contra begins
        cases held.calls caller call found (by simpa using begins)
      queue := by
        intro again
        have twice := held.once
        rw [split, List.nil_append, List.count_cons_self] at twice
        have more : 0 < (rest ++ s.pendingFunctors).count .startInLoop :=
          List.count_pos_iff.mpr again
        omega
      timers := by
        by_contra pending
        cases held.timers pending }
  have disconnected := held.waits (by simp) (by simp)
  apply startInLoop_sound (unclaimed.held (by simp [disconnected]) (fun _ _ => disconnected))
    ?_ free outside
  refine { sound.placed with
    resets := ?_, calling := fun _ => sound.placed.calling (by simp [functors]) }
  have count := sound.placed.resets
  rw [split, List.nil_append, List.count_cons_of_ne (by simp)] at count
  exact count

/-- The functor that stops an attempt is taken out of the queue. -/
theorem popStop_sound (sound : s.Sound) {rest : List ConnectorFunctor}
    (functors : s.functors = some (.stopInLoop :: rest)) :
    ({ s with functors := some rest } : Connector).Sound := by
  obtain ⟨holder, held⟩ := sound.held
  have split : s.backlog =
      .stopInLoop :: ({ s with functors := some rest } : Connector).backlog := by
    simp [backlog, functors]
  refine ⟨⟨holder, { held with queued := ?_, once := ?_, ordered := ?_ }⟩, ?_, sound.outside⟩
  · exact fun queued => held.queued (split ▸ List.mem_cons_of_mem _ queued)
  · have once := held.once
    rwa [split, List.count_cons_of_ne (by simp)] at once
  · intro front back parts waits
    have early := held.ordered (.stopInLoop :: front) back (by rw [split, parts]; rfl) waits
    simpa using early
  · refine { sound.placed with
      resets := ?_, calling := fun _ => sound.placed.calling (by simp [functors]) }
    have count := sound.placed.resets
    rwa [split, List.count_cons_of_ne (by simp)] at count

/-- The channel of an attempt that has ended is released. -/
theorem runReset_sound (sound : s.Sound) {rest : List ConnectorFunctor}
    (functors : s.functors = some (.resetChannel :: rest)) :
    ({ s with functors := some rest } : Connector).resetChannel.Sound := by
  obtain ⟨holder, held⟩ := sound.held
  have placed := sound.placed
  have split : s.backlog =
      .resetChannel :: ({ s with functors := some rest } : Connector).resetChannel.backlog := by
    simp [backlog, functors, resetChannel]
  have calling := placed.calling (by simp [functors])
  have outside : s.turn = [] := (placed.quiet calling).2
  have count := placed.resets
  rw [split, List.count_cons_self] at count
  have idle : s.channel ≠ none ∧ s.state ≠ .Kconnecting := by
    by_contra other
    rw [if_neg other] at count
    omega
  rw [if_pos idle] at count
  refine ⟨⟨holder, { held with
    queued := ?_, once := ?_, free := fun _ _ _ => rfl
    ordered := fun _ _ _ waits => absurd rfl waits }⟩, ?_, sound.outside⟩
  · exact fun queued => held.queued (split ▸ List.mem_cons_of_mem _ queued)
  · have once := held.once
    rwa [split, List.count_cons_of_ne (by simp)] at once
  · refine { placed with
      watched := fun connecting => absurd connecting idle.2, unknown := ?_, resets := ?_
      listed := ?_, calling := fun _ => calling, turn := fun within => absurd outside within }
    · exact fun fd _ => placed.unknown fd fun connecting => absurd connecting idle.2
    · rw [if_neg (by simp [resetChannel])]
      omega
    · intro channel released
      cases released

theorem runFunctor_sound (sound : s.Sound) (calling : s.functors ≠ none)
    (more : s.functors ≠ some []) : ∃ next, s.runFunctor = some next ∧ next.Sound := by
  obtain ⟨batch, functors⟩ := Option.ne_none_iff_exists'.mp calling
  cases batch with
  | nil => exact absurd functors more
  | cons functor rest =>
    cases functor with
    | startInLoop =>
      have result := runStart_sound sound functors
      simpa [runFunctor, functors] using result
    | stopInLoop =>
      have popped := popStop_sound sound functors
      have silent := sound.placed.calling calling
      have result := stopInLoop_sound popped (sound.placed.quiet silent).2
        (fun _ _ _ handling => absurd (silent.symm.trans handling) nofun)
      simpa [runFunctor, functors] using result
    | resetChannel => exact ⟨_, by simp [runFunctor, functors], runReset_sound sound functors⟩

theorem endFunctors_sound (sound : s.Sound) (functors : s.functors = some []) :
    s.endFunctors.Sound := by
  obtain ⟨holder, held⟩ := sound.held
  have same : s.endFunctors.backlog = s.backlog := by simp [backlog, endFunctors, functors]
  refine ⟨⟨holder, held.congr rfl same rfl rfl Iff.rfl⟩, ?_, sound.outside⟩
  refine { sound.placed with resets := ?_, calling := fun calling => absurd rfl calling }
  rw [same]
  exact sound.placed.resets

theorem retryTimer_sound (sound : s.Sound) {delay : Nat} (pending : delay ∈ s.timers)
    (outside : s.turn = []) (free : s.channel = none) :
    ∃ next, s.retryTimer delay = some next ∧ next.Sound := by
  obtain ⟨holder, held⟩ := sound.held
  obtain rfl := held.timers (List.ne_nil_of_mem pending)
  have unclaimed : ({ s with timers := s.timers.erase delay } : Connector).Unclaimed :=
    { calls := by
        intro caller call found
        by_contra begins
        cases held.calls caller call found (by simpa using begins)
      queue := by
        intro queued
        cases held.queued queued
      timers := by
        have single := held.single
        have shorter := List.length_erase_of_mem pending
        have positive := List.length_pos_of_mem pending
        exact List.length_eq_zero_iff.mp (show (s.timers.erase delay).length = 0 by omega) }
  have disconnected := held.waits (by simp) (by simp)
  exact startInLoop_sound (unclaimed.held (by simp [disconnected]) (fun _ _ => disconnected))
    (sound.placed.congr rfl rfl rfl rfl rfl rfl rfl rfl) free outside false

end Loop

/-! ## Runs -/

/-- The condition on a step. A call of `start` that finds the flag clear, or a call of
`restart`, is made while nobody has the right to begin an attempt and the connector is
disconnected, or at least without an attempt; the channel of the last attempt is released, and
for a `start` in another thread it is enough that its release is queued. A call of `stop` in
the loop thread does not end an attempt whose channel is in the batch, outside its own turn.
No retry timer fires before the release of the channel. -/
def Exclusive (s : Connector) : Label → Prop
  | .start caller => s.connect_ = true ∨
      s.Unclaimed ∧ s.state = .KDisconnected ∧ (caller = .loop → s.channel = none)
  | .restart => s.Unclaimed ∧ s.channel = none
  | .runInLoop caller => caller = .loop → s.calls .loop = some .stopped →
      s.state = .Kconnecting → ∀ channel ∈ s.channel, s.events.Removable channel.fd
  | .retryTimer _ => s.channel = none
  | _ => True

theorem step_sound (s : Connector) (label : Label) (sound : s.Sound)
    (condition : s.Enabled label ∧ s.Exclusive label) :
    ∃ next, s.step label = some next ∧ next.Sound := by
  obtain ⟨enabled, exclusive⟩ := condition
  have user : ∀ caller, s.MayCall caller → caller = .loop → s.turn = [] := by
    rintro caller may rfl
    exact may.2
  cases label with
  | start caller => exact ⟨_, rfl, start_sound sound (user caller enabled) exclusive⟩
  | setConnect caller => exact ⟨_, rfl, setConnect_sound sound enabled.2⟩
  | stop caller => exact ⟨_, rfl, stop_sound sound (user caller enabled)⟩
  | restart => exact ⟨_, rfl, restart_sound sound enabled.2 exclusive.1 exclusive.2⟩
  | runInLoop caller => exact runInLoop_sound sound enabled.2 exclusive
  | attempt sockfd saveError =>
    obtain ⟨_, inside, _⟩ := enabled
    rcases inside with byUser | byLoop
    · exact attempt_sound sound byUser
    · exact attempt_sound sound byLoop
  | poll active revents =>
    obtain ⟨looping, idle, polling, distinct, reported⟩ := enabled
    exact ⟨_, rfl, poll_sound sound looping.2 idle polling distinct reported⟩
  | beginTurn => exact beginTurn_sound sound enabled.1.2 enabled.2.1 enabled.2.2.2
  | callback err selfConnect => exact callback_sound sound enabled.1.2 enabled.2 err selfConnect
  | endEvents =>
    obtain ⟨looping, handling, outside, finished⟩ := enabled
    exact ⟨_, rfl, endEvents_sound sound looping.2 handling outside finished⟩
  | runFunctor => exact runFunctor_sound sound enabled.2.1 enabled.2.2
  | endFunctors => exact ⟨_, rfl, endFunctors_sound sound enabled.2⟩
  | retryTimer delay => exact retryTimer_sound sound enabled.2.2.2 enabled.2.2.1 exclusive
  | connectionEnds sockfd =>
    obtain ⟨holder, held⟩ := sound.held
    exact ⟨_, rfl, ⟨holder, held.congr rfl rfl rfl rfl Iff.rfl⟩,
      sound.placed.congr rfl rfl rfl rfl rfl rfl rfl rfl, sound.outside⟩

/-- In every run whose steps all meet the condition no assertion fails. The poller watches at
most one descriptor, that of the channel of the attempt in progress.

Proof: by the safety rule, a step from a sound state succeeds and leads to a sound state. -/
theorem assertions_hold (accessible : Bool) (labels : List Label)
    (valid : system.Valid (new accessible) labels)
    (exclusive : system.Along Exclusive (new accessible) labels) :
    ∃ final, system.run (new accessible) labels = some final ∧
      ∀ fd, final.poller.interest fd ≠ none → final.state = .Kconnecting ∧
        ∃ channel ∈ final.channel, channel.fd = fd := by
  obtain ⟨final, finished, sound⟩ := System.run_safe Sound step_sound (new accessible) labels
    (new_sound accessible) ((System.along_and _ _ _ _).mpr ⟨valid, exclusive⟩)
  refine ⟨final, finished, ?_⟩
  intro fd watched
  by_contra other
  refine watched (sound.placed.unknown fd ?_).2
  intro connecting channel here same
  exact other ⟨connecting, channel, here, same⟩

/-- The first attempt is refused, and the owner catches the exception of `shared_from_this` and
restarts. The second attempt succeeds, its connection ends, and the owner restarts again. -/
def restarted : List Label :=
  [.start .loop, .setConnect .loop, .runInLoop .loop, .attempt 5 ECONNREFUSED, .restart,
    .runInLoop .loop, .attempt 6 EINPROGRESS, .poll [6] POLLOUT, .beginTurn, .callback 0 false,
    .endEvents, .runFunctor, .endFunctors, .connectionEnds 6, .restart, .runInLoop .loop,
    .attempt 7 EINPROGRESS]

/-- The last attempt is the only one that is watched. -/
theorem assertions_hold_restarted :
    ∃ final, system.run (new false) restarted = some final ∧ final.poller.interest 7 ≠ none ∧
      ∀ fd, final.poller.interest fd ≠ none → final.state = .Kconnecting ∧
        ∃ channel ∈ final.channel, channel.fd = fd := by
  obtain ⟨final, finished, watched⟩ := assertions_hold false restarted (by decide) (by
    refine ⟨.inr ⟨⟨nofun, List.not_mem_nil, rfl⟩, rfl, fun _ => rfl⟩, fun _ stepped => ?_⟩
    cases stepped
    iterate 16
      refine ⟨by
        first
        | trivial
        | exact ⟨⟨by rintro (_ | _) _ ⟨⟩, List.not_mem_nil, rfl⟩, rfl⟩
        | nofun, fun _ stepped => ?_⟩
      cases stepped
    trivial)
  refine ⟨final, finished, ?_, watched⟩
  cases finished
  nofun

/-- The loop thread begins an attempt, and this happens next. -/
def underway (rest : List Label) : List Label :=
  .start .loop :: .setConnect .loop :: .runInLoop .loop :: .attempt 5 EINPROGRESS :: rest

/-- Another thread stops the attempt and starts again: the channel is not released yet. -/
def stoppedAndStarted : List Label :=
  underway [.stop (.thread 1), .runInLoop (.thread 1), .start (.thread 1),
    .setConnect (.thread 1), .runInLoop (.thread 1), .poll [] 0, .endEvents, .runFunctor,
    .runFunctor, .attempt 6 EINPROGRESS]

/-- An established connection is given up, and the owner starts again: the state is still that
of an established connection. -/
def startedAfterSuccess : List Label :=
  underway [.poll [5] POLLOUT, .beginTurn, .callback 0 false, .stop .loop, .runInLoop .loop,
    .connectionEnds 5, .start .loop, .setConnect .loop, .runInLoop .loop]

/-- The owner restarts during an attempt and the new one fails at once; the first one then
reports an error. -/
def restartedAndFailed : List Label :=
  underway [.restart, .runInLoop .loop, .attempt 6 EACCES, .poll [5] POLLERR, .beginTurn,
    .callback 0 false]

/-- The callback of another channel stops the attempt while its channel is in the batch. -/
def stoppedInBatch : List Label :=
  underway [.poll [7, 5] POLLOUT, .beginTurn, .stop .loop, .runInLoop .loop]

/-- Every step of the run may happen, all but the last succeed, and the last one fails. -/
def LastFails (labels : List Label) : Prop :=
  system.Valid (new false) labels ∧ (system.run (new false) labels.dropLast).isSome = true ∧
    (system.run (new false) labels).isNone = true

instance (labels : List Label) : Decidable (LastFails labels) := instDecidableAnd

/-- In each of these runs the last step fails an assertion: that of `connecting`, of
`startInLoop`, of `handleError`, and of `removeChannel`. -/
theorem assertions_fail :
    LastFails stoppedAndStarted ∧ LastFails startedAfterSuccess ∧ LastFails restartedAndFailed ∧
      LastFails stoppedInBatch := by
  decide

end Connector

end Moban
