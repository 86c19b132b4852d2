import Moban.FtpStale

/-!
# The replies to a transfer

A transfer is announced by a reply with the code 150 and completed by one other reply. The
replies that were sent are read from left to right: an announcement is allowed when no other is
open, and a completion when one is. At any time an announcement should be open exactly while
the session has a transfer.

The session completes a transfer at several places, and all but one of them clear the transfer.
A file or a directory that cannot be opened is reported while the transfer stays, so that the
loss of the data connection is reported as a second completion. A command that begins a transfer
while there is another one sends a second announcement. And what is to be sent after the end of the
control connection is dropped.

A session that fails leaves an announcement open for good. It does so when the data connection is
taken away from a transfer, by a new `PASV` or by a closing of the data server that was queued
before the transfer began, and when a write-complete callback that an earlier transfer has cleared
is called. While an announcement is open, none of this happens in the runs considered here. That a
transfer gets on at all is not claimed.
-/

namespace Moban

open Runs

/-- The effect of a reply on whether an announcement is open. -/
def Reply.exchange : Option Bool → Reply → Option Bool
  | none, _ => none
  | some pending, text =>
      if text.opens then if pending then none else some true
      else if text.completes then if pending then some false else none
      else some pending

/-- Whether an announcement is open, if announcements and completions alternate. -/
def Reply.announced (replies : List Reply) : Option Bool :=
  replies.foldl Reply.exchange (some false)

theorem Reply.announced_snoc (replies : List Reply) (text : Reply) :
    Reply.announced (replies ++ [text]) = Reply.exchange (Reply.announced replies) text := by
  simp [Reply.announced]

namespace FtpSession

/-- The session has announced a transfer that is not completed. -/
def owing (s : FtpSession) : Bool := decide (s.ctrlConn = .KConnected ∧ s.xfer ≠ .kNone)

/-- Announcements and completions alternate, and one is open exactly while there is a
transfer. -/
def Answered (s : FtpSession) : Prop := Reply.announced s.replies = some s.owing

instance (s : FtpSession) : Decidable s.Answered := decEq _ _

/-- While the control connection is up, a transfer begins only when there is none and nothing is
queued, and the data server is replaced and the control connection ends only when there is none.
What a transfer sends can be opened. -/
def Orderly (s : FtpSession) : Label → Prop
  | .command line input => s.ctrlConn = .KConnected →
      (s.Begins line input → s.xfer = .kNone ∧ s.pendingFunctors = [] ∧
        (s.connected = true → input.opened ≠ none)) ∧
        (FtpCommand.parse line = .pasv ∨ FtpCommand.parse line = .quit → s.xfer = .kNone)
  | .accept _ input => s.ctrlConn = .KConnected →
      s.dataConn = none → s.xfer ≠ .kNone → input.opened ≠ none
  | .ctrlForceClose | .ctrlClosed => s.ctrlConn = .KConnected → s.xfer = .kNone
  | _ => True

instance (s : FtpSession) : DecidablePred s.Orderly
  | .command .. | .accept .. | .ctrlForceClose | .ctrlClosed => instDecidableForall
  | .dataClosed _ | .dataWritable .. | .timeout _ | .taskDone .. | .beginFunctors
  | .runFunctor _ | .endFunctors => instDecidableTrue

section Steps

variable {s next : FtpSession} {input : FtpInput} {label : Label} {text : Reply}
  {log : List FtpEvent} {functor : FtpFunctor} {line : List UInt8}

/-! ## What a reply does -/

theorem Answered.same (answered : s.Answered) (ctrlConn : next.ctrlConn = s.ctrlConn)
    (xfer : next.xfer = s.xfer) (replies : next.replies = s.replies) : next.Answered := by
  simp only [Answered, owing, ctrlConn, xfer, replies]
  exact answered

/-- The control connection is down, and nothing was owed when it went down. -/
theorem Answered.leaves (answered : s.Answered) (idle : s.ctrlConn = .KConnected → s.xfer = .kNone)
    (down : next.ctrlConn ≠ .KConnected) (replies : next.replies = s.replies) :
    next.Answered := by
  have quiet : s.owing = false := by simpa [owing] using idle
  have still : next.owing = false := by simp [owing, down]
  rw [Answered, replies, still, ← quiet]
  exact answered

/-- Nothing is sent without a control connection. -/
theorem Answered.silent (answered : s.Answered) (down : s.ctrlConn ≠ .KConnected)
    (ctrlConn : next.ctrlConn = s.ctrlConn) (replies : next.replies = s.replies) :
    next.Answered :=
  answered.leaves (fun up => absurd up down) (ctrlConn ▸ down) replies

theorem reply_replies (up : s.ctrlConn = .KConnected) (text : Reply) :
    (s.reply text).replies = s.replies ++ [text] := if_pos up

theorem reply_silent (down : s.ctrlConn ≠ .KConnected) (text : Reply) :
    (s.reply text).replies = s.replies := if_neg down

/-- A reply is sent, and what is owed changes with it. -/
theorem Answered.replies (answered : s.Answered) (ctrlConn : next.ctrlConn = s.ctrlConn)
    (replies : next.replies = (s.reply text).replies) (exchange : s.ctrlConn = .KConnected →
      Reply.exchange (some s.owing) text = some next.owing) : next.Answered := by
  by_cases up : s.ctrlConn = .KConnected
  · rw [Answered, replies, reply_replies up, Reply.announced_snoc, answered, exchange up]
  · exact answered.silent up ctrlConn (replies.trans (reply_silent up text))

theorem Answered.chats (answered : s.Answered) (silent : text.opens = false)
    (plain : text.completes = false) (ctrlConn : next.ctrlConn = s.ctrlConn)
    (xfer : next.xfer = s.xfer) (replies : next.replies = (s.reply text).replies) :
    next.Answered := by
  refine answered.replies ctrlConn replies fun _ => ?_
  simp [Reply.exchange, silent, plain, owing, ctrlConn, xfer]

/-- A completion is due, and the transfer is over. -/
theorem Answered.completed (answered : s.Answered) (active : s.xfer ≠ .kNone)
    (completes : text.completes = true) (ctrlConn : next.ctrlConn = s.ctrlConn)
    (xfer : next.xfer = .kNone) (replies : next.replies = (s.reply text).replies) :
    next.Answered := by
  have silent : text.opens = false := by cases text <;> first | rfl | cases completes
  refine answered.replies ctrlConn replies fun up => ?_
  simp [Reply.exchange, silent, completes, owing, up, active, xfer]

/-- An announcement is allowed, and there is a transfer. -/
theorem Answered.opened (answered : s.Answered) (idle : s.ctrlConn = .KConnected → s.xfer = .kNone)
    (opens : text.opens = true) (ctrlConn : next.ctrlConn = s.ctrlConn) (xfer : next.xfer ≠ .kNone)
    (replies : next.replies = (s.reply text).replies) : next.Answered := by
  refine answered.replies ctrlConn replies fun up => ?_
  simp [Reply.exchange, opens, owing, up, idle up, ctrlConn, xfer]

/-! ## The functions of the session -/

theorem Answered.requests (answered : s.Answered) (requests : s.Requests input next) :
    next.Answered := by
  cases requests with
  | idle => exact answered
  | reads => exact answered.same rfl rfl rfl
  | lists => exact answered.same rfl rfl rfl
  | ends => exact answered.same rfl rfl rfl
  | rejected _ active =>
    exact answered.completed active (rfl : Reply.localError.completes = true) rfl rfl rfl

theorem Answered.delivers {chunk : Chunk} (answered : s.Answered)
    (delivers : s.Delivers chunk input next) : next.Answered := by
  cases delivers with
  | stale => exact answered
  | fails _ active =>
    have completes : (if s.xfer = .kRetr then Reply.readError else .failedToList).completes =
        true := by
      split <;> rfl
    exact answered.completed active completes rfl rfl rfl
  | ends => exact answered.same rfl rfl rfl
  | dropped => exact answered
  | sends => exact answered.same rfl rfl rfl
  | sendsLast => exact answered.same rfl rfl rfl

/-- What a transfer sends can be opened, unless nobody is told. -/
theorem Answered.starts (answered : s.Answered)
    (openable : s.ctrlConn = .KConnected → s.connected = true → s.xfer ≠ .kNone →
      input.opened ≠ none)
    (starts : s.Starts input next) : next.Answered := by
  cases starts with
  | waits => exact answered
  | refused connected active failed =>
    have down : s.ctrlConn ≠ .KConnected := fun up => openable up connected active failed
    exact answered.silent down rfl (reply_silent down _)
  | pumps _ _ _ requests =>
    exact Answered.requests (answered.same rfl rfl rfl : (s.openHandle input).Answered) requests

theorem Answered.handleDataDown (answered : s.Answered) (server : Nat) :
    (s.handleDataDown server).Answered := by
  have ended : s.endTransfer.Answered := by
    rcases s.endTransfer_cases with ⟨active, _, aborted⟩ | ⟨_, completed⟩
    · rw [aborted]
      exact answered.completed active (rfl : Reply.transferAborted.completes = true) rfl rfl rfl
    · rw [completed, sendDataEndReply, endReply]
      split
      case h_1 unchanged => exact answered.same rfl unchanged.symm rfl
      case h_2 list =>
        exact answered.completed (by simp [list]) (rfl : Reply.listComplete.completes = true)
          rfl rfl rfl
      case h_3 retr =>
        exact answered.completed (by simp [retr]) (rfl : Reply.transferComplete.completes = true)
          rfl rfl rfl
  exact ended.same rfl rfl rfl

theorem Answered.lose (answered : s.Answered) (id server : Nat) : (s.lose id server).Answered :=
  Answered.handleDataDown (answered.same rfl rfl rfl : (s.onConnection id _).Answered) server

theorem Answered.cmdPasv (answered : s.Answered) : (s.cmdPasv input).Answered := by
  unfold FtpSession.cmdPasv
  have announced :
      (Reply.enteringPassive input.ipNetEndian input.portNetEndian).completes = false := rfl
  split
  · exact answered.chats rfl announced rfl rfl rfl
  · exact answered.chats rfl announced rfl rfl rfl

theorem Answered.cmdQuit (answered : s.Answered)
    (idle : s.ctrlConn = .KConnected → s.xfer = .kNone) :
    s.cmdQuit.Answered := by
  have told : (s.reply .bye).Answered := answered.chats rfl rfl rfl rfl rfl
  refine told.leaves idle ?_ rfl
  by_cases up : s.ctrlConn = .KConnected <;>
    simp [FtpSession.cmdQuit, ctrlShutdown, reply, up]

/-! ## Steps and runs -/

theorem Answered.obeys (answered : s.Answered)
    (orderly : s.Orderly (.command line input)) (obeys : s.Obeys line input next) :
    next.Answered := by
  cases obeys with
  | chats state text silent plain => exact answered.chats silent plain rfl rfl rfl
  | passive => exact answered.cmdPasv
  | lists longNames asked begins starts =>
    refine Answered.starts ?_ ?_ starts
    · exact answered.opened (fun up => ((orderly up).1 begins).1)
        (rfl : Reply.directoryListing.opens = true) rfl nofun rfl
    · exact fun up connected _ => ((orderly up).1 begins).2.2 connected
  | retrieves arg asked begins starts =>
    refine Answered.starts ?_ ?_ starts
    · exact answered.opened (fun up => ((orderly up).1 begins).1)
        (rfl : Reply.openingBinary.opens = true) rfl nofun rfl
    · exact fun up connected _ => ((orderly up).1 begins).2.2 connected
  | quits asked => exact answered.cmdQuit fun up => (orderly up).2 (.inr asked)

theorem Answered.accepts {server : Nat} (answered : s.Answered)
    (orderly : s.Orderly (.accept server input)) (accepts : s.Accepts server input next) :
    next.Answered := by
  cases accepts with
  | extra => exact answered.same rfl rfl rfl
  | first free starts =>
    have taken : ((s.addConnection server).takeConnection s.connections.length).Answered :=
      answered.same rfl rfl rfl
    exact taken.starts (fun up _ active => orderly up free active) starts

theorem Answered.pasvTimeout (answered : s.Answered) (timer : Nat) :
    (s.pasvTimeout timer).Answered := by
  unfold FtpSession.pasvTimeout
  simp only
  split
  · exact answered.chats rfl (rfl : Reply.passiveTimedOut.completes = false) rfl rfl rfl
  · exact answered.same rfl rfl rfl

theorem Answered.call (answered : s.Answered)
    (done : s.call functor input = some next) : next.Answered := by
  cases functor with
  | closeDataServer =>
    cases done
    exact answered.same rfl rfl rfl
  | deleteServer server =>
    refine destroyConnections_keeps Answered ?_ ?_ done
    · intro s id c answered _ _ _
      exact answered.lose id server
    · exact answered.same rfl rfl rfl
  | sendChunkReady chunk => exact answered.delivers (sendChunkReady_inv done)
  | writeComplete id bound => exact answered.requests (writeComplete_inv done)
  | forceCloseInLoop id =>
    rcases forceCloseInLoop_inv done with rfl | ⟨c, _, _, rfl⟩
    · exact answered
    · exact answered.lose id c.server

/-- Every step that meets the condition keeps the order of the replies. -/
theorem step_answered (answered : s.Answered) (enabled : s.Enabled label)
    (orderly : s.Orderly label) (done : s.step label = some next) : next.Answered := by
  cases label with
  | command line input => exact answered.obeys orderly (handleCommand_inv done)
  | accept server input => exact answered.accepts orderly (accept_inv done)
  | dataClosed id =>
    obtain ⟨c, _, _, rfl⟩ := handleClose_inv done
    exact answered.lose id c.server
  | dataWritable id count =>
    obtain ⟨c, _, rfl⟩ := handleWrite_inv done
    exact answered.same rfl rfl rfl
  | timeout timer =>
    cases done
    exact answered.pasvTimeout timer
  | ctrlForceClose =>
    cases done
    refine answered.leaves orderly ?_ rfl
    by_cases down : s.ctrlConn = .KDisconnected <;> simp [ctrlForceClose, down]
  | ctrlClosed =>
    cases done
    exact answered.leaves orderly (nofun : StateE.KDisconnected ≠ .KConnected) rfl
  | taskDone index result =>
    obtain ⟨task, _, rfl⟩ := taskDone_inv done
    exact answered.same rfl rfl rfl
  | beginFunctors =>
    cases done
    exact answered.same rfl rfl rfl
  | runFunctor input =>
    obtain ⟨functor, rest, _, called⟩ := runFunctor_inv done enabled.1
    have taken : (s.remaining rest).Answered := answered.same rfl rfl rfl
    exact taken.call called
  | endFunctors =>
    cases done
    exact answered.same rfl rfl rfl

/-! ## No step fails while an announcement is open -/

/-- Whether each connection has a write-complete callback. -/
def callbacks (s : FtpSession) : List Bool :=
  s.connections.map DataConnection.writeCompleteCallback

/-- The functor can be called during a transfer. One that closes a data server cannot: it takes
the data connection away, or finds it half closed. -/
def Callable (s : FtpSession) : FtpFunctor → Prop
  | .closeDataServer _ | .deleteServer _ => False
  | .sendChunkReady chunk => chunk.gen = s.xferGen → s.dataConn.isSome = true
  | .writeComplete id bound =>
      ∃ installed, s.callbacks[id]? = some installed ∧ (bound = true ∨ installed = true)
  | .forceCloseInLoop id => id < s.callbacks.length

/-- While an announcement is open, every functor that is queued can be called, and a task of the
transfer has a data connection to write to. -/
def Ready (s : FtpSession) : Prop :=
  s.owing = true → (∀ functor ∈ s.queued, s.Callable functor) ∧
    ∀ task ∈ s.tasks, task.gen = s.xferGen → s.dataConn.isSome = true

/-- A functor can still be called when its connection and the transfer are still there. -/
theorem Callable.kept (callable : s.Callable functor)
    (callbacks : ∃ tail, next.callbacks = s.callbacks ++ tail) (xferGen : next.xferGen = s.xferGen)
    (dataConn : s.dataConn.isSome = true → next.dataConn.isSome = true) :
    next.Callable functor := by
  obtain ⟨tail, grown⟩ := callbacks
  cases functor with
  | closeDataServer | deleteServer => exact callable
  | sendChunkReady chunk => exact fun current => dataConn (callable (current.trans xferGen))
  | writeComplete id bound =>
    obtain ⟨installed, found, able⟩ := callable
    have within := (List.getElem?_eq_some_iff.mp found).1
    exact ⟨installed, by rw [grown, List.getElem?_append_left within, found], able⟩
  | forceCloseInLoop id =>
    rw [Callable, grown, List.length_append]
    exact Nat.lt_add_right _ callable

/-- Functors are queued and tasks submitted that fit the transfer. -/
theorem Ready.kept {more : List FtpFunctor} (ready : s.Ready) (owing : next.owing = s.owing)
    (callbacks : ∃ tail, next.callbacks = s.callbacks ++ tail)
    (queued : next.queued = s.queued ++ more) (xferGen : next.xferGen = s.xferGen)
    (dataConn : s.dataConn.isSome = true → next.dataConn.isSome = true)
    (callable : s.owing = true → ∀ functor ∈ more, next.Callable functor)
    (tasks : ∀ task ∈ next.tasks, task ∈ s.tasks ∨ next.dataConn.isSome = true) :
    next.Ready := by
  intro owed
  rw [owing] at owed
  obtain ⟨able, taken⟩ := ready owed
  refine ⟨fun functor member => ?_, fun task member current => ?_⟩
  · rw [queued] at member
    rcases List.mem_append.mp member with earlier | new
    · exact (able functor earlier).kept callbacks xferGen dataConn
    · exact callable owed functor new
  · rcases tasks task member with earlier | established
    · exact dataConn (taken task earlier (current.trans xferGen))
    · exact established

theorem Ready.same (ready : s.Ready) (owing : next.owing = s.owing)
    (connections : next.connections = s.connections) (queued : next.queued = s.queued)
    (xferGen : next.xferGen = s.xferGen) (dataConn : next.dataConn = s.dataConn)
    (tasks : next.tasks = s.tasks) : next.Ready :=
  ready.kept owing ⟨[], by simp [callbacks, connections]⟩ (queued.trans (List.append_nil _).symm)
    xferGen (dataConn ▸ id) nofun fun _ member => .inl (tasks ▸ member)

theorem ready_of_cleared (xfer : next.xfer = .kNone) : next.Ready := by simp [Ready, owing, xfer]

theorem connected_taken (up : s.connected = true) : s.dataConn.isSome = true := by
  obtain ⟨id, _, taken, _⟩ := connected_inv up
  simp [taken]

theorem Ready.finished (ready : s.Ready) : s.finished.Ready := by
  have same : s.finished.callbacks = s.callbacks :=
    map_onData _ (fun c => by unfold DataConnection.shutdown; split <;> rfl) _
  exact ready.kept rfl ⟨[], by simp [same]⟩ (List.append_nil _).symm rfl id nofun
    fun _ member => .inl member

theorem Ready.submits (ready : s.Ready) (up : s.connected = true) (offset : Nat) (task : DiskTask) :
    Ready { s with nextReadOffset := offset, tasks := s.tasks ++ [task] } :=
  ready.kept rfl ⟨[], (List.append_nil _).symm⟩ (List.append_nil _).symm rfl id nofun
    fun _ _ => .inr (connected_taken up)

theorem Ready.requests (ready : s.Ready) (requests : s.Requests input next) : next.Ready := by
  cases requests with
  | idle => exact ready
  | reads up => exact ready.submits up _ _
  | lists up => exact ready.submits up _ _
  | ends => exact ready.finished
  | rejected => exact ready_of_cleared rfl

/-- Only the data connection notifies, and the notification is bound to its callback. -/
theorem Ready.sendData (ready : s.Ready) (bytes : List UInt8) : (s.sendData bytes input).Ready := by
  have same : (s.sendData bytes input).callbacks = s.callbacks :=
    map_onData _ (fun c => (send_same c bytes input.nwrote input.faultError).2.2) s
  refine ready.kept rfl ⟨[], by simp [same]⟩ (List.append_assoc ..).symm rfl id
    (fun _ functor member => ?_) fun _ member => .inl member
  unfold notified at member
  split at member
  case h_1 id c taken found =>
    split at member
    · cases List.mem_singleton.mp member
      refine ⟨c.writeCompleteCallback, ?_, .inl rfl⟩
      have there : s.connections[id]? = some c := by simpa [conn?, taken] using found
      rw [same, callbacks, List.getElem?_map, there]
      rfl
    · cases member
  · cases member

theorem Ready.delivers {chunk : Chunk} (ready : s.Ready)
    (delivers : s.Delivers chunk input next) : next.Ready := by
  cases delivers with
  | stale => exact ready
  | fails => exact ready_of_cleared rfl
  | ends => exact ready.finished
  | dropped => exact ready
  | sends => exact ready.sendData chunk.bytes
  | sendsLast => exact (ready.sendData chunk.bytes).finished

theorem Ready.starts (ready : s.Ready)
    (openable : s.ctrlConn = .KConnected → s.connected = true → s.xfer ≠ .kNone →
      input.opened ≠ none)
    (starts : s.Starts input next) : next.Ready := by
  cases starts with
  | waits => exact ready
  | refused up active failed =>
    intro owed
    have told : s.ctrlConn = .KConnected := (of_decide_eq_true owed).1
    exact absurd failed (openable told up active)
  | pumps _ _ _ requests =>
    have opened : (s.openHandle input).Ready := ready.same rfl rfl rfl rfl rfl rfl
    exact opened.requests requests

/-- A transfer begins when nothing is queued, and all tasks are of earlier generations. -/
theorem Traced.begins {base : FtpSession} (traced : s.Traced log) (idle : s.functors = none)
    (orderly : s.Orderly (.command line input)) (begins : s.Begins line input)
    (starts : base.Starts input next) (ctrlConn : base.ctrlConn = s.ctrlConn)
    (connected : base.connected = s.connected) (queued : base.queued = s.queued)
    (tasks : base.tasks = s.tasks) (xferGen : base.xferGen = s.xferGen + 1) : next.Ready := by
  refine Ready.starts (fun owed => ⟨?_, ?_⟩) (fun up established _ => ?_) starts
  · have up : s.ctrlConn = .KConnected := ctrlConn ▸ (of_decide_eq_true owed).1
    rw [queued, FtpSession.queued, idle, ((orderly up).1 begins).2.1]
    exact fun _ member => absurd member List.not_mem_nil
  · rw [tasks, xferGen]
    intro task member current
    rcases traced.tasks task member with earlier | ⟨same, _⟩ <;> omega
  · exact ((orderly (ctrlConn ▸ up)).1 begins).2.2 (connected ▸ established)

theorem Ready.obeys (ready : s.Ready) (traced : s.Traced log) (idle : s.functors = none)
    (orderly : s.Orderly (.command line input)) (obeys : s.Obeys line input next) :
    next.Ready := by
  cases obeys with
  | chats state text => exact ready.same rfl rfl rfl rfl rfl rfl
  | passive _ asked =>
    intro owed
    have owing : s.owing = true := by
      unfold FtpSession.cmdPasv at owed
      split at owed <;> exact owed
    obtain ⟨up, active⟩ := of_decide_eq_true owing
    exact absurd ((orderly up).2 (.inl asked)) active
  | lists longNames _ begins starts =>
    exact traced.begins idle orderly begins starts rfl rfl rfl rfl rfl
  | retrieves arg _ begins starts =>
    exact traced.begins idle orderly begins starts rfl rfl rfl rfl rfl
  | quits =>
    intro owed
    have left : s.cmdQuit.ctrlConn ≠ .KConnected := by
      by_cases up : s.ctrlConn = .KConnected <;> simp [FtpSession.cmdQuit, ctrlShutdown, reply, up]
    exact absurd (of_decide_eq_true owed).1 left

theorem Ready.accepts {server : Nat} (ready : s.Ready)
    (orderly : s.Orderly (.accept server input)) (accepts : s.Accepts server input next) :
    next.Ready := by
  have added : (s.addConnection server).callbacks = s.callbacks ++ [false] := by
    simp [callbacks, addConnection, DataConnection.new]
  cases accepts with
  | extra taken =>
    have same : ((s.addConnection server).forceClose s.connections.length).callbacks =
        (s.addConnection server).callbacks :=
      map_modify_same _ (fun c => by unfold DataConnection.forceClose; split <;> rfl) _ _
    have queue : ((s.addConnection server).forceClose s.connections.length).queued =
        s.queued ++ [.forceCloseInLoop s.connections.length] := by
      simp [queued, FtpSession.forceClose, addConnection, isOpen, DataConnection.new,
        DataConnection.Open]
    refine ready.kept rfl ⟨_, same.trans added⟩ queue rfl id
      (fun _ functor member => ?_) fun _ member => .inl member
    cases List.mem_singleton.mp member
    rw [Callable, same, added, callbacks]
    simp
  | first free starts =>
    have taken : ((s.addConnection server).takeConnection s.connections.length).Ready := by
      refine ready.kept rfl ⟨[true], ?_⟩ (List.append_nil _).symm rfl (fun _ => rfl)
        (fun _ _ member => absurd member List.not_mem_nil) fun _ member => .inl member
      have modified := modify_snoc s.connections (DataConnection.new server)
        fun c => c.setWriteCompleteCallback true
      exact (congrArg (List.map DataConnection.writeCompleteCallback) modified).trans
        List.map_append
    exact taken.starts (fun up _ active => orderly up free active) starts

theorem Ready.drain (ready : s.Ready) {id count : Nat} {c : DataConnection}
    (found : s.connections[id]? = some c) : (s.drain id count c).Ready := by
  have callback := (handleWrite_spec c count).2.2.2.1
  have same : (s.drain id count c).callbacks = s.callbacks := map_set_same _ found callback
  refine ready.kept rfl ⟨[], by simp [same]⟩ (drain_queued s id count c) rfl (fun taken => taken)
    (fun _ functor member => ?_) fun _ member => .inl member
  split at member
  case isTrue notified =>
    cases List.mem_singleton.mp member
    have installed : c.writeCompleteCallback = true := by
      unfold DataConnection.handleWrite at notified
      split at notified
      · exact (Bool.and_eq_true_iff.mp notified).2
      · cases notified
    refine ⟨true, ?_, .inr rfl⟩
    rw [same, callbacks, List.getElem?_map, found]
    exact congrArg some installed
  · cases member

theorem Ready.finishTask (ready : s.Ready) {index : Nat} {task : DiskTask}
    (found : s.tasks[index]? = some task) (result : DiskResult) :
    (s.finishTask index (task.chunk result)).Ready := by
  refine ready.kept rfl ⟨[], (List.append_nil _).symm⟩ (List.append_assoc ..).symm rfl id
    (fun owed functor member => ?_) fun _ member => .inl (List.mem_of_mem_eraseIdx member)
  cases List.mem_singleton.mp member
  intro current
  rw [chunk_gen] at current
  exact (ready owed).2 task (List.mem_of_getElem? found) current

theorem Ready.pasvTimeout (ready : s.Ready) (timer : Nat) : (s.pasvTimeout timer).Ready := by
  unfold FtpSession.pasvTimeout
  simp only
  split
  case isTrue unused => exact ready_of_cleared unused.2.1
  · exact ready.same rfl rfl rfl rfl rfl rfl

/-- What closes a data server is not called while an announcement is open. -/
theorem Ready.call (ready : s.Ready)
    (callable : s.owing = true → s.Callable functor) (done : s.call functor input = some next) :
    next.Ready := by
  cases functor with
  | closeDataServer cause =>
    cases done
    exact fun owed => (callable owed).elim
  | deleteServer server =>
    intro owed
    have before : s.owing = true := by
      refine destroyConnections_keeps (s := s.unlisten server)
        (fun middle => middle.owing = true → s.owing = true) ?_ id done owed
      intro middle id c _ _ _ _ owing
      exact absurd (lose_clears middle id server).xfer (of_decide_eq_true owing).2
    exact (callable before).elim
  | sendChunkReady chunk => exact ready.delivers (sendChunkReady_inv done)
  | writeComplete id bound => exact ready.requests (writeComplete_inv done)
  | forceCloseInLoop id =>
    rcases forceCloseInLoop_inv done with rfl | ⟨c, _, _, rfl⟩
    · exact ready
    · exact ready_of_cleared (lose_clears s id c.server).xfer

/-- Every step keeps what is queued callable. -/
theorem step_ready (ready : s.Ready) (traced : s.Traced log)
    (enabled : s.Enabled label) (orderly : s.Orderly label) (done : s.step label = some next) :
    next.Ready := by
  cases label with
  | command line input => exact ready.obeys traced enabled.1 orderly (handleCommand_inv done)
  | accept server input => exact ready.accepts orderly (accept_inv done)
  | dataClosed id =>
    obtain ⟨c, _, _, rfl⟩ := handleClose_inv done
    exact ready_of_cleared (lose_clears s id c.server).xfer
  | dataWritable id count =>
    obtain ⟨c, found, rfl⟩ := handleWrite_inv done
    exact ready.drain found
  | timeout timer =>
    cases done
    exact ready.pasvTimeout timer
  | ctrlForceClose =>
    cases done
    intro owed
    by_cases down : s.ctrlConn = .KDisconnected <;> simp [owing, ctrlForceClose, down] at owed
  | ctrlClosed =>
    cases done
    simp [Ready, owing, ctrlClose]
  | taskDone index result =>
    obtain ⟨task, found, rfl⟩ := taskDone_inv done
    exact ready.finishTask found result
  | beginFunctors =>
    cases done
    have idle : s.functors = none := enabled
    exact ready.same rfl rfl (by simp [queued, beginFunctors, idle]) rfl rfl rfl
  | runFunctor input =>
    obtain ⟨functor, rest, running, called⟩ := runFunctor_inv done enabled.1
    have queue := queued_remaining running
    have remaining : (s.remaining rest).Ready := fun owed =>
      ⟨fun other member => (ready owed).1 other (queue ▸ List.mem_cons_of_mem _ member),
        (ready owed).2⟩
    exact remaining.call (fun owed => (ready owed).1 functor (queue ▸ List.mem_cons_self)) called
  | endFunctors =>
    cases done
    have empty : s.functors = some [] := enabled
    exact ready.same rfl rfl (by simp [queued, endFunctors, empty]) rfl rfl rfl

/-! ### Success -/

theorem requestNextChunk_succeeds
    (opened : s.connected = true → s.xfer = .kList → s.xferDir.isSome = true) (input : FtpInput) :
    (s.requestNextChunk input).isSome = true := by
  unfold requestNextChunk
  by_cases up : s.connected = true
  · rw [if_neg (by simp [up])]
    cases transfer : s.xfer with
    | kNone | kRetr => rfl
    | kList =>
      obtain ⟨dir, found⟩ := Option.isSome_iff_exists.mp (opened up transfer)
      simp only [requestNames, found]
      split
      · simp [sendChunkReady, transfer, finish, connected_taken up]
      · rfl
  · rw [if_pos (by simpa using up)]
    rfl

/-- Whatever is found, a transfer can be tried: a file or a directory that could not be opened is
reported. -/
theorem tryStartTransfer_succeeds (s : FtpSession) (input : FtpInput) :
    (s.tryStartTransfer input).isSome = true := by
  unfold tryStartTransfer
  split
  · rfl
  · split
    · rfl
    case isFalse opened =>
      refine requestNextChunk_succeeds (fun _ list => ?_) input
      have directory : s.xfer = .kList := list
      simpa [openHandle, directory] using Option.isSome_iff_ne_none.mpr opened

/-- No command fails. -/
theorem handleCommand_succeeds (s : FtpSession) (line : List UInt8) (input : FtpInput) :
    (s.handleCommand line input).isSome = true := by
  unfold handleCommand execute
  split
  case h_7 | h_8 =>
    -- A listing or a file: the transfer is tried if nothing speaks against it.
    simp only [requireLogin, cmdList, cmdRetr]
    split_ifs
    all_goals first
      | rfl
      | exact tryStartTransfer_succeeds _ _
  all_goals first
    | rfl
    | simp only [requireLogin]
      split_ifs <;> rfl

/-- A step that finds an announcement open does not fail. -/
def Persists (s : FtpSession) (label : Label) : Prop :=
  s.owing = true → (s.step label).isSome = true

instance (s : FtpSession) (label : Label) : Decidable (s.Persists label) := instDecidableForall

/-- The directory of a listing is open as long as its data connection is up. -/
theorem Traced.listed (traced : s.Traced log) (up : s.connected = true)
    (list : s.xfer = .kList) : s.xferDir.isSome = true := by
  obtain ⟨handle, held, _⟩ := traced.ready up (by simp [list])
  simp only [FtpSession.handle, list, Option.map_eq_some_iff] at held
  obtain ⟨dir, found, _⟩ := held
  exact Option.isSome_iff_exists.mpr ⟨dir, found⟩

/-- A functor that can be called does not fail during a transfer. -/
theorem call_succeeds (listed : s.connected = true → s.xfer = .kList → s.xferDir.isSome = true)
    (active : s.xfer ≠ .kNone) (callable : s.Callable functor) (input : FtpInput) :
    (s.call functor input).isSome = true := by
  cases functor with
  | closeDataServer | deleteServer => exact callable.elim
  | sendChunkReady chunk =>
    by_cases current : chunk.gen = s.xferGen
    · have taken := callable current
      simp only [call, sendChunkReady, finish, sendData, taken]
      split_ifs <;> rfl
    · simp [call, sendChunkReady, current]
  | writeComplete id bound =>
    obtain ⟨installed, found, able⟩ := callable
    rw [callbacks, List.getElem?_map, Option.map_eq_some_iff] at found
    obtain ⟨c, there, same⟩ := found
    rw [← same] at able
    have requests : s.call (.writeComplete id bound) input = s.requestNextChunk input := by
      simp [call, writeComplete, there, able, FtpSession.writeCompleteCallback, active]
    rw [requests]
    exact requestNextChunk_succeeds listed input
  | forceCloseInLoop id =>
    have within : id < s.connections.length := by simpa [Callable, callbacks] using callable
    simp only [call, forceCloseInLoop, handleClose, List.getElem?_eq_getElem within,
      Option.bind_eq_bind, Option.bind_some]
    split
    case isTrue opened => simp [opened]
    · rfl

/-- No step fails while an announcement is open. -/
theorem step_succeeds (ready : s.Ready) (traced : s.Traced log)
    (enabled : s.Enabled label) : s.Persists label := by
  intro owed
  cases label with
  | command line input => exact handleCommand_succeeds s line input
  | accept server input =>
    simp only [step, accept, handleDataUp]
    split
    · rfl
    · exact tryStartTransfer_succeeds _ _
  | dataClosed id =>
    obtain ⟨c, found, opened⟩ : ∃ c, s.connections[id]? = some c ∧ c.Open := by
      simpa [isOpen, Option.any_eq_true] using enabled.2.2
    simp [step, handleClose, found, opened]
  | dataWritable id count =>
    obtain ⟨_, _, c, found, _⟩ := enabled
    rw [Option.mem_def] at found
    simp [step, handleWrite, found]
  | taskDone index result =>
    obtain ⟨task, found, _⟩ := enabled
    rw [Option.mem_def] at found
    simp [step, taskDone, found]
  | runFunctor input =>
    obtain ⟨⟨batch, found, left⟩, _⟩ := enabled
    obtain ⟨functor, rest, rfl⟩ := List.exists_cons_of_ne_nil left
    have callable := (ready owed).1 functor (queued_remaining found ▸ List.mem_cons_self)
    simp only [step, runFunctor, Option.mem_def.mp found]
    exact call_succeeds (s := s.remaining rest) traced.listed (of_decide_eq_true owed).2 callable
      input
  | timeout | ctrlForceClose | ctrlClosed | beginFunctors | endFunctors => rfl

end Steps

/-- In every run whose steps all meet the condition, no step fails while an announcement is open,
announcements and completions alternate, and an announcement is open exactly while the session has
a transfer and a control connection.

Proof: every function of the session sends no reply of either kind, or announces a transfer that
it begins, or completes a transfer that it clears. What could fail is called only when there is no
transfer: a transfer begins with an empty queue, and what it queues itself finds the data
connection that it was queued for. -/
theorem replies_answered (labels : List Label) (valid : system.Valid initial labels)
    (orderly : system.Along Orderly initial labels) :
    system.Along Persists initial labels ∧
      ∀ final, system.run initial labels = some final → final.Answered := by
  have along := (System.along_and _ _ _ _).mpr ⟨valid, orderly⟩
  have kept (s : FtpSession) (label : Label) (next : FtpSession)
      (holds : s.Answered ∧ s.Ready ∧ ∃ log, s.Traced log)
      (admitted : s.Enabled label ∧ s.Orderly label) (done : s.step label = some next) :
      next.Answered ∧ next.Ready ∧ ∃ log, next.Traced log := by
    obtain ⟨answered, ready, log, traced⟩ := holds
    obtain ⟨enabled, condition⟩ := admitted
    exact ⟨step_answered answered enabled condition done,
      step_ready ready traced enabled condition done, _,
      traced.recorded (step_recorded enabled done)⟩
  have start : initial.Answered ∧ initial.Ready ∧ ∃ log, initial.Traced log :=
    ⟨rfl, ready_of_cleared rfl, [], initial_traced⟩
  refine ⟨System.along_invariant _ kept ?_ initial labels start along, fun final finished => ?_⟩
  · rintro s label ⟨_, ready, _, traced⟩ admitted
    exact step_succeeds ready traced admitted.1
  · exact (System.run_invariant _ kept initial final labels start along finished).1

/-! ## Runs that answer a transfer once, twice, and never -/

/-- A file of three bytes is read, sent at once, and read to its end. Then the peer closes the
connection. -/
def retrieved : List Label :=
  sendingFile 9
    [.taskDone 0 (.read [1, 2, 3]), .beginFunctors, .runFunctor { nwrote := 3 }, .endFunctors,
      .beginFunctors, .runFunctor {}, .endFunctors, .taskDone 0 (.read []), .beginFunctors,
      .runFunctor {}, .endFunctors, .dataClosed 0]

/-- The transfer is announced and completed. -/
theorem replies_answered_retrieved : ∃ final, system.run initial retrieved = some final ∧
      system.Along Persists initial retrieved ∧ final.Answered ∧
      final.replies.getLast? = some .transferComplete :=
  have ⟨persists, answered⟩ := replies_answered retrieved (by decide) (by decide)
  ⟨_, rfl, persists, answered _ rfl, rfl⟩

/-- The file cannot be opened. The session says so, and closes the connection. -/
def unopened : List Label :=
  listened
    [commandLine ['R', 'E', 'T', 'R', ' ', 'f'] {}, .accept 0 {}, .beginFunctors, .runFunctor {}]

/-- Two listings are asked for before there is a data connection. -/
def listedTwice : List Label :=
  listened [commandLine ['L', 'I', 'S', 'T'] {}, commandLine ['N', 'L', 'S', 'T'] {}]

/-- The user leaves while the listing of an empty directory is being sent. -/
def leftEarly : List Label :=
  listened
    [commandLine ['L', 'I', 'S', 'T'] {}, .accept 0 { opened := some 9 },
      commandLine ['Q', 'U', 'I', 'T'] {}, .beginFunctors, .endFunctors, .dataClosed 0]

/-- The user asks for a new listener when the end of the file has been read. -/
def replacedEarly : List Label :=
  sendingFile 9
    [.taskDone 0 (.read []), commandLine ['P', 'A', 'S', 'V'] {}, .beginFunctors, .runFunctor {}]

/-- A file that cannot be opened is completed with 550 and again with 426. A second listing is
announced before the first one is completed. The listing that the user did not wait for is
over and was not completed. And the session whose listener is replaced fails while the
announcement of the file is open. -/
theorem transfer_answered_wrongly :
    (system.Valid initial unopened ∧ ∃ final, system.run initial unopened = some final ∧
      final.replies.drop 4 = [.openingBinary, .failedToOpen, .transferAborted] ∧
      ¬ final.Answered) ∧
    (system.Valid initial listedTwice ∧ ∃ final, system.run initial listedTwice = some final ∧
      final.replies.drop 4 = [.directoryListing, .directoryListing] ∧ ¬ final.Answered) ∧
    (system.Valid initial leftEarly ∧ ∃ final, system.run initial leftEarly = some final ∧
      final.replies.drop 4 = [.directoryListing, .bye] ∧ final.xfer = .kNone ∧
      ¬ final.Answered) ∧
    system.Valid initial replacedEarly ∧ ¬ system.Along Persists initial replacedEarly :=
  ⟨⟨by decide, _, rfl, rfl, by decide⟩, ⟨by decide, _, rfl, rfl, by decide⟩,
    ⟨by decide, _, rfl, rfl, rfl, by decide⟩, by decide, by decide⟩

end FtpSession

end Moban
