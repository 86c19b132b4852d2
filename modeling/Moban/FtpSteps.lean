import Moban.FtpSession
import Moban.Tables

/-!
# What the steps of an FTP session can do

Every function of the session that can take more than one way is described once, by the ways
it can take and what it has found on each of them. Invariants of the session are derived from
these descriptions and not from the functions.
-/

namespace Moban

namespace FtpSession

variable {s next : FtpSession} {input : FtpInput}

/-! ## The pump -/

/-- A read of the next part of the file was submitted. -/
def reading (s : FtpSession) : FtpSession :=
  { s with
    nextReadOffset := s.nextReadOffset + kReadChunkSize
    tasks := s.tasks ++ [{ gen := s.xferGen, work := .pread s.xferFd s.nextReadOffset }] }

/-- The next names of the directory were submitted. -/
def listing (s : FtpSession) (names : List (List UInt8)) : FtpSession :=
  { s with tasks := s.tasks ++ [{ gen := s.xferGen, work := .stat names s.longNameList }] }

/-- What `requestNextChunk` can do. -/
inductive Requests (s : FtpSession) (input : FtpInput) : FtpSession → Prop where
  | idle (inactive : s.connected = false ∨ s.xfer = .kNone) : Requests s input s
  | reads (connected : s.connected = true) (retr : s.xfer = .kRetr) : Requests s input s.reading
  | lists (connected : s.connected = true) (list : s.xfer = .kList)
      (opened : s.xferDir.isSome = true) (nonempty : input.names ≠ []) :
      Requests s input (s.listing input.names)
  | ends (connected : s.connected = true) (list : s.xfer = .kList)
      (opened : s.xferDir.isSome = true) : Requests s input s.finished
  | rejected (connected : s.connected = true) (active : s.xfer ≠ .kNone)
      (full : input.submitted = false) : Requests s input s.transferRejected

/-- A connected data connection was taken and is established. -/
theorem connected_inv (up : s.connected = true) :
    ∃ id c, s.dataConn = some id ∧ s.connections[id]? = some c ∧ c.state = .KConnected := by
  unfold FtpSession.connected conn? at up
  cases taken : s.dataConn with
  | none => simp [taken] at up
  | some id =>
    simp only [taken, Option.bind_some, Option.any_eq_true] at up
    obtain ⟨c, found, established⟩ := up
    exact ⟨id, c, rfl, found, by simpa [DataConnection.connected] using established⟩

theorem connected_intro {id : Nat} {c : DataConnection} (taken : s.dataConn = some id)
    (found : s.connections[id]? = some c) (established : c.state = .KConnected) :
    s.connected = true := by
  simp [FtpSession.connected, conn?, taken, found, DataConnection.connected, established]

/-- The output ends on a data connection. -/
theorem finish_inv (done : s.finish = some next) :
    s.dataConn.isSome = true ∧ next = s.finished := by
  unfold finish at done
  split at done
  · exact ⟨‹_›, (Option.some.inj done).symm⟩
  · cases done

/-- What the pump may do next. -/
theorem requestNextChunk_inv (done : s.requestNextChunk input = some next) :
    s.Requests input next := by
  unfold requestNextChunk at done
  split at done
  case isTrue down =>
    cases done
    exact .idle (.inl (by simpa using down))
  case isFalse up =>
    have connected : s.connected = true := by simpa using up
    split at done
    case h_1 unconnected =>
      cases done
      exact .idle (.inr unconnected)
    case h_2 retr =>
      cases done
      unfold requestRead submit
      split
      · exact .reads connected retr
      case isFalse full => exact .rejected connected (by simp [retr]) (by simpa using full)
    case h_3 list =>
      unfold requestNames at done
      split at done
      · cases done
      case h_2 dir found =>
        have opened : s.xferDir.isSome = true := by simp [found]
        split at done
        · simp [sendChunkReady, list] at done
          obtain ⟨_, rfl⟩ := finish_inv done
          exact .ends connected list opened
        case isFalse named =>
          cases done
          unfold submit
          split
          · exact .lists connected list opened named
          case isFalse full => exact .rejected connected (by simp [list]) (by simpa using full)

/-- What `sendChunkReady` can do. -/
inductive Delivers (s : FtpSession) (chunk : Chunk) (input : FtpInput) : FtpSession → Prop where
  | stale (old : chunk.gen ≠ s.xferGen ∨ s.xfer = .kNone) : Delivers s chunk input s
  | fails (current : chunk.gen = s.xferGen) (active : s.xfer ≠ .kNone)
      (error : chunk.ioError = true) :
      Delivers s chunk input (s.giveUp (if s.xfer = .kRetr then .readError else .failedToList))
  | ends (current : chunk.gen = s.xferGen) (active : s.xfer ≠ .kNone)
      (sound : chunk.ioError = false) (empty : chunk.bytes = []) (atEof : chunk.atEof = true)
      (taken : s.dataConn.isSome = true) : Delivers s chunk input s.finished
  | dropped (current : chunk.gen = s.xferGen) (active : s.xfer ≠ .kNone)
      (sound : chunk.ioError = false) (down : s.connected = false) : Delivers s chunk input s
  | sends (current : chunk.gen = s.xferGen) (active : s.xfer ≠ .kNone)
      (sound : chunk.ioError = false) (connected : s.connected = true)
      (more : chunk.atEof = false) : Delivers s chunk input (s.sendData chunk.bytes input)
  | sendsLast (current : chunk.gen = s.xferGen) (active : s.xfer ≠ .kNone)
      (sound : chunk.ioError = false) (connected : s.connected = true)
      (nonempty : chunk.bytes ≠ []) (atEof : chunk.atEof = true) :
      Delivers s chunk input (s.sendData chunk.bytes input).finished

/-- What may become of a chunk. -/
theorem sendChunkReady_inv {chunk : Chunk} (done : s.sendChunkReady chunk input = some next) :
    s.Delivers chunk input next := by
  unfold sendChunkReady at done
  split at done
  case isTrue old =>
    cases done
    exact .stale old
  case isFalse fresh =>
    obtain ⟨current, active⟩ : chunk.gen = s.xferGen ∧ s.xfer ≠ .kNone := by
      simpa [not_or] using fresh
    split at done
    case isTrue error =>
      cases done
      exact .fails current active error
    case isFalse good =>
      have sound : chunk.ioError = false := by simpa using good
      split at done
      case isTrue last =>
        obtain ⟨taken, rfl⟩ := finish_inv done
        exact .ends current active sound last.1 last.2 taken
      case isFalse notLast =>
        split at done
        case isTrue down =>
          cases done
          exact .dropped current active sound (by simpa using down)
        case isFalse up =>
          have connected : s.connected = true := by simpa using up
          split at done
          case isTrue atEof =>
            obtain ⟨_, rfl⟩ := finish_inv done
            exact .sendsLast current active sound connected (fun empty => notLast ⟨empty, atEof⟩)
              atEof
          case isFalse more =>
            cases done
            exact .sends current active sound connected (by simpa using more)

/-- What `tryStartTransfer` can do. -/
inductive Starts (s : FtpSession) (input : FtpInput) : FtpSession → Prop where
  | waits (inactive : s.connected = false ∨ s.xfer = .kNone) : Starts s input s
  | refused (connected : s.connected = true) (active : s.xfer ≠ .kNone)
      (failed : input.opened = none) : Starts s input (s.openHandle input).refuse
  | pumps {next : FtpSession} (connected : s.connected = true) (active : s.xfer ≠ .kNone)
      (opened : input.opened ≠ none) (requests : (s.openHandle input).Requests input next) :
      Starts s input next

/-- What the start of a transfer may lead to. -/
theorem tryStartTransfer_inv (done : s.tryStartTransfer input = some next) :
    s.Starts input next := by
  unfold tryStartTransfer at done
  split at done
  case isTrue inactive =>
    cases done
    exact .waits (by simpa using inactive)
  case isFalse ready =>
    obtain ⟨connected, active⟩ : s.connected = true ∧ s.xfer ≠ .kNone := by
      simpa [not_or] using ready
    split at done
    case isTrue failed =>
      cases done
      exact .refused connected active failed
    case isFalse opened => exact .pumps connected active opened (requestNextChunk_inv done)

end FtpSession

/-! ## Replies and commands -/

theorem FtpSession.reply_mem {s : FtpSession} {text told : Reply}
    (member : told ∈ (s.reply text).replies) : told = text ∨ told ∈ s.replies := by
  unfold FtpSession.reply at member
  simp only at member
  split at member
  · rcases List.mem_append.mp member with before | new
    · exact .inr before
    · exact .inl (List.mem_singleton.mp new)
  · exact .inr member

/-- The command begins a transfer, if the user may begin one. -/
def FtpCommand.Begins (input : FtpInput) : FtpCommand → Prop
  | .list _ => True
  | .retr arg => arg ≠ [] ∧ ¬ FtpSession.InvalidPath arg ∧ input.regular = true
  | _ => False

instance (input : FtpInput) : DecidablePred (FtpCommand.Begins input)
  | .list _ => instDecidableTrue
  | .retr _ => instDecidableAnd
  | .user | .pass | .syst | .pwd | .type | .pasv | .quit | .unknown => instDecidableFalse

namespace FtpSession

/-- The line is accepted as the beginning of a transfer. -/
def Begins (s : FtpSession) (line : List UInt8) (input : FtpInput) : Prop :=
  s.state = .kLoggedIn ∧ s.dataServer ≠ none ∧ (FtpCommand.parse line).Begins input

instance (s : FtpSession) (line : List UInt8) (input : FtpInput) :
    Decidable (s.Begins line input) := instDecidableAnd

end FtpSession

/-- The reply announces a transfer. -/
def Reply.opens : Reply → Bool
  | .directoryListing | .openingBinary => true
  | _ => false

/-- The reply completes a transfer that was announced. -/
def Reply.completes : Reply → Bool
  | .failedToOpen | .failedToList | .readError | .localError | .transferAborted | .listComplete
  | .transferComplete => true
  | _ => false

variable {server : Nat}

namespace FtpSession

variable {s next : FtpSession} {input : FtpInput}

/-- What a command can do. -/
inductive Obeys (s : FtpSession) (line : List UInt8) (input : FtpInput) : FtpSession → Prop where
  | chats (state : LoginState) (text : Reply) (silent : text.opens = false)
      (plain : text.completes = false) :
      Obeys s line input ({ s with state := state }.reply text)
  | passive (loggedIn : s.state = .kLoggedIn) (asked : FtpCommand.parse line = .pasv) :
      Obeys s line input (s.cmdPasv input)
  | lists {next : FtpSession} (longNames : Bool) (asked : FtpCommand.parse line = .list longNames)
      (begins : s.Begins line input)
      (starts : ((s.beginList longNames).cancel.reply .directoryListing).Starts input next) :
      Obeys s line input next
  | retrieves {next : FtpSession} (arg : List UInt8) (asked : FtpCommand.parse line = .retr arg)
      (begins : s.Begins line input)
      (starts : ((s.beginRetr ([46, 47] ++ arg)).cancel.reply .openingBinary).Starts input next) :
      Obeys s line input next
  | quits (asked : FtpCommand.parse line = .quit) : Obeys s line input s.cmdQuit

theorem Obeys.tells {line : List UInt8} (text : Reply) (silent : text.opens = false)
    (plain : text.completes = false) : s.Obeys line input (s.reply text) :=
  .chats s.state text silent plain

/-- A command is obeyed after a login, or answered by a request for one. -/
theorem requireLogin_inv {action : FtpSession → Option FtpSession}
    (done : s.requireLogin action = some next) :
    (s.state = .kLoggedIn ∧ action s = some next) ∨ next = s.reply .pleaseLogin := by
  unfold requireLogin at done
  split at done
  · exact .inl ⟨‹_›, done⟩
  · exact .inr (Option.some.inj done).symm

/-- What a command may do.

Proof: one case for each command. -/
theorem handleCommand_inv {line : List UInt8} (done : s.handleCommand line input = some next) :
    s.Obeys line input next := by
  unfold handleCommand execute at done
  split at done
  · cases done
    exact .chats .kNeedPass .passwordRequired rfl rfl
  · cases done
    unfold cmdPass
    split
    · exact .tells .loginFirst rfl rfl
    · exact .chats .kLoggedIn .loginSuccessful rfl rfl
  · cases done
    exact .tells .system rfl rfl
  · rcases requireLogin_inv done with ⟨_, made⟩ | rfl
    · cases made
      exact .tells .currentDirectory rfl rfl
    · exact .tells .pleaseLogin rfl rfl
  · rcases requireLogin_inv done with ⟨_, made⟩ | rfl
    · cases made
      exact .tells .typeSet rfl rfl
    · exact .tells .pleaseLogin rfl rfl
  case h_6 asked =>
    rcases requireLogin_inv done with ⟨loggedIn, made⟩ | rfl
    · cases made
      exact .passive loggedIn asked
    · exact .tells .pleaseLogin rfl rfl
  case h_7 longNames asked =>
    rcases requireLogin_inv done with ⟨loggedIn, made⟩ | rfl
    · unfold cmdList at made
      split at made
      · cases made
        exact .tells .usePasvFirst rfl rfl
      case isFalse listening =>
        exact .lists longNames asked ⟨loggedIn, listening, by simp [asked, FtpCommand.Begins]⟩
          (tryStartTransfer_inv made)
    · exact .tells .pleaseLogin rfl rfl
  case h_8 arg asked =>
    rcases requireLogin_inv done with ⟨loggedIn, made⟩ | rfl
    · unfold cmdRetr at made
      split at made
      · cases made
        exact .tells .usePasvFirst rfl rfl
      case isFalse listening =>
        split at made
        · cases made
          exact .tells .noFileName rfl rfl
        case isFalse named =>
          split at made
          · cases made
            exact .tells .invalidPath rfl rfl
          case isFalse valid =>
            split at made
            · cases made
              exact .tells .noSuchFile rfl rfl
            case isFalse regular =>
              exact .retrieves arg asked ⟨loggedIn, listening, by
                simp [asked, FtpCommand.Begins, named, valid, regular]⟩
                (tryStartTransfer_inv made)
    · exact .tells .pleaseLogin rfl rfl
  case h_9 asked =>
    cases done
    exact .quits asked
  · cases done
    exact .tells .notImplemented rfl rfl

/-! ## Data connections -/

/-- What an accepted connection can bring about. -/
inductive Accepts (s : FtpSession) (server : Nat) (input : FtpInput) : FtpSession → Prop where
  | extra (taken : s.dataConn.isSome = true) :
      Accepts s server input ((s.addConnection server).forceClose s.connections.length)
  | first {next : FtpSession} (free : s.dataConn = none)
      (starts : ((s.addConnection server).takeConnection s.connections.length).Starts input next) :
      Accepts s server input next

/-- What may become of a new connection. -/
theorem accept_inv (done : s.accept server input = some next) : s.Accepts server input next := by
  unfold accept handleDataUp at done
  split at done
  case isTrue taken =>
    cases done
    exact .extra taken
  case isFalse free =>
    exact .first (by simpa [addConnection] using free) (tryStartTransfer_inv done)

/-- What the loss of a connection can mean for the transfer. -/
theorem endTransfer_cases (s : FtpSession) : (s.xfer ≠ .kNone ∧ s.xferDone = false ∧
      s.endTransfer = s.abortTransfer.reply .transferAborted) ∨
    ((s.xfer = .kNone ∨ s.xferDone = true) ∧ s.endTransfer = s.sendDataEndReply) := by
  by_cases running : s.xfer ≠ .kNone ∧ s.xferDone = false
  · exact .inl ⟨running.1, running.2, if_pos running⟩
  · refine .inr ⟨?_, if_neg running⟩
    by_cases ended : s.xfer = .kNone
    · exact .inl ended
    · exact .inr (by simpa [ended] using running)

/-- Only an open connection is closed, and it is lost. -/
theorem handleClose_inv {id : Nat} (done : s.handleClose id = some next) :
    ∃ c, s.connections[id]? = some c ∧ c.Open ∧ next = s.lose id c.server := by
  obtain ⟨c, found, rest⟩ := Option.bind_eq_some_iff.mp done
  obtain ⟨_, opened, made⟩ := Option.bind_eq_some_iff.mp rest
  cases made
  exact ⟨c, found, (Option.guard_eq_some' _).mp opened, rfl⟩

/-- A connection closed in the meantime is not lost again. -/
theorem forceCloseInLoop_inv {id : Nat} (done : s.forceCloseInLoop id = some next) :
    next = s ∨ ∃ c, s.connections[id]? = some c ∧ c.Open ∧ next = s.lose id c.server := by
  obtain ⟨c, found, rest⟩ := Option.bind_eq_some_iff.mp done
  split at rest
  · exact .inr (handleClose_inv rest)
  · cases rest
    exact .inl rfl

/-- The rule for the destructor of a server: what every teardown of an established connection
keeps is kept.

Proof: induction over the connections. -/
theorem destroyConnections_keeps (Kept : FtpSession → Prop) {ids : List Nat}
    (down : ∀ s id c, Kept s → s.connections[id]? = some c → c.server = server →
      c.state = .KConnected → Kept (s.lose id server))
    (kept : Kept s) (done : s.destroyConnections server ids = some next) : Kept next := by
  induction ids generalizing s with
  | nil =>
    cases done
    exact kept
  | cons id rest ih =>
    obtain ⟨c, found, made⟩ := Option.bind_eq_some_iff.mp done
    split at made
    · exact ih kept made
    case isFalse concerned =>
      split at made
      case isTrue established =>
        have owned : c.server = server := by
          by_contra other
          exact concerned (.inl other)
        exact ih (down s id c kept found owned established) made
      · cases made

/-- A notification does nothing but pump. -/
theorem writeComplete_inv {id : Nat} {bound : Bool}
    (done : s.writeComplete id bound input = some next) : s.Requests input next := by
  obtain ⟨c, _, rest⟩ := Option.bind_eq_some_iff.mp done
  obtain ⟨_, _, made⟩ := Option.bind_eq_some_iff.mp rest
  unfold writeCompleteCallback at made
  split at made
  · exact requestNextChunk_inv made
  case isFalse idle =>
    cases made
    exact .idle (.inr (by simpa using idle))

/-- Writability only drains the connection. -/
theorem handleWrite_inv {id count : Nat} (done : s.handleWrite id count = some next) :
    ∃ c, s.connections[id]? = some c ∧ next = s.drain id count c := by
  obtain ⟨c, found, made⟩ := Option.bind_eq_some_iff.mp done
  cases made
  exact ⟨c, found, rfl⟩

/-- A chunk belongs to the transfer that its task was submitted for. -/
theorem chunk_gen (task : DiskTask) (result : DiskResult) : (task.chunk result).gen = task.gen := by
  unfold DiskTask.chunk
  split <;> rfl

/-- The result is handed over in a functor. -/
theorem taskDone_inv {index : Nat} {result : DiskResult}
    (done : s.taskDone index result = some next) :
    ∃ task, s.tasks[index]? = some task ∧
      next = s.finishTask index (task.chunk result) := by
  obtain ⟨task, found, made⟩ := Option.bind_eq_some_iff.mp done
  cases made
  exact ⟨task, found, rfl⟩

/-- The first functor of the batch is taken out and called. -/
theorem runFunctor_inv (done : s.runFunctor input = some next)
    (running : ∃ batch ∈ s.functors, batch ≠ []) :
    ∃ functor rest, s.functors = some (functor :: rest) ∧
      (s.remaining rest).call functor input = some next := by
  obtain ⟨batch, found, left⟩ := running
  cases batch with
  | nil => exact absurd rfl left
  | cons functor rest =>
    rw [Option.mem_def] at found
    rw [runFunctor, found] at done
    exact ⟨functor, rest, found, done⟩

/-! ## What ends a transfer -/

/-- The transfer is over, and the tasks under way are invalid. -/
structure Clears (s next : FtpSession) : Prop where
  xfer : next.xfer = .kNone
  xferDone : next.xferDone = false
  xferFd : next.xferFd = none
  xferDir : next.xferDir = none
  xferGen : next.xferGen = s.xferGen + 1
  dataConn : next.dataConn = s.dataConn
  dataServer : next.dataServer = s.dataServer

/-- Nothing is left of a transfer that is given up. -/
theorem giveUp_clears (s : FtpSession) (text : Reply) : s.Clears (s.giveUp text) :=
  ⟨rfl, rfl, rfl, rfl, rfl, rfl, rfl⟩

theorem sendDataEndReply_clears (s : FtpSession) : s.Clears s.sendDataEndReply := by
  unfold sendDataEndReply endReply
  split <;> exact ⟨rfl, rfl, rfl, rfl, rfl, rfl, rfl⟩

/-- Nothing is left of a transfer that has lost its connection. -/
theorem lose_clears (s : FtpSession) (id server : Nat) : s.Clears (s.lose id server) := by
  have ended : (s.onConnection id DataConnection.close).Clears
      (s.onConnection id DataConnection.close).endTransfer := by
    rcases (s.onConnection id DataConnection.close).endTransfer_cases with
      ⟨_, _, aborted⟩ | ⟨_, completed⟩
    · rw [aborted]
      exact ⟨rfl, rfl, rfl, rfl, rfl, rfl, rfl⟩
    · rw [completed]
      exact sendDataEndReply_clears _
  exact ⟨ended.xfer, ended.xferDone, ended.xferFd, ended.xferDir, ended.xferGen, ended.dataConn,
    ended.dataServer⟩

/-! ## What leaves the pump alone -/

end FtpSession

/-- The functor belongs to the pump. -/
def FtpFunctor.pumps : FtpFunctor → Bool
  | .sendChunkReady _ | .writeComplete _ _ => true
  | _ => false

namespace FtpSession

variable {s next : FtpSession} {input : FtpInput}

/-- The functors that are still to be called. -/
def queued (s : FtpSession) : List FtpFunctor := s.functors.getD [] ++ s.pendingFunctors

/-- The chunks that each connection was given, and the output that it keeps. -/
def traffic (s : FtpSession) : List (List (List UInt8) × List UInt8) :=
  s.connections.map fun c => (c.sent, c.output)

/-- Nothing that the pump works with has changed. -/
structure Spares (s next : FtpSession) : Prop where
  traffic : next.traffic = s.traffic
  tasks : next.tasks = s.tasks
  pumps : next.queued.filter FtpFunctor.pumps = s.queued.filter FtpFunctor.pumps
  transfers : next.transfers = s.transfers

theorem Spares.trans {middle : FtpSession} (first : s.Spares middle) (second : middle.Spares next) :
    s.Spares next :=
  ⟨second.traffic.trans first.traffic, second.tasks.trans first.tasks,
    second.pumps.trans first.pumps, second.transfers.trans first.transfers⟩

/-- The connections are as before, and functors were queued that are not of the pump. -/
theorem Spares.queues (more : List FtpFunctor) (traffic : next.traffic = s.traffic)
    (tasks : next.tasks = s.tasks) (transfers : next.transfers = s.transfers)
    (functors : next.functors = s.functors)
    (pending : next.pendingFunctors = s.pendingFunctors ++ more)
    (other : more.filter FtpFunctor.pumps = []) : s.Spares next := by
  refine ⟨traffic, tasks, ?_, transfers⟩
  rw [queued, functors, pending, ← List.append_assoc, List.filter_append, other, List.append_nil]
  rfl

/-- An operation on the data connection that a view does not see leaves the views of all
connections alone. -/
theorem map_onData {β : Type} (view : DataConnection → β)
    {operation : DataConnection → DataConnection} (same : ∀ c, view (operation c) = view c)
    (s : FtpSession) : (s.onData operation).connections.map view = s.connections.map view := by
  unfold onData
  simp only
  split
  · rfl
  · exact map_modify_same view same _ _

theorem shutdown_traffic (c : DataConnection) :
    (c.shutdown.sent, c.shutdown.output) = (c.sent, c.output) := by
  unfold DataConnection.shutdown
  split <;> rfl

theorem forceClose_traffic (c : DataConnection) :
    (c.forceClose.sent, c.forceClose.output) = (c.sent, c.output) := by
  unfold DataConnection.forceClose
  split <;> rfl

theorem reply_spares (s : FtpSession) (text : Reply) : s.Spares (s.reply text) :=
  ⟨rfl, rfl, rfl, rfl⟩

theorem abortTransfer_spares (s : FtpSession) : s.Spares s.abortTransfer :=
  ⟨map_onData _ (fun _ => by rfl) _, rfl, rfl, rfl⟩

theorem finished_spares (s : FtpSession) : s.Spares s.finished :=
  ⟨map_onData _ shutdown_traffic _, rfl, rfl, rfl⟩

theorem shutDownData_spares (s : FtpSession) : s.Spares s.shutDownData := by
  refine .queues (s.forceClosed ++ [.closeDataServer s.transferServer])
    (map_onData _ forceClose_traffic s) rfl rfl rfl ?_ ?_
  · exact List.append_assoc s.pendingFunctors s.forceClosed [.closeDataServer s.transferServer]
  unfold forceClosed
  split
  · rfl
  · split <;> rfl

theorem giveUp_spares (s : FtpSession) (text : Reply) : s.Spares (s.giveUp text) :=
  ((reply_spares s text).trans (abortTransfer_spares _)).trans (shutDownData_spares _)

theorem refuse_spares (s : FtpSession) : s.Spares s.refuse :=
  (reply_spares s _).trans (shutDownData_spares _)

theorem closeDataServer_spares (s : FtpSession) : s.Spares s.closeDataServer := by
  unfold closeDataServer
  split
  · exact ⟨rfl, rfl, rfl, rfl⟩
  · exact .queues _ rfl rfl rfl rfl rfl rfl

theorem forceClose_spares (s : FtpSession) (id : Nat) : s.Spares (s.forceClose id) := by
  unfold forceClose
  split
  · exact .queues _ (map_modify_same _ forceClose_traffic _ _) rfl rfl rfl rfl rfl
  · exact ⟨map_modify_same _ forceClose_traffic _ _, rfl, rfl, rfl⟩

theorem endTransfer_spares (s : FtpSession) : s.Spares s.endTransfer := by
  rcases s.endTransfer_cases with ⟨_, _, aborted⟩ | ⟨_, completed⟩
  · rw [aborted]
    exact (abortTransfer_spares s).trans (reply_spares _ _)
  · rw [completed, sendDataEndReply]
    have told : s.Spares s.endReply.cancel := by
      unfold endReply
      split
      · exact ⟨rfl, rfl, rfl, rfl⟩
      · exact ⟨rfl, rfl, rfl, rfl⟩
      · exact ⟨rfl, rfl, rfl, rfl⟩
    exact told.trans (abortTransfer_spares _)

theorem lose_spares (s : FtpSession) (id server : Nat) : s.Spares (s.lose id server) := by
  have closed : s.Spares (s.onConnection id DataConnection.close) :=
    ⟨map_modify_same _ (fun _ => by rfl) _ _, rfl, rfl, rfl⟩
  refine (closed.trans (endTransfer_spares _)).trans ?_
  exact .queues [.closeDataServer (some server)] rfl rfl rfl rfl rfl rfl

theorem cmdPasv_spares (s : FtpSession) (input : FtpInput) : s.Spares (s.cmdPasv input) := by
  unfold cmdPasv
  split
  · exact (closeDataServer_spares s).trans ⟨rfl, rfl, rfl, rfl⟩
  · exact ⟨rfl, rfl, rfl, rfl⟩

theorem beginFunctors_spares (idle : s.functors = none) : s.Spares s.beginFunctors :=
  ⟨rfl, rfl, by simp [queued, beginFunctors, idle], rfl⟩

theorem endFunctors_spares (empty : s.functors = some []) : s.Spares s.endFunctors :=
  ⟨rfl, rfl, by simp [queued, endFunctors, empty], rfl⟩

theorem deleteServer_spares (done : s.deleteServer server = some next) : s.Spares next := by
  have deaf : s.Spares (s.unlisten server) := ⟨rfl, rfl, rfl, rfl⟩
  refine destroyConnections_keeps (s.Spares ·) ?_ deaf done
  intro middle id c spares _ _ _
  exact spares.trans (lose_spares middle id server)

theorem remaining_spares {functor : FtpFunctor} {rest : List FtpFunctor}
    (running : s.functors = some (functor :: rest)) (other : functor.pumps = false) :
    s.Spares (s.remaining rest) :=
  ⟨rfl, rfl, by simp [queued, remaining, running, other], rfl⟩

theorem queued_remaining {functor : FtpFunctor} {rest : List FtpFunctor}
    (running : s.functors = some (functor :: rest)) :
    s.queued = functor :: (s.remaining rest).queued := by
  simp [queued, remaining, running]

/-! ## What takes the data connection down -/

/-- An operation that never connects does not connect the session either. -/
theorem connected_onData {operation : DataConnection → DataConnection}
    (falls : ∀ c, (operation c).connected = true → c.connected = true)
    (up : (s.onData operation).connected = true) : s.connected = true := by
  unfold FtpSession.connected conn? onData at *
  cases taken : s.dataConn with
  | none => simp [taken] at up
  | some id =>
    simp only [taken, Option.bind_some, List.getElem?_modify, if_true] at up ⊢
    cases found : s.connections[id]? with
    | none => simp [found] at up
    | some c => exact falls c (by simpa [found] using up)

theorem shutdown_falls (c : DataConnection) (up : c.shutdown.connected = true) :
    c.connected = true := by
  unfold DataConnection.shutdown at up
  split at up
  · cases up
  · exact up

theorem forceClose_falls (c : DataConnection) (up : c.forceClose.connected = true) :
    c.connected = true := by
  unfold DataConnection.forceClose at up
  split at up
  · cases up
  · exact up

/-- The connections after a new one was taken as the data connection. -/
theorem taken_getElem? (s : FtpSession) (server id : Nat) :
    ((s.addConnection server).takeConnection s.connections.length).connections[id]? =
      if id = s.connections.length then
        some ((DataConnection.new server).setWriteCompleteCallback true)
      else s.connections[id]? :=
  getElem?_snoc_modify _ _ _ _

/-- The connections after a new one was rejected. -/
theorem extra_getElem? (s : FtpSession) (server id : Nat) :
    ((s.addConnection server).forceClose s.connections.length).connections[id]? =
      if id = s.connections.length then some (DataConnection.new server).forceClose
      else s.connections[id]? :=
  getElem?_snoc_modify _ _ _ _

/-- An extra connection is never the data connection. -/
theorem connected_extra
    (up : ((s.addConnection server).forceClose s.connections.length).connected = true) :
    s.connected = true := by
  obtain ⟨id, c, taken, found, established⟩ := connected_inv up
  rw [extra_getElem?] at found
  split at found
  · cases found
    cases established
  · exact connected_intro taken found established

/-! ## Draining the output -/

/-- Draining changes nothing but the output, and is notified only when nothing is left. -/
theorem handleWrite_spec (c : DataConnection) (count : Nat) :
    (c.handleWrite count).1.sent = c.sent ∧ (c.handleWrite count).1.state = c.state ∧
      (c.handleWrite count).1.server = c.server ∧
      (c.handleWrite count).1.writeCompleteCallback = c.writeCompleteCallback ∧
      ((c.handleWrite count).2 = true → (c.handleWrite count).1.output = []) := by
  unfold DataConnection.handleWrite
  split
  · refine ⟨rfl, rfl, rfl, rfl, fun notified => ?_⟩
    simp only [Bool.and_eq_true, decide_eq_true_eq] at notified
    exact notified.1
  · exact ⟨rfl, rfl, rfl, rfl, nofun⟩

/-- A notification is queued exactly if the output is drained. -/
theorem drain_queued (s : FtpSession) (id count : Nat) (c : DataConnection) :
    (s.drain id count c).queued =
      s.queued ++ if (c.handleWrite count).2 then [.writeComplete id false] else [] := by
  unfold queued drain
  simp only
  split <;> simp

/-- Draining neither connects nor disconnects. -/
theorem drain_connected {id count : Nat} {c : DataConnection}
    (found : s.connections[id]? = some c) : (s.drain id count c).connected = s.connected := by
  obtain ⟨_, state, _⟩ := handleWrite_spec c count
  unfold connected conn? drain
  simp only
  cases s.dataConn with
  | none => rfl
  | some data =>
    simp only [Option.bind_some]
    by_cases here : id = data
    · subst here
      rw [getElem?_set_found found, found]
      simp [DataConnection.connected, state]
    · rw [List.getElem?_set_ne here]

end FtpSession

end Moban
