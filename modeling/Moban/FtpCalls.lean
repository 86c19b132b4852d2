import Moban.FtpInvariant
import Moban.Histories

/-!
# The files, tasks and chunks of an FTP session

What a session has opened, closed, submitted and sent is not part of its state. It is recorded
here, in the order in which it happens: a reply that begins a transfer, what `open` and `opendir`
return, what `close` and `closedir` are called for, what the disk pool is given and what it
returns, and what is handed to `send` on the data connection. The events of a step are those of
the functions that it calls. They are determined by the session before the step, and a session
with its record runs as the session does.

Every step is described once more, with its events: it leaves the transfer alone, ends it,
submits a task, finishes one, sends a chunk, or tries to start a transfer.
-/

namespace Moban

open Runs

/-- What `open` or `opendir` has returned. -/
inductive FtpHandle where
  | file (fd : Nat)
  | directory (dir : Nat)
deriving DecidableEq

/-- What the task works on was read from the handle. -/
def DiskTask.Reads (task : DiskTask) (handle : FtpHandle) : Prop :=
  match task.work with
  | .pread fd _ => fd.map FtpHandle.file = some handle
  | .stat _ _ => ∃ dir, handle = .directory dir

/-- What is recorded of a session. A task is recorded with the handle it works on. -/
inductive FtpEvent where
  | began
  | opened (handle : FtpHandle)
  | closed (handle : FtpHandle)
  | submitted (handle : Option FtpHandle) (task : DiskTask)
  | finished (task : DiskTask) (result : DiskResult)
  | sent (chunk : Chunk)
deriving DecidableEq

/-- The bytes that an event hands to the data connection. -/
def FtpEvent.bytes? : FtpEvent → Option (List UInt8)
  | .sent chunk => some chunk.bytes
  | _ => none

namespace FtpSession

/-! ## The events of a step -/

/-- The handles of the session, in the order in which they are closed. -/
def held (s : FtpSession) : List FtpHandle :=
  (s.xferFd.map FtpHandle.file).toList ++ (s.xferDir.map FtpHandle.directory).toList

/-- `abortTransfer` closes every handle of the session, and so does the destructor. -/
def closing (s : FtpSession) : List FtpEvent := s.held.map FtpEvent.closed

/-- The handle that the current transfer reads from. -/
def handle (s : FtpSession) : Option FtpHandle :=
  match s.xfer with
  | .kNone => none
  | .kRetr => s.xferFd.map FtpHandle.file
  | .kList => s.xferDir.map FtpHandle.directory

/-- A task that the disk pool does not take ends the transfer. -/
def submitEvents (s : FtpSession) (work : DiskWork) (input : FtpInput) : List FtpEvent :=
  if input.submitted then [.submitted s.handle { gen := s.xferGen, work := work }] else s.closing

def requestEvents (s : FtpSession) (input : FtpInput) : List FtpEvent :=
  if !s.connected then []
  else
    match s.xfer with
    | .kNone => []
    | .kRetr => s.submitEvents (.pread s.xferFd s.nextReadOffset) input
    | .kList =>
        if input.names = [] then []
        else s.submitEvents (.stat input.names s.longNameList) input

/-- The handle that the current transfer makes of the number it was given. -/
def made (s : FtpSession) (number : Nat) : FtpHandle :=
  if s.xfer = .kRetr then .file number else .directory number

def startEvents (s : FtpSession) (input : FtpInput) : List FtpEvent :=
  if !s.connected ∨ s.xfer = .kNone then []
  else
    match input.opened with
    | none => []
    | some number => .opened (s.made number) :: (s.openHandle input).requestEvents input

def chunkEvents (s : FtpSession) (chunk : Chunk) : List FtpEvent :=
  if chunk.gen ≠ s.xferGen ∨ s.xfer = .kNone then []
  else if chunk.ioError then s.closing
  else if chunk.bytes = [] ∧ chunk.atEof then []
  else if !s.connected then []
  else [.sent chunk]

/-- The session when the reply that begins a transfer was sent. -/
def begun (s : FtpSession) (line : List UInt8) : FtpSession :=
  match FtpCommand.parse line with
  | .list longNames => (s.beginList longNames).cancel.reply .directoryListing
  | .retr arg => (s.beginRetr ([46, 47] ++ arg)).cancel.reply .openingBinary
  | _ => s

def commandEvents (s : FtpSession) (line : List UInt8) (input : FtpInput) : List FtpEvent :=
  if s.Begins line input then .began :: (s.begun line).startEvents input else []

/-- The session when a new connection has become the data connection. -/
def taken (s : FtpSession) (server : Nat) : FtpSession :=
  (s.addConnection server).takeConnection s.connections.length

def acceptEvents (s : FtpSession) (server : Nat) (input : FtpInput) : List FtpEvent :=
  if s.dataConn.isSome then [] else (s.taken server).startEvents input

/-- Every connection that is torn down ends the transfer. -/
def destroyEvents (s : FtpSession) (server : Nat) : List Nat → List FtpEvent
  | [] => []
  | id :: rest =>
      match s.connections[id]? with
      | none => []
      | some c =>
          if c.server ≠ server ∨ c.state = .KDisconnected then s.destroyEvents server rest
          else s.closing ++ (s.lose id server).destroyEvents server rest

def callEvents (s : FtpSession) (functor : FtpFunctor) (input : FtpInput) : List FtpEvent :=
  match functor with
  | .closeDataServer _ => []
  | .deleteServer server =>
      (s.unlisten server).destroyEvents server (List.range s.connections.length)
  | .sendChunkReady chunk => s.chunkEvents chunk
  | .writeComplete _ _ => s.requestEvents input
  | .forceCloseInLoop id => if s.isOpen id then s.closing else []

/-- What is recorded of a step. -/
def events (s : FtpSession) : Label → List FtpEvent
  | .command line input => s.commandEvents line input
  | .accept server input => s.acceptEvents server input
  | .dataClosed _ => s.closing
  | .taskDone index result => (s.tasks[index]?.map (FtpEvent.finished · result)).toList
  | .runFunctor input =>
      match s.functors with
      | some (functor :: rest) => (s.remaining rest).callEvents functor input
      | _ => []
  | .dataWritable _ _ | .timeout _ | .ctrlForceClose | .ctrlClosed | .beginFunctors
  | .endFunctors => []

end FtpSession

/-- A session and its record. -/
structure FtpRecord where
  session : FtpSession
  log : List FtpEvent

namespace FtpRecord

def initial : FtpRecord := ⟨.initial, []⟩

def step (r : FtpRecord) (label : FtpSession.Label) : Option FtpRecord :=
  (r.session.step label).map fun next => ⟨next, r.log ++ r.session.events label⟩

def system : System FtpRecord FtpSession.Label where
  step := step
  enabled r label := r.session.Enabled label

instance (r : FtpRecord) (label : FtpSession.Label) : Decidable (system.enabled r label) :=
  inferInstanceAs (Decidable (r.session.Enabled label))

/-- The record when the session is destroyed: the destructor closes what is still open. -/
def destroyed (r : FtpRecord) : List FtpEvent := r.log ++ r.session.closing

/-- A session with its record runs as the session does. -/
theorem run_session (r : FtpRecord) (labels : List FtpSession.Label) :
    (system.run r labels).map FtpRecord.session = FtpSession.system.run r.session labels := by
  have steps (r : FtpRecord) (label : FtpSession.Label) :
      (system.step r label).map FtpRecord.session = FtpSession.system.step r.session label := by
    show (r.step label).map FtpRecord.session = r.session.step label
    simp [step, Function.comp_def]
  exact System.run_projects FtpRecord.session steps r labels

theorem step_inv {r next : FtpRecord} {label : FtpSession.Label}
    (done : system.step r label = some next) :
    r.session.step label = some next.session ∧ next.log = r.log ++ r.session.events label := by
  obtain ⟨session, stepped, rfl⟩ := Option.map_eq_some_iff.mp done
  exact ⟨stepped, rfl⟩

end FtpRecord

namespace FtpSession

variable {s middle next : FtpSession} {input : FtpInput} {label : Label}
  {events : List FtpEvent}

/-! ## What can be recorded -/

/-- The chunks that the data connections were given. -/
def given (s : FtpSession) : List (List UInt8) := s.connections.flatMap DataConnection.sent

/-- The replies that have announced a transfer. -/
def announcements (s : FtpSession) : List Reply := s.replies.filter Reply.opens

/-- The fields of the transfer are as before. -/
structure Same (s next : FtpSession) : Prop where
  xferFd : next.xferFd = s.xferFd
  xferDir : next.xferDir = s.xferDir
  xferGen : next.xferGen = s.xferGen
  xfer : next.xfer = s.xfer
  xferFile : next.xferFile = s.xferFile

/-- The transfer goes on. There is no new task, no new chunk and no new announcement. -/
structure Continues (s next : FtpSession) : Prop extends s.Calm next, s.Same next where
  announcements : next.announcements = s.announcements
  connected : next.connected = true → s.connected = true

/-- The transfer goes on, and nothing is sent. -/
structure Rests (s next : FtpSession) : Prop extends s.Continues next where
  given : next.given = s.given

/-- The transfer is over. There is no new task, chunk or announcement, and nothing is sent. -/
structure Ends (s next : FtpSession) : Prop extends s.Calm next where
  xferFd : next.xferFd = none
  xferDir : next.xferDir = none
  xferGen : s.xferGen < next.xferGen
  xfer : next.xfer = .kNone
  announcements : next.announcements = s.announcements
  given : next.given = s.given

/-- A transfer begins: it makes all tasks and chunks those of earlier generations. -/
structure Renews (s next : FtpSession) : Prop extends s.Calm next where
  xferFd : next.xferFd = s.xferFd
  xferDir : next.xferDir = s.xferDir
  xferGen : next.xferGen = s.xferGen + 1
  xfer : next.xfer ≠ .kNone
  given : next.given = s.given

/-- What a step does when it does not try to start a transfer. -/
inductive Pumped (s : FtpSession) : FtpSession → List FtpEvent → Prop where
  | rests {next : FtpSession} (rests : s.Rests next) : Pumped s next []
  | ends {next : FtpSession} (ends : s.Ends next) : Pumped s next s.closing
  | submits {next : FtpSession} (task : DiskTask) (current : task.gen = s.xferGen)
      (reads : ∀ handle ∈ s.handle, task.Reads handle) (up : s.connected = true)
      (active : s.xfer ≠ .kNone) (tasks : next.tasks = s.tasks ++ [task])
      (rests : s.Rests { next with tasks := s.tasks }) :
      Pumped s next [.submitted s.handle task]
  | finishes {index : Nat} {task : DiskTask} (result : DiskResult)
      (found : s.tasks[index]? = some task) (returns : task.Returns result) :
      Pumped s (s.finishTask index (task.chunk result)) [.finished task result]
  | sends {next : FtpSession} {chunk : Chunk} (queued : .sendChunkReady chunk ∈ s.queued)
      (current : chunk.gen = s.xferGen) (continues : s.Continues next)
      (given : next.given.Perm (s.given ++ [chunk.bytes])) : Pumped s next [.sent chunk]

/-- What `tryStartTransfer` can do. -/
inductive Launched (s : FtpSession) (input : FtpInput) : FtpSession → List FtpEvent → Prop where
  | waits (inactive : s.connected = false ∨ s.xfer = .kNone) : Launched s input s []
  | refused {next : FtpSession} (up : s.connected = true) (active : s.xfer ≠ .kNone)
      (failed : input.opened = none) (rests : (s.openHandle input).Rests next)
      (down : next.connected = false) : Launched s input next []
  | opens {next : FtpSession} {events : List FtpEvent} {number : Nat} (up : s.connected = true)
      (active : s.xfer ≠ .kNone) (opened : input.opened = some number)
      (pumped : (s.openHandle input).Pumped next events) :
      Launched s input next (.opened (s.made number) :: events)

/-- The session as it is when a step tries to start a transfer. -/
def starting (s : FtpSession) : Label → Option (FtpSession × FtpInput)
  | .command line input => if s.Begins line input then some (s.begun line, input) else none
  | .accept server input => if s.dataConn.isSome then none else some (s.taken server, input)
  | _ => none

/-- What a step can do. -/
inductive Recorded (s : FtpSession) : Label → FtpSession → List FtpEvent → Prop where
  | pumps {label : Label} {next : FtpSession} {events : List FtpEvent}
      (plain : s.starting label = none) (pumped : s.Pumped next events) :
      Recorded s label next events
  | begins {line : List UInt8} {input : FtpInput} {next : FtpSession} {events : List FtpEvent}
      (begins : s.Begins line input) (started : (s.begun line).Launched input next events) :
      Recorded s (.command line input) next (.began :: events)
  | accepts {server : Nat} {input : FtpInput} {next : FtpSession} {events : List FtpEvent}
      (free : s.dataConn = none) (started : (s.taken server).Launched input next events) :
      Recorded s (.accept server input) next events

/-! ### Rest and end -/

theorem Calm.trans (first : s.Calm middle) (second : middle.Calm next) : s.Calm next :=
  ⟨second.tasks.trans first.tasks, fun chunk member =>
    first.chunks chunk (second.chunks chunk member)⟩

theorem Same.refl (s : FtpSession) : s.Same s := ⟨rfl, rfl, rfl, rfl, rfl⟩

theorem Same.trans (first : s.Same middle) (second : middle.Same next) : s.Same next :=
  ⟨second.xferFd.trans first.xferFd, second.xferDir.trans first.xferDir,
    second.xferGen.trans first.xferGen, second.xfer.trans first.xfer,
    second.xferFile.trans first.xferFile⟩

theorem Continues.trans (first : s.Continues middle)
    (second : middle.Continues next) : s.Continues next :=
  { toCalm := first.toCalm.trans second.toCalm
    toSame := first.toSame.trans second.toSame
    announcements := second.announcements.trans first.announcements
    connected := fun up => first.connected (second.connected up) }

theorem Same.held (same : s.Same next) : next.held = s.held := by
  rw [FtpSession.held, same.xferFd, same.xferDir, FtpSession.held]

theorem Same.closing (same : s.Same next) : next.closing = s.closing := by
  rw [FtpSession.closing, same.held, FtpSession.closing]

theorem Same.handle (same : s.Same next) : next.handle = s.handle := by
  rw [FtpSession.handle, same.xferFd, same.xferDir, same.xfer, FtpSession.handle]

theorem reply_announcements {text : Reply} (silent : text.opens = false) :
    (s.reply text).announcements = s.announcements := by
  unfold FtpSession.announcements reply
  simp only
  split
  · simp [silent]
  · rfl

/-- What does not concern the transfer leaves it alone. -/
theorem Rests.of_same (tasks : next.tasks = s.tasks) (queued : next.queued = s.queued)
    (same : s.Same next) (announcements : next.announcements = s.announcements)
    (connected : next.connected = s.connected) (given : next.given = s.given) : s.Rests next :=
  ⟨⟨⟨tasks, fun _ member => queued ▸ member⟩, same, announcements, fun up => connected ▸ up⟩, given⟩

theorem Rests.refl (s : FtpSession) : s.Rests s := .of_same rfl rfl (.refl s) rfl rfl rfl

theorem Rests.trans (first : s.Rests middle) (second : middle.Rests next) : s.Rests next :=
  ⟨first.toContinues.trans second.toContinues, second.given.trans first.given⟩

theorem Rests.ends (first : s.Rests middle) (second : middle.Ends next) : s.Ends next :=
  { toCalm := first.toCalm.trans second.toCalm
    xferFd := second.xferFd
    xferDir := second.xferDir
    xferGen := first.xferGen ▸ second.xferGen
    xfer := second.xfer
    announcements := second.announcements.trans first.announcements
    given := second.given.trans first.given }

theorem Ends.rests (first : s.Ends middle) (second : middle.Rests next) : s.Ends next :=
  { toCalm := first.toCalm.trans second.toCalm
    xferFd := second.xferFd.trans first.xferFd
    xferDir := second.xferDir.trans first.xferDir
    xferGen := second.xferGen ▸ first.xferGen
    xfer := second.xfer.trans first.xfer
    announcements := second.announcements.trans first.announcements
    given := second.given.trans first.given }

theorem Ends.trans (first : s.Ends middle) (second : middle.Ends next) : s.Ends next :=
  { toCalm := first.toCalm.trans second.toCalm
    xferFd := second.xferFd
    xferDir := second.xferDir
    xferGen := first.xferGen.trans second.xferGen
    xfer := second.xfer
    announcements := second.announcements.trans first.announcements
    given := second.given.trans first.given }

theorem Renews.held (renews : s.Renews next) : next.held = s.held := by
  rw [FtpSession.held, renews.xferFd, renews.xferDir, FtpSession.held]

theorem Ends.held (ends : s.Ends next) : next.held = [] := by
  simp [FtpSession.held, ends.xferFd, ends.xferDir]

theorem Spares.given (spares : s.Spares next) : next.given = s.given := by
  have view (t : FtpSession) : t.given = (t.traffic.map Prod.fst).flatten := by
    rw [FtpSession.given, FtpSession.traffic, List.map_map, List.flatMap_def]
    exact congrArg List.flatten (List.map_congr_left fun _ _ => rfl)
  rw [view, spares.traffic, ← view]

theorem Clears.ends (clears : s.Clears next) (spares : s.Spares next)
    (announcements : next.announcements = s.announcements) : s.Ends next :=
  ⟨spares.calm, clears.xferFd, clears.xferDir, by have := clears.xferGen; omega, clears.xfer,
    announcements, spares.given⟩

theorem giveUp_ends (s : FtpSession) {text : Reply} (silent : text.opens = false) :
    s.Ends (s.giveUp text) :=
  (giveUp_clears s text).ends (giveUp_spares s text) (reply_announcements (s := s) silent)

theorem lose_ends (s : FtpSession) (id server : Nat) : s.Ends (s.lose id server) := by
  refine (lose_clears s id server).ends (lose_spares s id server) ?_
  have ended : (s.onConnection id DataConnection.close).endTransfer.announcements =
      s.announcements := by
    rcases (s.onConnection id DataConnection.close).endTransfer_cases with
      ⟨_, _, aborted⟩ | ⟨_, completed⟩
    · rw [aborted, reply_announcements (by rfl)]
      rfl
    · rw [completed, sendDataEndReply, endReply]
      split
      · rfl
      · exact @reply_announcements s .listComplete (by rfl)
      · exact @reply_announcements s .transferComplete (by rfl)
  exact ended

/-- What leaves the pump and the fields of the transfer alone does not take part in it. -/
theorem Spares.rests (spares : s.Spares next) (same : s.Same next)
    (announcements : next.announcements = s.announcements)
    (connected : next.connected = true → s.connected = true) : s.Rests next :=
  ⟨⟨spares.calm, same, announcements, connected⟩, spares.given⟩

theorem finished_rests (s : FtpSession) : s.Rests s.finished :=
  (finished_spares s).rests ⟨rfl, rfl, rfl, rfl, rfl⟩ rfl fun up =>
    absurd ((finished_unconnected s).symm.trans up) (by simp)

theorem reply_rests (s : FtpSession) {text : Reply} (silent : text.opens = false) :
    s.Rests (s.reply text) :=
  (reply_spares s text).rests ⟨rfl, rfl, rfl, rfl, rfl⟩ (reply_announcements silent) id

theorem refuse_rests (s : FtpSession) : s.Rests s.refuse := by
  refine (refuse_spares s).rests ⟨rfl, rfl, rfl, rfl, rfl⟩ ?_ fun up => ?_
  · refine reply_announcements (s := s) ?_
    split <;> rfl
  · exact absurd ((shutDownData_unconnected _).symm.trans up) (by simp)

theorem closeDataServer_rests (s : FtpSession) : s.Rests s.closeDataServer :=
  (closeDataServer_spares s).rests ⟨rfl, rfl, rfl, rfl, rfl⟩ rfl fun up => by cases up

theorem listen_rests (s : FtpSession) : s.Rests s.listen :=
  .of_same rfl rfl ⟨rfl, rfl, rfl, rfl, rfl⟩ rfl rfl rfl

theorem cmdPasv_rests (s : FtpSession) (input : FtpInput) : s.Rests (s.cmdPasv input) := by
  unfold cmdPasv
  split
  · exact ((closeDataServer_rests s).trans (listen_rests _)).trans (reply_rests _ rfl)
  · exact (listen_rests s).trans (reply_rests _ rfl)

theorem pasvTimeout_rests (s : FtpSession) (timer : Nat) : s.Rests (s.pasvTimeout timer) := by
  have expired : s.Rests { s with timers := s.timers.filter (· ≠ timer) } :=
    .of_same rfl rfl ⟨rfl, rfl, rfl, rfl, rfl⟩ rfl rfl rfl
  unfold pasvTimeout
  simp only
  split
  · exact (expired.trans (reply_rests _ rfl)).trans (closeDataServer_rests _)
  · exact expired

theorem drain_rests {id count : Nat} {c : DataConnection} (found : s.connections[id]? = some c) :
    s.Rests (s.drain id count c) := by
  obtain ⟨sent, _⟩ := handleWrite_spec c count
  refine ⟨⟨⟨rfl, fun chunk member => ?_⟩, ⟨rfl, rfl, rfl, rfl, rfl⟩, rfl, fun up =>
    (drain_connected found).symm.trans up⟩, ?_⟩
  · rw [drain_queued, List.mem_append] at member
    refine member.resolve_right fun new => ?_
    split at new <;> simp at new
  · exact congrArg List.flatten (map_set_same DataConnection.sent found sent)

theorem extra_rests (s : FtpSession) (server : Nat) :
    s.Rests ((s.addConnection server).forceClose s.connections.length) := by
  have rejected := forceClose_spares (s.addConnection server) s.connections.length
  refine ⟨⟨⟨rfl, rejected.calm.chunks⟩, ⟨rfl, rfl, rfl, rfl, rfl⟩, rfl, connected_extra⟩, ?_⟩
  rw [rejected.given]
  simp [given, addConnection, DataConnection.new]

theorem remaining_rests {functor : FtpFunctor} {rest : List FtpFunctor}
    (running : s.functors = some (functor :: rest)) : s.Rests (s.remaining rest) :=
  ⟨⟨remaining_calm running, ⟨rfl, rfl, rfl, rfl, rfl⟩, rfl, id⟩, rfl⟩

/-- A chunk that is sent is given to the data connection. -/
theorem sendData_given (up : s.connected = true) (bytes : List UInt8) (input : FtpInput) :
    (s.sendData bytes input).given.Perm (s.given ++ [bytes]) := by
  obtain ⟨id, c, taken, found, established⟩ := connected_inv up
  have sent : (c.send bytes input.nwrote input.faultError).1.sent = c.sent ++ [bytes] := by
    unfold DataConnection.send
    rw [if_pos established]
    split <;> rfl
  have given : (s.sendData bytes input).given =
      (s.connections.modify id fun c => (c.send bytes input.nwrote input.faultError).1).flatMap
        DataConnection.sent := by
    simp only [FtpSession.given, sendData, onData, taken]
  rw [given]
  exact flatMap_modify_perm DataConnection.sent found sent

theorem sendData_continues (s : FtpSession) (bytes : List UInt8) (input : FtpInput) :
    s.Continues (s.sendData bytes input) :=
  ⟨sendData_calm s bytes input, ⟨rfl, rfl, rfl, rfl, rfl⟩, rfl,
    connected_onData (send_falls bytes input.nwrote input.faultError)⟩

/-! ### The functions -/

theorem submit_pumped (rests : s.Rests middle)
    (up : middle.connected = true) (active : middle.xfer ≠ .kNone) (work : DiskWork)
    (reads : ∀ handle ∈ middle.handle, DiskTask.Reads ⟨middle.xferGen, work⟩ handle) :
    s.Pumped (middle.submit work input) (middle.submitEvents work input) := by
  unfold submit submitEvents
  split
  · rw [rests.handle] at reads ⊢
    refine .submits _ rests.xferGen reads (rests.connected up) (rests.xfer ▸ active) ?_ ?_
    · rw [← rests.tasks]
    · exact ⟨⟨⟨rfl, rests.chunks⟩, rests.toSame.trans ⟨rfl, rfl, rfl, rfl, rfl⟩,
        rests.announcements, rests.connected⟩, rests.given⟩
  · rw [rests.closing]
    exact .ends (rests.ends (giveUp_ends middle rfl))

/-- The next chunk is requested in a session that has only rested. -/
theorem requestNextChunk_pumped (rests : s.Rests middle)
    (done : middle.requestNextChunk input = some next) :
    s.Pumped next (middle.requestEvents input) := by
  unfold requestNextChunk at done
  unfold requestEvents
  split at done
  case isTrue down =>
    cases done
    rw [if_pos down]
    exact .rests rests
  case isFalse connected =>
    rw [if_neg connected]
    have up : middle.connected = true := by simpa using connected
    cases phase : middle.xfer with
    | kNone =>
      simp only [phase] at done ⊢
      cases done
      exact .rests rests
    | kRetr =>
      simp only [phase] at done ⊢
      cases done
      have advanced : middle.Rests
          { middle with nextReadOffset := middle.nextReadOffset + kReadChunkSize } :=
        .of_same rfl rfl ⟨rfl, rfl, rfl, rfl, rfl⟩ rfl rfl rfl
      refine submit_pumped (rests.trans advanced) up (by simp [phase]) _ ?_
      intro handle held
      simpa [FtpSession.handle, phase, DiskTask.Reads] using held
    | kList =>
      simp only [phase] at done ⊢
      unfold requestNames at done
      split at done
      · cases done
      · split at done
        case isTrue empty =>
          rw [if_pos empty]
          simp [sendChunkReady, phase] at done
          obtain ⟨_, rfl⟩ := finish_inv done
          exact .rests (rests.trans (finished_rests middle))
        case isFalse named =>
          rw [if_neg named]
          cases done
          refine submit_pumped rests up (by simp [phase]) _ ?_
          intro handle held
          simp only [FtpSession.handle, phase, Option.mem_def, Option.map_eq_some_iff] at held
          obtain ⟨dir, _, rfl⟩ := held
          exact ⟨dir, rfl⟩

theorem tryStartTransfer_started (done : s.tryStartTransfer input = some next) :
    s.Launched input next (s.startEvents input) := by
  unfold tryStartTransfer at done
  unfold startEvents
  split at done
  case isTrue inactive =>
    cases done
    rw [if_pos inactive]
    exact .waits (by simpa using inactive)
  case isFalse ready =>
    rw [if_neg ready]
    obtain ⟨up, active⟩ : s.connected = true ∧ s.xfer ≠ .kNone := by simpa [not_or] using ready
    split at done
    case isTrue failed =>
      cases done
      rw [failed]
      exact .refused up active failed (refuse_rests _) (shutDownData_unconnected _)
    case isFalse opened =>
      obtain ⟨number, given⟩ := Option.ne_none_iff_exists'.mp opened
      simp only [given]
      exact .opens up active given (requestNextChunk_pumped (.refl _) done)

/-- A chunk that the loop has taken out of its queue is handed to `sendChunkReady`. -/
theorem sendChunkReady_pumped {chunk : Chunk}
    (queued : .sendChunkReady chunk ∈ s.queued) (rests : s.Rests middle)
    (done : middle.sendChunkReady chunk input = some next) :
    s.Pumped next (middle.chunkEvents chunk) := by
  unfold sendChunkReady at done
  unfold chunkEvents
  split at done
  case isTrue old =>
    cases done
    rw [if_pos old]
    exact .rests rests
  case isFalse fresh =>
    rw [if_neg fresh]
    have current : chunk.gen = middle.xferGen := by
      by_contra other
      exact fresh (.inl other)
    split at done
    case isTrue error =>
      cases done
      rw [if_pos error, rests.closing]
      refine .ends (rests.ends (giveUp_ends middle ?_))
      split <;> rfl
    case isFalse sound =>
      rw [if_neg sound]
      split at done
      case isTrue last =>
        rw [if_pos last]
        obtain ⟨_, rfl⟩ := finish_inv done
        exact .rests (rests.trans (finished_rests middle))
      case isFalse notLast =>
        rw [if_neg notLast]
        split at done
        case isTrue down =>
          cases done
          rw [if_pos down]
          exact .rests rests
        case isFalse up =>
          rw [if_neg up]
          have sent : s.Continues (middle.sendData chunk.bytes input) :=
            rests.toContinues.trans (sendData_continues middle chunk.bytes input)
          have given : (middle.sendData chunk.bytes input).given.Perm (s.given ++ [chunk.bytes]) :=
            rests.given ▸ sendData_given (by simpa using up) chunk.bytes input
          split at done
          · obtain ⟨_, rfl⟩ := finish_inv done
            have finished := finished_rests (middle.sendData chunk.bytes input)
            exact .sends queued (current.trans rests.xferGen) (sent.trans finished.toContinues)
              (finished.given ▸ given)
          · cases done
            exact .sends queued (current.trans rests.xferGen) sent given

/-- The destructor of a server ends the transfer, unless none of its connections is up.

Proof: induction over the connections. After the first that is torn down no handle is left. -/
theorem destroyConnections_pumped {server : Nat} {ids : List Nat}
    (done : s.destroyConnections server ids = some next) :
    s.Rests next ∧ s.destroyEvents server ids = [] ∨
      s.Ends next ∧ s.destroyEvents server ids = s.closing := by
  induction ids generalizing s with
  | nil =>
    cases done
    exact .inl ⟨.refl _, rfl⟩
  | cons id rest ih =>
    obtain ⟨c, found, made⟩ := Option.bind_eq_some_iff.mp done
    simp only [destroyEvents, found]
    split at made
    case isTrue other =>
      rw [if_pos other]
      exact ih made
    case isFalse concerned =>
      rw [if_neg concerned]
      split at made
      · have ended := lose_ends s id server
        have nothing : (s.lose id server).closing = [] := by rw [closing, ended.held, List.map_nil]
        refine .inr ?_
        rcases ih made with ⟨rests, unrecorded⟩ | ⟨ends, closed⟩
        · rw [unrecorded, List.append_nil]
          exact ⟨ended.rests rests, rfl⟩
        · rw [closed, nothing, List.append_nil]
          exact ⟨ended.trans ends, rfl⟩
      · cases made

/-- The loop calls a functor that it has taken out of its queue. -/
theorem call_pumped {functor : FtpFunctor} (queued : functor ∈ s.queued)
    (rests : s.Rests middle) (done : middle.call functor input = some next) :
    s.Pumped next (middle.callEvents functor input) := by
  cases functor with
  | closeDataServer =>
    cases done
    exact .rests (rests.trans (closeDataServer_rests middle))
  | deleteServer server =>
    have deaf : s.Rests (middle.unlisten server) :=
      rests.trans (.of_same rfl rfl ⟨rfl, rfl, rfl, rfl, rfl⟩ rfl rfl rfl)
    simp only [callEvents]
    rcases destroyConnections_pumped done with ⟨undisturbed, unrecorded⟩ | ⟨ends, closed⟩
    · rw [unrecorded]
      exact .rests (deaf.trans undisturbed)
    · rw [closed, deaf.closing]
      exact .ends (deaf.ends ends)
  | sendChunkReady chunk => exact sendChunkReady_pumped queued rests done
  | writeComplete id bound =>
    obtain ⟨_, _, rest⟩ := Option.bind_eq_some_iff.mp done
    obtain ⟨_, _, made⟩ := Option.bind_eq_some_iff.mp rest
    have requested : middle.requestNextChunk input = some next := by
      unfold writeCompleteCallback at made
      split at made
      · exact made
      case isFalse idle =>
        have ended : middle.xfer = .kNone := by simpa using idle
        rw [← made]
        simp [requestNextChunk, ended]
    exact requestNextChunk_pumped rests requested
  | forceCloseInLoop id =>
    obtain ⟨c, found, made⟩ := Option.bind_eq_some_iff.mp done
    simp only [callEvents, isOpen, found, Option.any_some, decide_eq_true_eq]
    split at made
    case isTrue opened =>
      obtain ⟨_, _, _, rfl⟩ := handleClose_inv made
      rw [if_pos opened, rests.closing]
      exact .ends (rests.ends (lose_ends middle id _))
    case isFalse down =>
      cases made
      rw [if_neg down]
      exact .rests rests

/-! ### The steps -/

theorem begun_renews {line : List UInt8} (begins : s.Begins line input) :
    s.Renews (s.begun line) := by
  obtain ⟨_, _, command⟩ := begins
  unfold begun
  split
  · exact ⟨⟨rfl, fun _ => id⟩, rfl, rfl, rfl, by simp [beginList, cancel, reply], rfl⟩
  · exact ⟨⟨rfl, fun _ => id⟩, rfl, rfl, rfl, by simp [beginRetr, cancel, reply], rfl⟩
  case h_3 other _ => cases asked : FtpCommand.parse line <;> simp_all [FtpCommand.Begins]

theorem taken_given (s : FtpSession) (server : Nat) : (s.taken server).given = s.given := by
  have unsent (c : DataConnection) : (c.setWriteCompleteCallback true).sent = c.sent := rfl
  have same : (s.taken server).given = (s.addConnection server).given :=
    congrArg List.flatten (map_modify_same DataConnection.sent unsent _ _)
  rw [same]
  simp [given, addConnection, DataConnection.new]

theorem handleCommand_recorded {line : List UInt8} (done : s.handleCommand line input = some next) :
    s.Recorded (.command line input) next (s.commandEvents line input) := by
  unfold commandEvents
  by_cases begins : s.Begins line input
  · rw [if_pos begins]
    refine .begins begins (tryStartTransfer_started ?_)
    obtain ⟨loggedIn, listening, command⟩ := begins
    unfold handleCommand execute at done
    unfold begun
    split at done <;> simp_all [FtpCommand.Begins, requireLogin, cmdList, cmdRetr]
  · rw [if_neg begins]
    refine .pumps (if_neg begins) (.rests ?_)
    cases handleCommand_inv done with
    | chats state _ silent =>
      have changed : s.Rests { s with state := state } :=
        .of_same rfl rfl ⟨rfl, rfl, rfl, rfl, rfl⟩ rfl rfl rfl
      exact changed.trans (reply_rests _ silent)
    | passive => exact cmdPasv_rests s input
    | lists _ _ started => exact absurd started begins
    | retrieves _ _ started => exact absurd started begins
    | quits =>
      have told : s.Rests (s.reply .bye) := reply_rests s rfl
      exact told.trans (.of_same rfl rfl ⟨rfl, rfl, rfl, rfl, rfl⟩ rfl rfl rfl)

theorem accept_recorded {server : Nat} (done : s.accept server input = some next) :
    s.Recorded (.accept server input) next (s.acceptEvents server input) := by
  unfold accept handleDataUp at done
  unfold acceptEvents
  split at done
  case isTrue taken =>
    have busy : s.dataConn.isSome = true := taken
    cases done
    rw [if_pos busy]
    exact .pumps (if_pos busy) (.rests (extra_rests s server))
  case isFalse vacant =>
    have free : s.dataConn = none := by simpa [addConnection] using vacant
    rw [if_neg (by simp [free])]
    exact .accepts free (tryStartTransfer_started done)

/-- Every step is recorded as it happens. -/
theorem step_recorded (enabled : s.Enabled label) (done : s.step label = some next) :
    s.Recorded label next (s.events label) := by
  cases label with
  | command line input => exact handleCommand_recorded done
  | accept server input => exact accept_recorded done
  | dataClosed id =>
    obtain ⟨c, _, _, rfl⟩ := handleClose_inv done
    exact .pumps rfl (.ends (lose_ends s id c.server))
  | dataWritable id count =>
    obtain ⟨c, found, rfl⟩ := handleWrite_inv done
    exact .pumps rfl (.rests (drain_rests found))
  | timeout timer =>
    cases done
    exact .pumps rfl (.rests (pasvTimeout_rests s timer))
  | ctrlForceClose =>
    cases done
    exact .pumps rfl (.rests (.of_same rfl rfl ⟨rfl, rfl, rfl, rfl, rfl⟩ rfl rfl rfl))
  | ctrlClosed =>
    cases done
    exact .pumps rfl (.rests (.of_same rfl rfl ⟨rfl, rfl, rfl, rfl, rfl⟩ rfl rfl rfl))
  | taskDone index result =>
    obtain ⟨task, found, rfl⟩ := taskDone_inv done
    obtain ⟨same, listed, returns⟩ := enabled
    cases listed.symm.trans found
    refine .pumps rfl ?_
    rw [FtpSession.events, found]
    exact .finishes result found returns
  | beginFunctors =>
    cases done
    have same := (beginFunctors_spares enabled).rests ⟨rfl, rfl, rfl, rfl, rfl⟩ rfl id
    exact .pumps rfl (.rests same)
  | runFunctor input =>
    obtain ⟨functor, rest, running, called⟩ := runFunctor_inv done enabled.1
    refine .pumps rfl ?_
    rw [FtpSession.events, running]
    refine call_pumped ?_ (remaining_rests running) called
    rw [queued_remaining running]
    exact List.mem_cons_self
  | endFunctors =>
    cases done
    exact .pumps rfl (.rests ((endFunctors_spares enabled).rests ⟨rfl, rfl, rfl, rfl, rfl⟩ rfl id))

/-! ### What is sent -/

theorem closing_bytes (s : FtpSession) : s.closing.filterMap FtpEvent.bytes? = [] := by
  simp [closing, List.filterMap_map, Function.comp_def, FtpEvent.bytes?]

theorem given_silent (same : next.given = s.given)
    (silent : events.filterMap FtpEvent.bytes? = []) :
    next.given.Perm (s.given ++ events.filterMap FtpEvent.bytes?) := by
  rw [same, silent, List.append_nil]

theorem Pumped.given (pumped : s.Pumped next events) :
    next.given.Perm (s.given ++ events.filterMap FtpEvent.bytes?) := by
  cases pumped with
  | rests rests => exact given_silent rests.given rfl
  | ends ends => exact given_silent ends.given s.closing_bytes
  | submits _ _ _ _ _ _ rests => exact given_silent (s := s) rests.given rfl
  | finishes => exact given_silent rfl rfl
  | sends _ _ _ given => exact given

theorem Launched.given (started : s.Launched input next events) :
    next.given.Perm (s.given ++ events.filterMap FtpEvent.bytes?) := by
  cases started with
  | waits => exact given_silent rfl rfl
  | refused _ _ _ rests => exact given_silent (s := s) rests.given rfl
  | opens _ _ _ pumped => exact pumped.given

/-- Every chunk that the data connections are given is recorded. -/
theorem Recorded.given (recorded : s.Recorded label next events) :
    next.given.Perm (s.given ++ events.filterMap FtpEvent.bytes?) := by
  cases recorded with
  | pumps _ pumped => exact pumped.given
  | begins begins started =>
    rw [← (begun_renews begins).given]
    exact started.given
  | accepts _ started =>
    rw [← taken_given s]
    exact started.given

end FtpSession

end Moban
