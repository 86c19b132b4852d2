import Moban.FtpSteps

/-!
# Generations and handles of transfers

Every task of the disk pool carries the generation of the transfer that submitted it, and so does
the chunk that it hands back. The generation grows with every transfer that begins or ends. In
every run, a task or a chunk of the current generation means that the file or the directory of
the current transfer is open, and an open file or directory means that some data connection is
not closed yet. A transfer whose data connection is up has its file or directory open.

The one assumption is that no data connection is taken while a transfer waits for none: the file
or directory of a transfer would be opened a second time.
-/

namespace Moban

open Runs

namespace FtpSession

/-- The file or the directory of a transfer is open. -/
def Opened (s : FtpSession) : Prop := s.xferFd.isSome = true ∨ s.xferDir.isSome = true

instance (s : FtpSession) : Decidable s.Opened := instDecidableOr

/-- The generation is an earlier one, or the one of a transfer that has been started. -/
def Dated (s : FtpSession) (gen : Nat) : Prop :=
  gen < s.xferGen ∨ gen = s.xferGen ∧ s.Opened

/-- Which data connections are open. -/
def opens (s : FtpSession) : List Bool := s.connections.map fun c => decide c.Open

/-- What holds of generations and handles, wherever a transfer stands. -/
structure Dating (s : FtpSession) : Prop where
  tasks : ∀ task ∈ s.tasks, s.Dated task.gen
  chunks : ∀ chunk, .sendChunkReady chunk ∈ s.queued → s.Dated chunk.gen
  cleared : s.xfer = .kNone → ¬ s.Opened ∧ s.xferDone = false
  owned : s.Opened → true ∈ s.opens

/-- Moreover, a transfer whose data connection is up has been started. -/
structure Consistent (s : FtpSession) : Prop extends s.Dating where
  started : s.connected = true → s.xfer ≠ .kNone → s.Opened

section Steps

variable {s next : FtpSession} {input : FtpInput} {label : Label}

theorem Dated.lt_succ {gen : Nat} (dated : s.Dated gen) : gen < s.xferGen + 1 := by
  rcases dated with earlier | ⟨current, _⟩
  · omega
  · omega

/-- There is no new task and no new chunk. -/
structure Calm (s next : FtpSession) : Prop where
  tasks : next.tasks = s.tasks
  chunks : ∀ chunk, .sendChunkReady chunk ∈ next.queued → .sendChunkReady chunk ∈ s.queued

theorem Spares.calm (spares : s.Spares next) : s.Calm next := by
  refine ⟨spares.tasks, fun chunk member => ?_⟩
  have pumping : .sendChunkReady chunk ∈ next.queued.filter FtpFunctor.pumps :=
    List.mem_filter.mpr ⟨member, rfl⟩
  rw [spares.pumps] at pumping
  exact (List.mem_filter.mp pumping).1

/-! ## Open connections -/

/-- Shutting the writing side down does not close the connection. -/
theorem shutdown_open (c : DataConnection) : decide c.shutdown.Open = decide c.Open := by
  by_cases established : c.state = .KConnected <;>
    simp [DataConnection.shutdown, DataConnection.Open, established]

/-- A forced close only takes effect in the loop. -/
theorem forceClose_open (c : DataConnection) : decide c.forceClose.Open = decide c.Open := by
  unfold DataConnection.forceClose
  split
  case isTrue opened =>
    rw [decide_eq_true opened]
    exact decide_eq_true (.inr rfl)
  · rfl

/-- Sending changes the output and the record of chunks only. -/
theorem send_same (c : DataConnection) (bytes : List UInt8) (nwrote : Nat) (faultError : Bool) :
    (c.send bytes nwrote faultError).1.server = c.server ∧
      (c.send bytes nwrote faultError).1.state = c.state ∧
      (c.send bytes nwrote faultError).1.writeCompleteCallback = c.writeCompleteCallback := by
  unfold DataConnection.send
  split
  · split <;> exact ⟨rfl, rfl, rfl⟩
  · exact ⟨rfl, rfl, rfl⟩

/-- Sending does not close the connection, even if the peer is gone. -/
theorem send_open (c : DataConnection) (bytes : List UInt8) (nwrote : Nat) (faultError : Bool) :
    decide (c.send bytes nwrote faultError).1.Open = decide c.Open := by
  rw [decide_eq_decide, DataConnection.Open, DataConnection.Open,
    (send_same c bytes nwrote faultError).2.1]

theorem mem_opens {id : Nat} {c : DataConnection} (found : s.connections[id]? = some c)
    (opened : c.Open) : true ∈ s.opens :=
  List.mem_map.mpr ⟨c, List.mem_of_getElem? found, decide_eq_true opened⟩

/-- A connected data connection is open. -/
theorem connected_open (up : s.connected = true) : true ∈ s.opens := by
  obtain ⟨_, _, _, found, established⟩ := connected_inv up
  exact mem_opens found (.inl established)

/-- The data connection is not up after an operation that leaves no connection up. -/
theorem onData_unconnected {operation : DataConnection → DataConnection}
    (down : ∀ c, (operation c).connected = false) : (s.onData operation).connected = false := by
  unfold FtpSession.connected conn? onData
  cases taken : s.dataConn with
  | none => simp
  | some id =>
    simp only [Option.bind_some, List.getElem?_modify, if_true]
    cases s.connections[id]? with
    | none => rfl
    | some c => exact down c

/-- Afterwards no data connection is established. -/
theorem shutDownData_unconnected (s : FtpSession) : s.shutDownData.connected = false := by
  refine onData_unconnected (s := s) fun c => ?_
  unfold DataConnection.forceClose
  split
  · rfl
  case isFalse down => exact decide_eq_false fun established => down (.inl established)

/-- A finished transfer has shut its connection down. -/
theorem finished_unconnected (s : FtpSession) : s.finished.connected = false := by
  refine onData_unconnected (s := { s with xferDone := true }) fun c => ?_
  unfold DataConnection.shutdown
  split
  · rfl
  case isFalse down => exact decide_eq_false down

theorem shutDownData_opens (s : FtpSession) : s.shutDownData.opens = s.opens :=
  map_onData _ forceClose_open s

theorem finished_opens (s : FtpSession) : s.finished.opens = s.opens :=
  map_onData _ shutdown_open { s with xferDone := true }

/-! ## What the functions keep -/

/-- What leaves the transfer alone keeps the dates of its handles. -/
theorem Dating.kept (dating : s.Dating) (calm : s.Calm next) (xferFd : next.xferFd = s.xferFd)
    (xferDir : next.xferDir = s.xferDir) (xferGen : next.xferGen = s.xferGen)
    (xfer : next.xfer = s.xfer) (xferDone : s.xfer = .kNone → next.xferDone = s.xferDone)
    (opens : true ∈ s.opens → true ∈ next.opens) : next.Dating := by
  have opened : next.Opened ↔ s.Opened := by rw [Opened, Opened, xferFd, xferDir]
  have dated (gen : Nat) : next.Dated gen ↔ s.Dated gen := by rw [Dated, Dated, xferGen, opened]
  constructor
  · rw [calm.tasks]
    exact fun task member => (dated _).mpr (dating.tasks task member)
  · exact fun chunk member => (dated _).mpr (dating.chunks chunk (calm.chunks chunk member))
  · rw [xfer, opened]
    intro idle
    rw [xferDone idle]
    exact dating.cleared idle
  · rw [opened]
    exact fun handle => opens (dating.owned handle)

/-- What leaves the transfer alone keeps the session consistent. -/
theorem Consistent.kept (consistent : s.Consistent) (calm : s.Calm next)
    (xferFd : next.xferFd = s.xferFd) (xferDir : next.xferDir = s.xferDir)
    (xferGen : next.xferGen = s.xferGen) (xfer : next.xfer = s.xfer)
    (xferDone : s.xfer = .kNone → next.xferDone = s.xferDone)
    (opens : true ∈ s.opens → true ∈ next.opens)
    (connected : next.connected = true → s.connected = true) : next.Consistent := by
  refine ⟨consistent.toDating.kept calm xferFd xferDir xferGen xfer xferDone opens, ?_⟩
  intro up active
  rw [Opened, xferFd, xferDir]
  exact consistent.started (connected up) (xfer ▸ active)

/-- All tasks and chunks are of earlier generations once the transfer is over. -/
theorem Dating.clears (dating : s.Dating) (calm : s.Calm next) (clears : s.Clears next) :
    next.Consistent := by
  have unopened : ¬ next.Opened := by simp [Opened, clears.xferFd, clears.xferDir]
  have dated (gen : Nat) (before : s.Dated gen) : next.Dated gen :=
    .inl (clears.xferGen ▸ before.lt_succ)
  refine ⟨⟨?_, ?_, fun _ => ⟨unopened, clears.xferDone⟩, fun opened => absurd opened unopened⟩,
    fun _ active => absurd clears.xfer active⟩
  · rw [calm.tasks]
    exact fun task member => dated _ (dating.tasks task member)
  · exact fun chunk member => dated _ (dating.chunks chunk (calm.chunks chunk member))

/-- A transfer that is given up leaves no handle open. -/
theorem Consistent.giveUp (consistent : s.Consistent) (text : Reply) : (s.giveUp text).Consistent :=
  consistent.toDating.clears (giveUp_spares s text).calm (giveUp_clears s text)

/-- A lost connection leaves no handle open. -/
theorem Consistent.lose (consistent : s.Consistent) (id server : Nat) :
    (s.lose id server).Consistent :=
  consistent.toDating.clears (lose_spares s id server).calm (lose_clears s id server)

/-- The output ends during a transfer, which stays as it is. -/
theorem Consistent.finished (consistent : s.Consistent) (active : s.xfer ≠ .kNone) :
    s.finished.Consistent := by
  refine consistent.kept (finished_spares s).calm rfl rfl rfl rfl (fun idle => absurd idle active)
    (fun opened => (finished_opens s).symm ▸ opened) fun up => ?_
  exact absurd ((finished_unconnected s).symm.trans up) (by simp)

/-- A task of the current generation is submitted. -/
theorem Consistent.submits (consistent : s.Consistent) (opened : s.Opened) (offset : Nat)
    (work : DiskWork) :
    Consistent { s with
      nextReadOffset := offset
      tasks := s.tasks ++ [{ gen := s.xferGen, work := work }] } := by
  refine ⟨⟨?_, consistent.chunks, consistent.cleared, consistent.owned⟩, consistent.started⟩
  intro task member
  rcases List.mem_append.mp member with before | new
  · exact consistent.tasks task before
  · rw [List.mem_singleton.mp new]
    exact .inr ⟨rfl, opened⟩

/-- Requesting a chunk keeps the session consistent. -/
theorem Consistent.requests (consistent : s.Consistent) (requests : s.Requests input next) :
    next.Consistent := by
  cases requests with
  | idle => exact consistent
  | reads up retr => exact consistent.submits (consistent.started up (by simp [retr])) _ _
  | lists up list => exact consistent.submits (consistent.started up (by simp [list])) _ _
  | ends _ list => exact consistent.finished (by simp [list])
  | rejected => exact consistent.giveUp .localError

theorem sendData_calm (s : FtpSession) (bytes : List UInt8) (input : FtpInput) :
    s.Calm (s.sendData bytes input) := by
  refine ⟨rfl, fun chunk member => ?_⟩
  have queue : (s.sendData bytes input).queued = s.queued ++ s.notified bytes input :=
    (List.append_assoc ..).symm
  rw [queue, List.mem_append] at member
  refine member.resolve_right fun new => ?_
  unfold notified at new
  split at new
  · split at new <;> simp at new
  · simp at new

theorem send_falls (bytes : List UInt8) (nwrote : Nat) (faultError : Bool) (c : DataConnection)
    (up : (c.send bytes nwrote faultError).1.connected = true) : c.connected = true := by
  rwa [DataConnection.connected, (send_same c bytes nwrote faultError).2.1] at up

/-- Sending keeps the session consistent, even if the peer is gone. -/
theorem Consistent.sendData (consistent : s.Consistent) (bytes : List UInt8) :
    (s.sendData bytes input).Consistent := by
  refine consistent.kept (sendData_calm s bytes input) rfl rfl rfl rfl (fun _ => rfl) ?_ ?_
  · intro opened
    have same : (s.sendData bytes input).opens = s.opens :=
      map_onData _ (fun c => send_open c bytes input.nwrote input.faultError) s
    exact same.symm ▸ opened
  · exact connected_onData (send_falls bytes input.nwrote input.faultError)

/-- A stale chunk is ignored, and a current one is sent or ends the transfer. -/
theorem Consistent.delivers {chunk : Chunk} (consistent : s.Consistent)
    (delivers : s.Delivers chunk input next) : next.Consistent := by
  cases delivers with
  | stale => exact consistent
  | fails => exact consistent.giveUp _
  | ends _ active => exact consistent.finished active
  | dropped => exact consistent
  | sends => exact consistent.sendData chunk.bytes
  | sendsLast _ active => exact (consistent.sendData chunk.bytes).finished active

/-- A transfer that has no task and no chunk is started. -/
theorem Dating.starts (dating : s.Dating) (tasks : ∀ task ∈ s.tasks, task.gen < s.xferGen)
    (chunks : ∀ chunk, .sendChunkReady chunk ∈ s.queued → chunk.gen < s.xferGen)
    (starts : s.Starts input next) : next.Consistent := by
  have handle (up : s.connected = true) (active : s.xfer ≠ .kNone) :
      (s.openHandle input).Dating :=
    ⟨fun task member => .inl (tasks task member), fun chunk member => .inl (chunks chunk member),
      fun idle => absurd idle active, fun _ => connected_open up⟩
  cases starts with
  | waits inactive =>
    refine ⟨dating, fun up active => ?_⟩
    exact absurd inactive (by simp [up, active])
  | refused up active _ =>
    have told : ((s.openHandle input).reply
        (if s.xfer = .kRetr then .failedToOpen else .failedToList)).Dating :=
      (handle up active).kept (reply_spares _ _).calm rfl rfl rfl rfl (fun _ => rfl) id
    refine ⟨told.kept (shutDownData_spares _).calm rfl rfl rfl rfl (fun _ => rfl) ?_, ?_⟩
    · exact fun opened => (shutDownData_opens _).symm ▸ opened
    · exact fun up => absurd ((shutDownData_unconnected _).symm.trans up) (by simp)
  | pumps up active opened requests =>
    refine Consistent.requests ⟨handle up active, fun _ _ => ?_⟩ requests
    have present : input.opened.isSome = true := Option.isSome_iff_ne_none.mpr opened
    by_cases retr : s.xfer = .kRetr
    · exact .inl (by simpa [openHandle, retr] using present)
    · exact .inr (by simpa [openHandle, retr] using present)

/-! ## Steps -/

theorem Consistent.closeDataServer (consistent : s.Consistent) : s.closeDataServer.Consistent :=
  consistent.kept (closeDataServer_spares s).calm rfl rfl rfl rfl (fun _ => rfl) id nofun

theorem Consistent.cmdPasv (consistent : s.Consistent) : (s.cmdPasv input).Consistent := by
  have listens (before : FtpSession) (kept : before.Consistent) :
      (before.listen.reply
        (.enteringPassive input.ipNetEndian input.portNetEndian)).Consistent :=
    kept.kept (Spares.calm ⟨rfl, rfl, rfl, rfl⟩) rfl rfl rfl rfl (fun _ => rfl) id id
  unfold FtpSession.cmdPasv
  split
  · exact listens _ consistent.closeDataServer
  · exact listens _ consistent

/-- A transfer begins, and makes all tasks and chunks those of earlier generations. -/
theorem Consistent.begins (consistent : s.Consistent) {final : FtpSession}
    (starts : next.Starts input final) (calm : s.Calm next)
    (xferGen : next.xferGen = s.xferGen + 1) (xferFd : next.xferFd = s.xferFd)
    (xferDir : next.xferDir = s.xferDir) (active : next.xfer ≠ .kNone)
    (opens : next.opens = s.opens) : final.Consistent := by
  have tasks : ∀ task ∈ next.tasks, task.gen < next.xferGen := by
    rw [calm.tasks, xferGen]
    exact fun task member => (consistent.tasks task member).lt_succ
  have chunks (chunk : Chunk) (member : .sendChunkReady chunk ∈ next.queued) :
      chunk.gen < next.xferGen :=
    xferGen ▸ (consistent.chunks chunk (calm.chunks chunk member)).lt_succ
  refine Dating.starts ⟨fun task member => .inl (tasks task member),
    fun chunk member => .inl (chunks chunk member), fun idle => absurd idle active, ?_⟩ tasks chunks
    starts
  rw [Opened, xferFd, xferDir, opens]
  exact consistent.owned

/-- A command keeps the session consistent. -/
theorem Consistent.obeys {line : List UInt8} (consistent : s.Consistent)
    (obeys : s.Obeys line input next) : next.Consistent := by
  cases obeys with
  | chats state text =>
    exact consistent.kept (Spares.calm ⟨rfl, rfl, rfl, rfl⟩) rfl rfl rfl rfl (fun _ => rfl) id id
  | passive => exact consistent.cmdPasv
  | lists longNames _ _ starts =>
    exact consistent.begins starts ⟨rfl, fun _ => id⟩ rfl rfl rfl nofun rfl
  | retrieves arg _ _ starts =>
    exact consistent.begins starts ⟨rfl, fun _ => id⟩ rfl rfl rfl nofun rfl
  | quits =>
    exact consistent.kept (Spares.calm ⟨rfl, rfl, rfl, rfl⟩) rfl rfl rfl rfl (fun _ => rfl) id id

theorem addConnection_opens (s : FtpSession) (server : Nat) :
    (s.addConnection server).opens = s.opens ++ [true] := by
  simp [opens, addConnection, DataConnection.new, DataConnection.Open]

/-- A connection that becomes the data connection finds no handle open. -/
theorem Consistent.accepts {server : Nat} (consistent : s.Consistent)
    (unopened : s.dataConn = none → ¬ s.Opened) (accepts : s.Accepts server input next) :
    next.Consistent := by
  cases accepts with
  | extra taken =>
    refine consistent.kept ⟨rfl, (forceClose_spares (s.addConnection server) _).calm.chunks⟩
      rfl rfl rfl rfl (fun _ => rfl) (fun opened => ?_) connected_extra
    have same : ((s.addConnection server).forceClose s.connections.length).opens =
      (s.addConnection server).opens := map_modify_same _ forceClose_open _ _
    rw [same, addConnection_opens]
    exact List.mem_append_left _ opened
  | first free starts =>
    have strict (gen : Nat) (dated : s.Dated gen) : gen < s.xferGen :=
      dated.resolve_right fun current => unopened free current.2
    have dating : ((s.addConnection server).takeConnection s.connections.length).Dating := by
      refine consistent.toDating.kept ⟨rfl, fun _ => id⟩ rfl rfl rfl rfl (fun _ => rfl)
        fun opened => ?_
      have same : ((s.addConnection server).takeConnection s.connections.length).opens =
        (s.addConnection server).opens := map_modify_same _ (fun _ => by rfl) _ _
      rw [same, addConnection_opens]
      exact List.mem_append_left _ opened
    exact dating.starts (fun task member => strict _ (consistent.tasks task member))
      (fun chunk member => strict _ (consistent.chunks chunk member)) starts

/-- Draining keeps the session consistent. -/
theorem Consistent.drain (consistent : s.Consistent) {id count : Nat} {c : DataConnection}
    (found : s.connections[id]? = some c) : (s.drain id count c).Consistent := by
  obtain ⟨_, state, _⟩ := handleWrite_spec c count
  refine consistent.kept ⟨rfl, fun chunk member => ?_⟩ rfl rfl rfl rfl (fun _ => rfl) ?_
    fun up => (drain_connected found).symm.trans up
  · rw [drain_queued, List.mem_append] at member
    refine member.resolve_right fun new => ?_
    split at new <;> simp at new
  · intro opened
    have same : (s.drain id count c).opens = s.opens :=
      map_set_same _ found (decide_eq_decide.mpr (by
        rw [DataConnection.Open, DataConnection.Open, state]))
    rwa [same]

theorem Consistent.finishTask (consistent : s.Consistent) {index : Nat} {task : DiskTask}
    (found : s.tasks[index]? = some task) (result : DiskResult) :
    (s.finishTask index (task.chunk result)).Consistent := by
  refine ⟨⟨?_, ?_, consistent.cleared, consistent.owned⟩, consistent.started⟩
  · exact fun other member => consistent.tasks other (List.mem_of_mem_eraseIdx member)
  · intro chunk member
    have queue : (s.finishTask index (task.chunk result)).queued =
        s.queued ++ [.sendChunkReady (task.chunk result)] := (List.append_assoc ..).symm
    rw [queue, List.mem_append, List.mem_singleton] at member
    rcases member with before | new
    · exact consistent.chunks chunk before
    · cases new
      rw [chunk_gen]
      exact consistent.tasks task (List.mem_of_getElem? found)

theorem Consistent.pasvTimeout (consistent : s.Consistent) (timer : Nat) :
    (s.pasvTimeout timer).Consistent := by
  have expired : Consistent { s with timers := s.timers.filter (· ≠ timer) } :=
    consistent.kept ⟨rfl, fun _ => id⟩ rfl rfl rfl rfl (fun _ => rfl) id id
  unfold FtpSession.pasvTimeout
  simp only
  split
  · refine Consistent.closeDataServer ?_
    exact expired.kept (reply_spares _ _).calm rfl rfl rfl rfl (fun _ => rfl) id id
  · exact expired

theorem remaining_calm {functor : FtpFunctor} {rest : List FtpFunctor}
    (running : s.functors = some (functor :: rest)) : s.Calm (s.remaining rest) := by
  refine ⟨rfl, fun chunk member => ?_⟩
  rw [queued_remaining running]
  exact List.mem_cons_of_mem _ member

/-- A queued functor keeps the session consistent. -/
theorem Consistent.call {functor : FtpFunctor} (consistent : s.Consistent)
    (done : s.call functor input = some next) : next.Consistent := by
  cases functor with
  | closeDataServer =>
    cases done
    exact consistent.closeDataServer
  | deleteServer server =>
    refine destroyConnections_keeps Consistent ?_ ?_ done
    · intro s id c consistent _ _ _
      exact consistent.lose id server
    · exact consistent.kept ⟨rfl, fun _ => id⟩ rfl rfl rfl rfl (fun _ => rfl) id id
  | sendChunkReady chunk => exact consistent.delivers (sendChunkReady_inv done)
  | writeComplete id bound => exact consistent.requests (writeComplete_inv done)
  | forceCloseInLoop id =>
    rcases forceCloseInLoop_inv done with rfl | ⟨c, _, _, rfl⟩
    · exact consistent
    · exact consistent.lose id c.server

/-- A data connection is taken only when no file and no directory is open. -/
def Fresh (s : FtpSession) : Label → Prop
  | .accept _ _ => s.dataConn = none → ¬ s.Opened
  | _ => True

/-- Every step keeps the generations and handles consistent, if a data connection is taken only
when no file and no directory is open. -/
theorem step_consistent (consistent : s.Consistent) (enabled : s.Enabled label)
    (fresh : s.Fresh label) (done : s.step label = some next) : next.Consistent := by
  cases label with
  | command line input => exact consistent.obeys (handleCommand_inv done)
  | accept server input => exact consistent.accepts fresh (accept_inv done)
  | dataClosed id =>
    obtain ⟨c, _, _, rfl⟩ := handleClose_inv done
    exact consistent.lose id c.server
  | dataWritable id count =>
    obtain ⟨c, found, rfl⟩ := handleWrite_inv done
    exact consistent.drain found
  | timeout timer =>
    cases done
    exact consistent.pasvTimeout timer
  | ctrlForceClose =>
    cases done
    exact consistent.kept ⟨rfl, fun _ => id⟩ rfl rfl rfl rfl (fun _ => rfl) id id
  | ctrlClosed =>
    cases done
    exact consistent.kept ⟨rfl, fun _ => id⟩ rfl rfl rfl rfl (fun _ => rfl) id id
  | taskDone index result =>
    obtain ⟨task, found, rfl⟩ := taskDone_inv done
    exact consistent.finishTask found result
  | beginFunctors =>
    cases done
    exact consistent.kept (beginFunctors_spares enabled).calm rfl rfl rfl rfl (fun _ => rfl) id id
  | runFunctor input =>
    obtain ⟨functor, rest, running, called⟩ := runFunctor_inv done enabled.1
    have remaining : (s.remaining rest).Consistent :=
      consistent.kept (remaining_calm running) rfl rfl rfl rfl (fun _ => rfl) id id
    exact remaining.call called
  | endFunctors =>
    cases done
    exact consistent.kept (endFunctors_spares enabled).calm rfl rfl rfl rfl (fun _ => rfl) id id

/-- There is no transfer at first. -/
theorem initial_consistent : initial.Consistent :=
  ⟨⟨nofun, nofun, fun _ => ⟨by decide, rfl⟩, by decide⟩, nofun⟩

end Steps

end FtpSession

end Moban
