import Moban.FtpServers

/-!
# A session without its later connections

Hiding the connections from some number on gives a session in which they were never accepted:
they are taken out of the connections, and the functors that close them by force out of the
queues. As long as the data connection is an earlier one, no function of the session sees the
difference. Each of them does the same with the later connections hidden.
-/

namespace Moban

/-- The functor does not close a later connection. -/
def FtpFunctor.early (count : Nat) : FtpFunctor → Bool
  | .forceCloseInLoop id => decide (id < count)
  | _ => true

namespace FtpSession

/-- The session without its later connections. -/
def hide (count : Nat) (s : FtpSession) : FtpSession :=
  { s with
    connections := s.connections.take count
    pendingFunctors := s.pendingFunctors.filter (FtpFunctor.early count)
    functors := s.functors.map fun batch => batch.filter (FtpFunctor.early count) }

/-- The data connection is an earlier one. -/
def Early (count : Nat) (s : FtpSession) : Prop := ∀ id, s.dataConn = some id → id < count

section Hidden

variable {s next : FtpSession} {count id : Nat}

/-! ## What is not hidden -/

@[simp] theorem hide_state : (s.hide count).state = s.state := rfl

@[simp] theorem hide_dataServer : (s.hide count).dataServer = s.dataServer := rfl

@[simp] theorem hide_dataConn : (s.hide count).dataConn = s.dataConn := rfl

@[simp] theorem hide_xfer : (s.hide count).xfer = s.xfer := rfl

@[simp] theorem hide_xferDone : (s.hide count).xferDone = s.xferDone := rfl

@[simp] theorem hide_xferGen : (s.hide count).xferGen = s.xferGen := rfl

@[simp] theorem hide_xferDir : (s.hide count).xferDir = s.xferDir := rfl

@[simp] theorem hide_tasks : (s.hide count).tasks = s.tasks := rfl

/-- An earlier connection is not hidden. -/
theorem hide_getElem? (early : id < count) : (s.hide count).connections[id]? = s.connections[id]? :=
  List.getElem?_take_of_lt early

/-- Hiding does not close an earlier connection. -/
theorem hide_isOpen (early : id < count) : (s.hide count).isOpen id = s.isOpen id := by
  rw [isOpen, isOpen, hide_getElem? early]

/-- The data connection is not hidden. -/
theorem hide_conn? (early : s.Early count) : (s.hide count).conn? = s.conn? := by
  unfold conn?
  rw [hide_dataConn]
  cases taken : s.dataConn with
  | none => rfl
  | some id => exact hide_getElem? (early id taken)

/-- The data connection is as connected as before. -/
theorem hide_connected (early : s.Early count) : (s.hide count).connected = s.connected := by
  rw [connected, connected, hide_conn? early]

/-! ## The end of a transfer -/

theorem hide_reply (s : FtpSession) (text : Reply) :
    (s.reply text).hide count = (s.hide count).reply text := rfl

/-- Hiding commutes with an operation on one connection, hidden or not. -/
theorem hide_onConnection (s : FtpSession) (id : Nat)
    (operation : DataConnection → DataConnection) :
    (s.onConnection id operation).hide count = (s.hide count).onConnection id operation := by
  unfold onConnection hide
  simp only [List.take_modify]

/-- Hiding commutes with an operation on the data connection. -/
theorem hide_onData (s : FtpSession) (operation : DataConnection → DataConnection) :
    (s.onData operation).hide count = (s.hide count).onData operation := by
  unfold onData hide
  simp only
  split
  · rfl
  · simp only [List.take_modify]

theorem hide_abortTransfer (s : FtpSession) :
    s.abortTransfer.hide count = (s.hide count).abortTransfer :=
  hide_onData _ _

theorem hide_endReply (s : FtpSession) : s.endReply.hide count = (s.hide count).endReply := by
  unfold endReply
  rw [hide_xfer]
  split <;> rfl

theorem hide_sendDataEndReply (s : FtpSession) :
    s.sendDataEndReply.hide count = (s.hide count).sendDataEndReply := by
  rw [sendDataEndReply, sendDataEndReply, hide_abortTransfer, ← hide_endReply]
  rfl

/-- The functor that deletes the server is not hidden. -/
theorem hide_closeDataServer (s : FtpSession) :
    s.closeDataServer.hide count = (s.hide count).closeDataServer := by
  unfold closeDataServer hide
  simp only
  split
  · rfl
  · simp [FtpFunctor.early]

/-- Only the data connection is closed by force, and it is an earlier one. -/
theorem hide_forceClosed (early : s.Early count) : (s.hide count).forceClosed = s.forceClosed ∧
      s.forceClosed.filter (FtpFunctor.early count) = s.forceClosed := by
  unfold forceClosed
  rw [hide_dataConn]
  cases taken : s.dataConn with
  | none => exact ⟨rfl, rfl⟩
  | some id =>
    have known := early id taken
    simp only [hide_isOpen known]
    refine ⟨trivial, ?_⟩
    split
    · simp [FtpFunctor.early, known]
    · rfl

/-- The functors queued here are about the data connection. -/
theorem hide_shutDownData (early : s.Early count) :
    s.shutDownData.hide count = (s.hide count).shutDownData := by
  obtain ⟨same, kept⟩ := hide_forceClosed early
  have connections : (s.onData DataConnection.forceClose).connections.take count =
      ((s.hide count).onData DataConnection.forceClose).connections :=
    congrArg FtpSession.connections (hide_onData s DataConnection.forceClose)
  have server : (s.hide count).transferServer = s.transferServer := by
    rw [transferServer, transferServer, hide_conn? early]
  unfold shutDownData
  rw [same, server, ← connections]
  unfold hide
  simp [kept, FtpFunctor.early]

/-- A transfer is given up in the same way. -/
theorem hide_giveUp (early : s.Early count) (text : Reply) :
    (s.giveUp text).hide count = (s.hide count).giveUp text := by
  have still : (s.reply text).abortTransfer.Early count := early
  rw [giveUp, giveUp, hide_shutDownData still, hide_abortTransfer, hide_reply]

theorem hide_finished (s : FtpSession) : s.finished.hide count = (s.hide count).finished :=
  hide_onData _ _

theorem hide_finish (s : FtpSession) : s.finish.map (hide count) = (s.hide count).finish := by
  unfold finish
  rw [hide_dataConn, ← hide_finished]
  split <;> rfl

/-! ## The pump -/

/-- The same notification is queued. -/
theorem hide_notified (early : s.Early count) (bytes : List UInt8) (input : FtpInput) :
    (s.hide count).notified bytes input = s.notified bytes input := by
  rw [notified, notified, hide_conn? early, hide_dataConn]

/-- The same bytes are sent and the same notification is queued. -/
theorem hide_sendData (early : s.Early count) (bytes : List UInt8) (input : FtpInput) :
    (s.sendData bytes input).hide count = (s.hide count).sendData bytes input := by
  have connections : ((s.hide count).onData fun c =>
      (c.send bytes input.nwrote input.faultError).1).connections =
      (s.onData fun c => (c.send bytes input.nwrote input.faultError).1).connections.take count :=
    (congrArg FtpSession.connections (hide_onData s _)).symm
  have kept : (s.notified bytes input).filter (FtpFunctor.early count) =
      s.notified bytes input := by
    refine List.filter_eq_self.mpr fun functor member => ?_
    obtain ⟨_, _, rfl⟩ := notified_inv member
    rfl
  unfold sendData
  rw [hide_notified early, connections]
  unfold hide
  simp [kept]

/-- A chunk from the disk is sent, ignored or refused in the same way. -/
theorem hide_sendChunkReady (early : s.Early count) (chunk : Chunk) (input : FtpInput) :
    (s.sendChunkReady chunk input).map (hide count) =
      (s.hide count).sendChunkReady chunk input := by
  unfold sendChunkReady
  rw [hide_connected early]
  simp only [apply_ite (Option.map (hide count)), Option.map_some, hide_xfer, hide_xferGen,
    hide_giveUp early, hide_finish, hide_sendData early]
  rfl

/-- The disk pool is asked for the same work. -/
theorem hide_submit (early : s.Early count) (work : DiskWork) (input : FtpInput) :
    (s.submit work input).hide count = (s.hide count).submit work input := by
  unfold submit
  split
  · rfl
  · exact hide_giveUp early .localError

/-- The pump asks for the same chunk. -/
theorem hide_requestNextChunk (early : s.Early count) (input : FtpInput) :
    (s.requestNextChunk input).map (hide count) = (s.hide count).requestNextChunk input := by
  unfold requestNextChunk
  rw [hide_connected early, hide_xfer]
  split
  · rfl
  · split
    · rfl
    · exact congrArg some (hide_submit (s := { s with
        nextReadOffset := s.nextReadOffset + kReadChunkSize }) early _ input)
    · unfold requestNames
      rw [hide_xferDir]
      split
      · rfl
      · split
        · exact hide_sendChunkReady early _ input
        · exact congrArg some (hide_submit early _ input)

/-- A transfer starts in the same way. -/
theorem hide_tryStartTransfer (early : s.Early count) (input : FtpInput) :
    (s.tryStartTransfer input).map (hide count) = (s.hide count).tryStartTransfer input := by
  unfold tryStartTransfer
  rw [hide_connected early, hide_xfer]
  split
  · rfl
  · split
    · have told : ((s.openHandle input).reply
          (if s.xfer = .kRetr then .failedToOpen else .failedToList)).Early count := early
      exact congrArg some (hide_shutDownData told)
    · exact hide_requestNextChunk (s := s.openHandle input) early input

theorem hide_writeCompleteCallback (early : s.Early count) (input : FtpInput) :
    (s.writeCompleteCallback input).map (hide count) =
      (s.hide count).writeCompleteCallback input := by
  unfold writeCompleteCallback
  rw [hide_xfer]
  split
  · exact hide_requestNextChunk early input
  · rfl

/-- A notification of an earlier connection pumps in the same way. -/
theorem hide_writeComplete (early : s.Early count) (known : id < count) (bound : Bool)
    (input : FtpInput) :
    (s.writeComplete id bound input).map (hide count) =
      (s.hide count).writeComplete id bound input := by
  unfold writeComplete
  rw [hide_getElem? known, ← hide_writeCompleteCallback early]
  cases s.connections[id]? with
  | none => rfl
  | some c => by_cases calls : bound = true ∨ c.writeCompleteCallback = true <;> simp [guard, calls]

/-! ## Data connections -/

/-- The loss of any connection ends the same transfer. -/
theorem hide_lose (s : FtpSession) (id server : Nat) :
    (s.lose id server).hide count = (s.hide count).lose id server := by
  have ends (s : FtpSession) : s.endTransfer.hide count = (s.hide count).endTransfer := by
    unfold endTransfer
    rw [hide_xfer, hide_xferDone, ← hide_sendDataEndReply, ← hide_abortTransfer]
    split <;> rfl
  unfold lose handleDataDown
  rw [← hide_onConnection, ← ends]
  simp [queueInLoop, hide, FtpFunctor.early]

/-- An earlier connection closes in the same way. -/
theorem hide_handleClose (s : FtpSession) (known : id < count) :
    (s.handleClose id).map (hide count) = (s.hide count).handleClose id := by
  unfold handleClose
  rw [hide_getElem? known]
  cases s.connections[id]? with
  | none => rfl
  | some c => by_cases opened : c.Open <;> simp [guard, opened, hide_lose]

/-- An earlier connection is closed by force in the same way. -/
theorem hide_forceCloseInLoop (s : FtpSession) (known : id < count) :
    (s.forceCloseInLoop id).map (hide count) = (s.hide count).forceCloseInLoop id := by
  unfold forceCloseInLoop
  rw [hide_getElem? known, ← hide_handleClose s known]
  cases s.connections[id]? with
  | none => rfl
  | some c => by_cases opened : c.Open <;> simp [opened]

/-- An earlier connection drains in the same way. -/
theorem hide_handleWrite (s : FtpSession) (known : id < count) (bytes : Nat) :
    (s.handleWrite id bytes).map (hide count) = (s.hide count).handleWrite id bytes := by
  have drains (c : DataConnection) :
      (s.drain id bytes c).hide count = (s.hide count).drain id bytes c := by
    unfold drain hide
    simp only [List.take_set]
    split
    · simp [FtpFunctor.early]
    · rfl
  unfold handleWrite
  rw [hide_getElem? known]
  cases s.connections[id]? with
  | none => rfl
  | some c => exact congrArg some (drains c)

/-! ## Commands and the other events -/

/-- A new data server is opened in the same way. -/
theorem hide_cmdPasv (s : FtpSession) (input : FtpInput) :
    (s.cmdPasv input).hide count = (s.hide count).cmdPasv input := by
  unfold cmdPasv
  rw [hide_dataServer, ← hide_closeDataServer]
  split <;> rfl

/-- The check of the login does not look at connections. -/
theorem hide_requireLogin {action : FtpSession → Option FtpSession}
    (same : (action s).map (hide count) = action (s.hide count)) :
    (s.requireLogin action).map (hide count) = (s.hide count).requireLogin action := by
  unfold requireLogin
  rw [hide_state]
  split
  · exact same
  · rfl

theorem hide_cmdList (early : s.Early count) (longNames : Bool) (input : FtpInput) :
    (s.cmdList longNames input).map (hide count) = (s.hide count).cmdList longNames input := by
  have begun : ((s.beginList longNames).cancel.reply .directoryListing).Early count := early
  unfold cmdList
  rw [hide_dataServer]
  split
  · rfl
  · exact hide_tryStartTransfer begun input

theorem hide_cmdRetr (early : s.Early count) (arg : List UInt8) (input : FtpInput) :
    (s.cmdRetr arg input).map (hide count) = (s.hide count).cmdRetr arg input := by
  have begun : ((s.beginRetr ([46, 47] ++ arg)).cancel.reply .openingBinary).Early count := early
  have starts := hide_tryStartTransfer begun input
  unfold cmdRetr
  simp only [apply_ite (Option.map (hide count)), starts]
  rfl

/-- Every command is obeyed in the same way.

Proof: one case for each command. -/
theorem hide_handleCommand (early : s.Early count) (line : List UInt8) (input : FtpInput) :
    (s.handleCommand line input).map (hide count) = (s.hide count).handleCommand line input := by
  unfold handleCommand execute
  cases FtpCommand.parse line with
  | user | syst | quit | unknown => rfl
  | pass =>
    unfold cmdPass
    rw [hide_state]
    by_cases asked : s.state ≠ .kNeedPass
    · simp only [if_pos asked]
      rfl
    · simp only [if_neg asked]
      rfl
  | pwd | type => exact hide_requireLogin rfl
  | pasv => exact hide_requireLogin (congrArg some (hide_cmdPasv s input))
  | list longNames => exact hide_requireLogin (hide_cmdList early longNames input)
  | retr arg => exact hide_requireLogin (hide_cmdRetr early arg input)

/-- The timer finds the same server and transfer. -/
theorem hide_pasvTimeout (s : FtpSession) (timer : Nat) :
    (s.pasvTimeout timer).hide count = (s.hide count).pasvTimeout timer := by
  unfold pasvTimeout
  simp only [apply_ite (hide count), hide_dataServer, hide_xfer, hide_dataConn,
    hide_closeDataServer, hide_reply]
  rfl

/-- The task that is done queues the same chunk. -/
theorem hide_taskDone (s : FtpSession) (index : Nat) (result : DiskResult) :
    (s.taskDone index result).map (hide count) = (s.hide count).taskDone index result := by
  unfold taskDone
  rw [hide_tasks]
  cases s.tasks[index]? with
  | none => rfl
  | some task => simp [finishTask, hide, FtpFunctor.early]

end Hidden

end FtpSession

end Moban
