import Moban.FtpInvariant

/-!
# Data servers and what they leave behind

A data server that is closed leaves things behind for a while: its deletion is queued, its
connections are open until then, and notifications of these connections may be queued as well.
When every connection is accepted by the current data server and becomes the data connection, all
of this is gone before a connection is accepted again. For as long as the deletion of a server
is queued, there is no current server that the poller knows: the next one is made by a command,
and the poller is asked about it after the functors have run.
-/

namespace Moban

open Runs

/-- The functor closes the data server because of the data connection, or is about the data
connection itself. -/
def FtpFunctor.Concerns (dataConn server : Option Nat) : FtpFunctor → Prop
  | .closeDataServer cause => cause = server
  | .forceCloseInLoop id | .writeComplete id _ => dataConn = some id
  | _ => False

namespace FtpSession

/-- The poller does not know the current data server, if there is one. -/
def Deaf (s : FtpSession) : Prop := ∀ server, s.dataServer = some server → s.polledServers ≤ server

/-- A connection is accepted by the current data server, and becomes the data connection. -/
def Alone (s : FtpSession) : Label → Prop
  | .accept server _ => s.dataServer = some server ∧ s.dataConn = none
  | _ => True

instance (s : FtpSession) : DecidablePred s.Alone
  | .accept .. => instDecidableAnd
  | .command .. | .dataClosed _ | .dataWritable .. | .timeout _ | .ctrlForceClose | .ctrlClosed
  | .taskDone .. | .beginFunctors | .runFunctor _ | .endFunctors => instDecidableTrue

/-- The data connection belongs to the current data server. Any other open connection belongs to
a server whose deletion is queued, or to the exempted one. Until the deletion and the
notifications of closed servers have run, the poller knows no current server. -/
structure Serving (exempt : Option Nat) (s : FtpSession) : Prop where
  numbered : s.polledServers ≤ s.numServers
  server : ∀ id, s.dataConn = some id → ∃ c, s.connections[id]? = some c ∧
    s.dataServer = some c.server ∧ c.server < s.polledServers
  leaving : ∀ id c, s.connections[id]? = some c → c.Open →
    s.dataConn = some id ∨ .deleteServer c.server ∈ s.queued ∨ exempt = some c.server
  deaf : ∀ server, .deleteServer server ∈ s.queued → s.Deaf
  notified : ∀ id bound, .writeComplete id bound ∈ s.queued → s.dataConn.isSome = true ∨ s.Deaf
  pendingDeaf : s.functors.isSome = true →
    ∀ server, .deleteServer server ∈ s.pendingFunctors → s.dataServer = none
  pendingNotified : s.functors.isSome = true → ∀ id bound,
    .writeComplete id bound ∈ s.pendingFunctors → s.dataConn.isSome = true ∨ s.dataServer = none

/-- No connection is new, and none is opened or established again. -/
structure Ages (s next : FtpSession) : Prop where
  length : next.connections.length = s.connections.length
  entry : ∀ (id : Nat) (c : DataConnection), next.connections[id]? = some c →
    ∃ before : DataConnection, s.connections[id]? = some before ∧ before.server = c.server ∧
      (c.Open → before.Open) ∧ (c.connected = true → before.connected = true)

/-- Connections grow old, and functors are queued. -/
structure Keeps (s next : FtpSession) (more : List FtpFunctor) : Prop where
  ages : s.Ages next
  dataConn : next.dataConn = s.dataConn
  dataServer : next.dataServer = s.dataServer
  numServers : next.numServers = s.numServers
  polledServers : next.polledServers = s.polledServers
  functors : next.functors = s.functors
  pending : next.pendingFunctors = s.pendingFunctors ++ more

/-- What the functions of a transfer do: every connection that was open stays open, and the
functors that are queued concern the data connection. -/
structure Works (s next : FtpSession) (more : List FtpFunctor) : Prop extends
    s.Keeps next more where
  opens : next.opens = s.opens
  polledConnections : next.polledConnections = s.polledConnections
  concerns : ∀ functor ∈ more, functor.Concerns s.dataConn s.transferServer

/-- The functor is neither the deletion of a server nor a notification. -/
def Quiet (more : List FtpFunctor) : Prop :=
  (∀ server, .deleteServer server ∉ more) ∧ ∀ id bound, .writeComplete id bound ∉ more

section Steps

variable {s middle next : FtpSession} {input : FtpInput} {label : Label} {exempt : Option Nat}
  {more : List FtpFunctor} {functor : FtpFunctor} {c : DataConnection}

/-! ## Connections that grow old -/

theorem Ages.of_eq (same : next.connections = s.connections) : s.Ages next :=
  ⟨congrArg List.length same, fun _ c found => ⟨c, same ▸ found, rfl, id, id⟩⟩

theorem Ages.trans (first : s.Ages middle) (second : middle.Ages next) : s.Ages next := by
  refine ⟨second.length.trans first.length, fun id c found => ?_⟩
  obtain ⟨between, foundBetween, serverBetween, openBetween, upBetween⟩ := second.entry id c found
  obtain ⟨before, foundBefore, serverBefore, openBefore, upBefore⟩ :=
    first.entry id between foundBetween
  exact ⟨before, foundBefore, serverBefore.trans serverBetween,
    fun opened => openBefore (openBetween opened), fun up => upBefore (upBetween up)⟩

/-- A connection that was there is still there. -/
theorem Ages.survives (ages : s.Ages next) {id : Nat} {before : DataConnection}
    (found : s.connections[id]? = some before) :
    ∃ c, next.connections[id]? = some c ∧ c.server = before.server := by
  obtain ⟨bound, _⟩ := List.getElem?_eq_some_iff.mp found
  have there : id < next.connections.length := ages.length ▸ bound
  obtain ⟨same, foundSame, server, _⟩ := ages.entry id _ (List.getElem?_eq_getElem there)
  cases found.symm.trans foundSame
  exact ⟨_, List.getElem?_eq_getElem there, server.symm⟩

section Operations

variable (operation : DataConnection → DataConnection)
  (server : ∀ c, (operation c).server = c.server) (closes : ∀ c, (operation c).Open → c.Open)
  (falls : ∀ c, (operation c).connected = true → c.connected = true)

include server closes falls in
/-- An operation on one connection that keeps its server and does not reopen it. -/
theorem modify_ages {id : Nat}
    (connections : next.connections = s.connections.modify id operation) : s.Ages next := by
  refine ⟨by rw [connections, List.length_modify], fun other c found => ?_⟩
  rw [connections, List.getElem?_modify] at found
  cases before : s.connections[other]? with
  | none => simp [before] at found
  | some entry =>
    refine ⟨entry, rfl, ?_⟩
    by_cases here : id = other
    · have same : operation entry = c := by simpa [before, here] using found
      rw [← same]
      exact ⟨(server entry).symm, closes entry, falls entry⟩
    · have same : entry = c := by simpa [before, here] using found
      rw [← same]
      exact ⟨rfl, fun opened => opened, fun up => up⟩

include server closes falls in
theorem onData_ages (connections : next.connections = (s.onData operation).connections) :
    s.Ages next := by
  unfold onData at connections
  cases taken : s.dataConn with
  | none => exact .of_eq (by simpa [taken] using connections)
  | some id => exact modify_ages operation server closes falls (by simpa [taken] using connections)

end Operations

theorem Keeps.queued (keeps : s.Keeps next more) : next.queued = s.queued ++ more := by
  rw [FtpSession.queued, FtpSession.queued, keeps.functors, keeps.pending, List.append_assoc]

/-- The poller knows the current server, or does not, as before. -/
theorem Keeps.deaf (keeps : s.Keeps next more) : next.Deaf ↔ s.Deaf := by
  rw [Deaf, Deaf, keeps.dataServer, keeps.polledServers]

/-- The data connection still belongs to the same server. -/
theorem Keeps.transferServer (keeps : s.Keeps next more) :
    next.transferServer = s.transferServer := by
  unfold FtpSession.transferServer conn?
  rw [keeps.dataConn]
  cases s.dataConn with
  | none => rfl
  | some id =>
    simp only [Option.bind_some]
    cases found : next.connections[id]? with
    | some c =>
      obtain ⟨before, there, server, _⟩ := keeps.ages.entry id c found
      simp [there, server]
    | none =>
      cases there : s.connections[id]? with
      | none => rfl
      | some before =>
        obtain ⟨_, survives, _⟩ := keeps.ages.survives there
        simp [found] at survives

theorem Keeps.trans {first second : List FtpFunctor}
    (early : s.Keeps middle first) (late : middle.Keeps next second) :
    s.Keeps next (first ++ second) :=
  ⟨early.ages.trans late.ages, late.dataConn.trans early.dataConn,
    late.dataServer.trans early.dataServer, late.numServers.trans early.numServers,
    late.polledServers.trans early.polledServers, late.functors.trans early.functors,
    by rw [late.pending, early.pending, List.append_assoc]⟩

/-- Nothing but the connections and the functors changes. A notification that is queued does not
outlive its data server. -/
theorem Serving.kept (serving : s.Serving exempt)
    (keeps : s.Keeps next more) (deletes : ∀ server, .deleteServer server ∉ more)
    (notifies : ∀ id bound, .writeComplete id bound ∈ more →
      (s.dataConn.isSome = true ∨ s.Deaf) ∧
        (s.functors.isSome = true → s.dataConn.isSome = true ∨ s.dataServer = none)) :
    next.Serving exempt where
  numbered := by
    rw [keeps.polledServers, keeps.numServers]
    exact serving.numbered
  server := by
    rw [keeps.dataConn, keeps.dataServer, keeps.polledServers]
    intro id taken
    obtain ⟨before, found, current, known⟩ := serving.server id taken
    obtain ⟨c, there, server⟩ := keeps.ages.survives found
    exact ⟨c, there, server ▸ current, server ▸ known⟩
  leaving := by
    rw [keeps.dataConn, keeps.queued]
    intro id c found opened
    obtain ⟨before, foundBefore, server, closes, _⟩ := keeps.ages.entry id c found
    refine (serving.leaving id before foundBefore (closes opened)).imp_right ?_
    rw [server]
    exact Or.imp_left (List.mem_append_left _)
  deaf := by
    rw [keeps.queued, keeps.deaf]
    intro server member
    exact serving.deaf server ((List.mem_append.mp member).resolve_right (deletes server))
  notified := by
    rw [keeps.queued, keeps.dataConn, keeps.deaf]
    intro id bound member
    rcases List.mem_append.mp member with before | new
    · exact serving.notified id bound before
    · exact (notifies id bound new).1
  pendingDeaf := by
    rw [keeps.functors, keeps.pending, keeps.dataServer]
    intro running server member
    exact serving.pendingDeaf running server
      ((List.mem_append.mp member).resolve_right (deletes server))
  pendingNotified := by
    rw [keeps.functors, keeps.pending, keeps.dataConn, keeps.dataServer]
    intro running id bound member
    rcases List.mem_append.mp member with before | new
    · exact serving.pendingNotified running id bound before
    · exact (notifies id bound new).2 running

/-- Functors that neither delete nor notify keep the servers in order. -/
theorem Serving.quiet (serving : s.Serving exempt)
    (keeps : s.Keeps next more) (quiet : Quiet more) : next.Serving exempt :=
  serving.kept keeps quiet.1 fun id bound member => absurd member (quiet.2 id bound)

/-! ## What the functions keep -/

theorem Quiet.nil : Quiet [] := ⟨nofun, nofun⟩

theorem Keeps.of_eq (connections : next.connections = s.connections)
    (dataConn : next.dataConn = s.dataConn) (dataServer : next.dataServer = s.dataServer)
    (numServers : next.numServers = s.numServers)
    (polledServers : next.polledServers = s.polledServers) (functors : next.functors = s.functors)
    (pending : next.pendingFunctors = s.pendingFunctors) : s.Keeps next [] :=
  ⟨.of_eq connections, dataConn, dataServer, numServers, polledServers, functors,
    by rw [pending, List.append_nil]⟩

theorem abortTransfer_keeps (s : FtpSession) : s.Keeps s.abortTransfer [] :=
  ⟨onData_ages (fun c => c.setWriteCompleteCallback false) (fun _ => rfl) (fun _ opened => opened)
    (fun _ up => up) rfl, rfl, rfl, rfl, rfl, rfl, (List.append_nil _).symm⟩

theorem forceClose_server (c : DataConnection) : c.forceClose.server = c.server := by
  unfold DataConnection.forceClose
  split <;> rfl

theorem shutdown_server (c : DataConnection) : c.shutdown.server = c.server := by
  unfold DataConnection.shutdown
  split <;> rfl

theorem finished_keeps (s : FtpSession) : s.Keeps s.finished [] :=
  ⟨onData_ages DataConnection.shutdown shutdown_server
    (fun c opened => by simpa [shutdown_open c] using decide_eq_true opened) shutdown_falls rfl,
    rfl, rfl, rfl, rfl, rfl, (List.append_nil _).symm⟩

theorem shutDownData_keeps (s : FtpSession) :
    s.Keeps s.shutDownData (s.forceClosed ++ [.closeDataServer s.transferServer]) :=
  ⟨onData_ages DataConnection.forceClose forceClose_server
    (fun c opened => by simpa [forceClose_open c] using decide_eq_true opened) forceClose_falls rfl,
    rfl, rfl, rfl, rfl, rfl, List.append_assoc ..⟩

/-- Only the data connection is closed by force. -/
theorem forceClosed_inv (member : functor ∈ s.forceClosed) :
    ∃ id, s.dataConn = some id ∧ functor = .forceCloseInLoop id := by
  unfold forceClosed at member
  split at member
  · simp at member
  case h_2 id taken =>
    split at member
    · exact ⟨id, taken, List.mem_singleton.mp member⟩
    · simp at member

theorem endTransfer_keeps (s : FtpSession) : s.Keeps s.endTransfer [] := by
  rcases s.endTransfer_cases with ⟨_, _, aborted⟩ | ⟨_, completed⟩
  · rw [aborted]
    exact (abortTransfer_keeps s).trans (.of_eq rfl rfl rfl rfl rfl rfl rfl)
  · have told : s.Keeps s.endReply.cancel [] := by
      unfold endReply
      split <;> exact .of_eq rfl rfl rfl rfl rfl rfl rfl
    rw [completed]
    exact told.trans (abortTransfer_keeps _)

theorem lose_keeps (s : FtpSession) (id server : Nat) :
    s.Keeps (s.lose id server) [.closeDataServer (some server)] := by
  have closed : s.Keeps (s.onConnection id DataConnection.close) [] :=
    ⟨modify_ages DataConnection.close (fun _ => rfl)
      (by simp [DataConnection.Open, DataConnection.close]) (fun _ => nofun) rfl,
      rfl, rfl, rfl, rfl, rfl, (List.append_nil _).symm⟩
  refine (closed.trans (endTransfer_keeps _)).trans ⟨.of_eq rfl, rfl, rfl, rfl, rfl, rfl, rfl⟩

/-- A lost connection is closed. -/
theorem lose_closed {id server : Nat}
    (found : (s.lose id server).connections[id]? = some c) : ¬ c.Open := by
  have ages : (s.onConnection id DataConnection.close).Ages (s.lose id server) :=
    (endTransfer_keeps _).ages.trans (.of_eq rfl)
  obtain ⟨before, there, _, closes, _⟩ := ages.entry id c found
  have closed : (s.connections.modify id DataConnection.close)[id]? = some before := there
  obtain ⟨entry, _, rfl⟩ : ∃ entry, s.connections[id]? = some entry ∧ entry.close = before := by
    simpa [List.getElem?_modify] using closed
  intro opened
  have still := closes opened
  simp [DataConnection.Open, DataConnection.close] at still

/-- A lost connection asks for its own server to be closed. -/
theorem Serving.lose (serving : s.Serving exempt) (id server : Nat) :
    (s.lose id server).Serving exempt :=
  serving.quiet (lose_keeps s id server) ⟨by simp, by simp⟩

theorem sendData_keeps (s : FtpSession) (bytes : List UInt8) (input : FtpInput) :
    s.Keeps (s.sendData bytes input) (s.notified bytes input) :=
  ⟨onData_ages (fun c => (c.send bytes input.nwrote input.faultError).1)
    (fun c => (send_same c bytes input.nwrote input.faultError).1)
    (fun c opened => by
      simpa [send_open c bytes input.nwrote input.faultError] using decide_eq_true opened)
    (send_falls bytes input.nwrote input.faultError) rfl,
    rfl, rfl, rfl, rfl, rfl, rfl⟩

/-- Only the data connection notifies of a chunk. -/
theorem notified_inv {bytes : List UInt8} (member : functor ∈ s.notified bytes input) :
    ∃ id, s.dataConn = some id ∧ functor = .writeComplete id true := by
  unfold notified at member
  split at member
  case h_1 id c taken _ =>
    split at member
    · exact ⟨id, taken, List.mem_singleton.mp member⟩
    · simp at member
  · simp at member

/-! ## What the functions of a transfer do -/

theorem Works.same (connections : next.connections = s.connections)
    (dataConn : next.dataConn = s.dataConn) (dataServer : next.dataServer = s.dataServer)
    (numServers : next.numServers = s.numServers)
    (polledServers : next.polledServers = s.polledServers) (functors : next.functors = s.functors)
    (pending : next.pendingFunctors = s.pendingFunctors)
    (polledConnections : next.polledConnections = s.polledConnections) : s.Works next [] :=
  ⟨.of_eq connections dataConn dataServer numServers polledServers functors pending,
    congrArg (List.map fun c : DataConnection => decide c.Open) connections, polledConnections,
    nofun⟩

theorem Works.trans {first second : List FtpFunctor}
    (early : s.Works middle first) (late : middle.Works next second) :
    s.Works next (first ++ second) := by
  refine ⟨early.toKeeps.trans late.toKeeps, late.opens.trans early.opens,
    late.polledConnections.trans early.polledConnections, fun functor member => ?_⟩
  rcases List.mem_append.mp member with before | after
  · exact early.concerns functor before
  · have concerns := late.concerns functor after
    rwa [early.dataConn, early.toKeeps.transferServer] at concerns

theorem abortTransfer_works (s : FtpSession) : s.Works s.abortTransfer [] :=
  ⟨abortTransfer_keeps s,
    map_onData _ (fun _ => by rfl) _, rfl, nofun⟩

theorem finished_works (s : FtpSession) : s.Works s.finished [] :=
  ⟨finished_keeps s, finished_opens s, rfl, nofun⟩

theorem shutDownData_works (s : FtpSession) :
    s.Works s.shutDownData (s.forceClosed ++ [.closeDataServer s.transferServer]) := by
  refine ⟨shutDownData_keeps s, shutDownData_opens s, rfl, fun functor member => ?_⟩
  rcases List.mem_append.mp member with forced | closes
  · obtain ⟨id, taken, rfl⟩ := forceClosed_inv forced
    exact taken
  · rw [List.mem_singleton.mp closes]
    exact rfl

theorem sendData_works (s : FtpSession) (bytes : List UInt8) (input : FtpInput) :
    s.Works (s.sendData bytes input) (s.notified bytes input) := by
  refine ⟨sendData_keeps s bytes input,
    map_onData _ (fun c => send_open c bytes input.nwrote input.faultError) s, rfl,
    fun functor member => ?_⟩
  obtain ⟨id, taken, rfl⟩ := notified_inv member
  exact taken

/-- Giving up is work on the transfer. -/
theorem giveUp_works (s : FtpSession) (text : Reply) : ∃ more, s.Works (s.giveUp text) more := by
  have told : s.Works (s.reply text) [] := .same rfl rfl rfl rfl rfl rfl rfl rfl
  exact ⟨_, (told.trans (abortTransfer_works _)).trans (shutDownData_works _)⟩

/-- The pump is work on the transfer. -/
theorem Requests.works (requests : s.Requests input next) : ∃ more, s.Works next more := by
  cases requests with
  | idle => exact ⟨_, .same rfl rfl rfl rfl rfl rfl rfl rfl⟩
  | reads => exact ⟨_, .same rfl rfl rfl rfl rfl rfl rfl rfl⟩
  | lists => exact ⟨_, .same rfl rfl rfl rfl rfl rfl rfl rfl⟩
  | ends => exact ⟨_, finished_works s⟩
  | rejected => exact giveUp_works s .localError

/-- The delivery of a chunk is work on the transfer. -/
theorem Delivers.works {chunk : Chunk} (delivers : s.Delivers chunk input next) :
    ∃ more, s.Works next more := by
  cases delivers with
  | stale => exact ⟨_, .same rfl rfl rfl rfl rfl rfl rfl rfl⟩
  | fails => exact giveUp_works s _
  | ends => exact ⟨_, finished_works s⟩
  | dropped => exact ⟨_, .same rfl rfl rfl rfl rfl rfl rfl rfl⟩
  | sends => exact ⟨_, sendData_works s chunk.bytes input⟩
  | sendsLast => exact ⟨_, (sendData_works s chunk.bytes input).trans (finished_works _)⟩

/-- The start is work on the transfer. -/
theorem Starts.works (starts : s.Starts input next) : ∃ more, s.Works next more := by
  have handle : s.Works (s.openHandle input) [] := .same rfl rfl rfl rfl rfl rfl rfl rfl
  cases starts with
  | waits => exact ⟨_, .same rfl rfl rfl rfl rfl rfl rfl rfl⟩
  | refused =>
    have told : (s.openHandle input).Works ((s.openHandle input).reply
        (if s.xfer = .kRetr then .failedToOpen else .failedToList)) [] :=
      .same rfl rfl rfl rfl rfl rfl rfl rfl
    exact ⟨_, (handle.trans told).trans (shutDownData_works _)⟩
  | pumps _ _ _ requests =>
    obtain ⟨_, works⟩ := requests.works
    exact ⟨_, handle.trans works⟩

/-- Work on a transfer keeps the servers in order. -/
theorem Serving.works (serving : s.Serving exempt) (works : ∃ more, s.Works next more) :
    next.Serving exempt := by
  obtain ⟨more, works⟩ := works
  refine serving.kept works.toKeeps (fun server member => works.concerns _ member) ?_
  intro id bound member
  have taken : s.dataConn = some id := works.concerns _ member
  exact ⟨.inl (by simp [taken]), fun _ => .inl (by simp [taken])⟩

/-! ## Servers that are closed and made -/

/-- The server is deleted later, by a functor. -/
theorem closeDataServer_queued (s : FtpSession) :
    s.closeDataServer.queued = s.queued ++ (s.dataServer.map FtpFunctor.deleteServer).toList := by
  unfold closeDataServer queued
  cases s.dataServer <;> simp

/-- A data connection means a current server that the poller knows. -/
theorem Serving.hears (serving : s.Serving exempt) (taken : s.dataConn.isSome = true) :
    ¬ s.Deaf := by
  obtain ⟨id, found⟩ := Option.isSome_iff_exists.mp taken
  obtain ⟨c, _, current, known⟩ := serving.server id found
  intro deaf
  have := deaf c.server current
  omega

/-- The data server is closed: its deletion is queued, and there is no current server. -/
theorem Serving.closeDataServer (serving : s.Serving exempt) :
    s.closeDataServer.Serving exempt := by
  have deaf : s.closeDataServer.Deaf := nofun
  have queue : ∀ functor ∈ s.queued, functor ∈ s.closeDataServer.queued := by
    intro functor member
    unfold FtpSession.closeDataServer queued at *
    simp only
    rcases List.mem_append.mp member with batch | pending
    · exact List.mem_append_left _ batch
    · refine List.mem_append_right _ ?_
      split
      · exact pending
      · exact List.mem_append_left _ pending
  refine ⟨serving.numbered, nofun, ?_, fun _ _ => deaf, fun _ _ _ => .inr deaf,
    fun _ _ _ => rfl, fun _ _ _ _ => .inr rfl⟩
  intro id c found opened
  rcases serving.leaving id c found opened with taken | deleted | exempted
  · obtain ⟨same, there, current, _⟩ := serving.server id taken
    cases found.symm.trans there
    refine .inr (.inl (List.mem_append_right _ ?_))
    simp [FtpSession.closeDataServer, current]
  · exact .inr (.inl (queue _ deleted))
  · exact .inr (.inr exempted)

/-- A new data server is made by a command, and the poller does not know it yet. -/
theorem Serving.listen (serving : s.Serving exempt) (idle : s.functors = none)
    (free : s.dataConn = none) : s.listen.Serving exempt := by
  have deaf : s.listen.Deaf := by
    intro server current
    obtain rfl : s.numServers = server := Option.some.inj current
    exact serving.numbered
  have quiet : ¬ s.functors.isSome = true := by simp [idle]
  exact
    { numbered := serving.numbered.trans (Nat.le_succ _)
      server := fun id taken => absurd (free.symm.trans taken) (by simp)
      leaving := serving.leaving
      deaf := fun _ _ => deaf
      notified := fun _ _ _ => .inr deaf
      pendingDeaf := fun running => absurd running quiet
      pendingNotified := fun running => absurd running quiet }

/-- A second `PASV` has the old server deleted and makes a new one. -/
theorem Serving.cmdPasv (serving : s.Serving exempt) (idle : s.functors = none) :
    (s.cmdPasv input).Serving exempt := by
  have told (before : FtpSession) (listens : before.listen.Serving exempt) :
      (before.listen.reply (.enteringPassive input.ipNetEndian input.portNetEndian)).Serving
        exempt :=
    listens.quiet (.of_eq rfl rfl rfl rfl rfl rfl rfl) .nil
  unfold FtpSession.cmdPasv
  split
  · exact told _ (serving.closeDataServer.listen idle rfl)
  case isFalse unserved =>
    refine told _ (serving.listen idle ?_)
    cases taken : s.dataConn with
    | none => rfl
    | some id =>
      obtain ⟨_, _, current, _⟩ := serving.server id taken
      simp [current] at unserved

/-- A timer that expires closes at most the current server. -/
theorem Serving.pasvTimeout (serving : s.Serving exempt) (timer : Nat) :
    (s.pasvTimeout timer).Serving exempt := by
  have expired : Serving exempt { s with timers := s.timers.filter (· ≠ timer) } :=
    serving.quiet (.of_eq rfl rfl rfl rfl rfl rfl rfl) .nil
  unfold FtpSession.pasvTimeout
  simp only
  split
  · refine Serving.closeDataServer ?_
    exact expired.quiet (.of_eq rfl rfl rfl rfl rfl rfl rfl) .nil
  · exact expired

/-- A command keeps the servers in order. -/
theorem Serving.obeys {line : List UInt8} (serving : s.Serving exempt) (idle : s.functors = none)
    (obeys : s.Obeys line input next) : next.Serving exempt := by
  cases obeys with
  | chats => exact serving.quiet (.of_eq rfl rfl rfl rfl rfl rfl rfl) .nil
  | passive => exact serving.cmdPasv idle
  | lists longNames _ _ starts =>
    have begun : ((s.beginList longNames).cancel.reply .directoryListing).Serving exempt :=
      serving.quiet (.of_eq rfl rfl rfl rfl rfl rfl rfl) .nil
    exact begun.works starts.works
  | retrieves arg _ _ starts =>
    have begun : ((s.beginRetr ([46, 47] ++ arg)).cancel.reply .openingBinary).Serving exempt :=
      serving.quiet (.of_eq rfl rfl rfl rfl rfl rfl rfl) .nil
    exact begun.works starts.works
  | quits => exact serving.quiet (.of_eq rfl rfl rfl rfl rfl rfl rfl) .nil

/-! ## Connections that are accepted and drained -/

/-- Where a connection is accepted, no other is open and no notification is queued. -/
theorem Serving.alone (serving : s.Serving none) {server : Nat}
    (current : s.dataServer = some server) (known : server < s.polledServers)
    (free : s.dataConn = none) :
    true ∉ s.opens ∧ ∀ id bound, .writeComplete id bound ∉ s.queued := by
  have hears : ¬ s.Deaf := fun deaf => by
    have := deaf server current
    omega
  refine ⟨?_, fun id bound member => ?_⟩
  · intro opened
    obtain ⟨c, member, stillOpen⟩ := List.mem_map.mp opened
    obtain ⟨id, found⟩ := List.mem_iff_getElem?.mp member
    rcases serving.leaving id c found (of_decide_eq_true stillOpen) with taken | deleted | exempted
    · exact absurd (free.symm.trans taken) (by simp)
    · exact hears (serving.deaf _ deleted)
    · cases exempted
  · exact (serving.notified id bound member).elim (by simp [free]) hears

/-- The new connection becomes the data connection of the current server. -/
theorem Serving.accepts {server : Nat} (serving : s.Serving none)
    (alone : s.Alone (.accept server input)) (known : server < s.polledServers)
    (accepts : s.Accepts server input next) : next.Serving none := by
  obtain ⟨current, free⟩ := alone
  cases accepts with
  | extra taken => simp [free] at taken
  | first _ starts =>
    obtain ⟨closed, _⟩ := serving.alone current known free
    have taken : ((s.addConnection server).takeConnection s.connections.length).Serving none :=
      { numbered := serving.numbered
        server := by
          intro id same
          obtain rfl : s.connections.length = id := Option.some.inj same
          exact ⟨_, (taken_getElem? s server _).trans (if_pos rfl), current, known⟩
        leaving := by
          intro id c found opened
          rw [taken_getElem?] at found
          split at found
          case isTrue new => exact .inl (congrArg some new.symm)
          · exact absurd (mem_opens found opened) closed
        deaf := serving.deaf
        notified := fun _ _ _ => .inl rfl
        pendingDeaf := serving.pendingDeaf
        pendingNotified := fun _ _ _ _ => .inl rfl }
    exact taken.works starts.works

/-- Draining changes the output of one connection, and may notify. -/
theorem drain_keeps {id count : Nat} (found : s.connections[id]? = some c) :
    s.Keeps (s.drain id count c)
      (if (c.handleWrite count).2 then [.writeComplete id false] else []) := by
  obtain ⟨_, state, server, _⟩ := handleWrite_spec c count
  have ages : s.Ages (s.drain id count c) := by
    refine ⟨List.length_set, fun other entry there => ?_⟩
    rcases getElem?_set_inv there with ⟨rfl, rfl⟩ | ⟨_, before⟩
    · refine ⟨c, found, server.symm, ?_⟩
      rw [DataConnection.Open, DataConnection.Open, DataConnection.connected,
        DataConnection.connected, state]
      exact ⟨fun still => still, fun up => up⟩
    · exact ⟨entry, before, rfl, fun still => still, fun up => up⟩
  have pending : (s.drain id count c).pendingFunctors = s.pendingFunctors ++
      if (c.handleWrite count).2 then [.writeComplete id false] else [] := by
    unfold FtpSession.drain
    simp only
    split <;> simp
  exact ⟨ages, rfl, rfl, rfl, rfl, rfl, pending⟩

/-- The notification is about the data connection, or the poller knows no current server. -/
theorem Serving.drain (serving : s.Serving none) (idle : s.functors = none) {id count : Nat}
    (found : s.connections[id]? = some c) (opened : c.Open) :
    (s.drain id count c).Serving none := by
  refine serving.kept (drain_keeps found) ?_ ?_
  · intro server member
    split at member <;> simp at member
  · intro _ _ _
    refine ⟨?_, fun running => by simp [idle] at running⟩
    rcases serving.leaving id c found opened with taken | deleted | exempted
    · exact .inl (by simp [taken])
    · exact .inr (serving.deaf _ deleted)
    · cases exempted

/-! ## The loop -/

theorem Serving.beginFunctors (serving : s.Serving exempt) (idle : s.functors = none) :
    s.beginFunctors.Serving exempt := by
  have queue : s.beginFunctors.queued = s.queued := by simp [queued, FtpSession.beginFunctors, idle]
  exact
    { numbered := serving.numbered
      server := serving.server
      leaving := by
        rw [queue]
        exact serving.leaving
      deaf := by
        rw [queue]
        exact serving.deaf
      notified := by
        rw [queue]
        exact serving.notified
      pendingDeaf := fun _ _ member => absurd member List.not_mem_nil
      pendingNotified := fun _ _ _ member => absurd member List.not_mem_nil }

/-- The poller is asked about all servers. Nothing that is still queued belongs to an earlier
server than the current one. -/
theorem Serving.endFunctors (serving : s.Serving exempt) (empty : s.functors = some []) :
    s.endFunctors.Serving exempt := by
  have queue : s.endFunctors.queued = s.queued := by simp [queued, FtpSession.endFunctors, empty]
  have pending : s.queued = s.pendingFunctors := by simp [queued, empty]
  have running : s.functors.isSome = true := by simp [empty]
  have deaf (unserved : s.dataServer = none) : s.endFunctors.Deaf :=
    fun server current => absurd (unserved.symm.trans current) (by simp)
  exact
    { numbered := le_rfl
      server := by
        intro id taken
        obtain ⟨c, found, current, known⟩ := serving.server id taken
        exact ⟨c, found, current, known.trans_le serving.numbered⟩
      leaving := by
        rw [queue]
        exact serving.leaving
      deaf := by
        rw [queue, pending]
        exact fun server member => deaf (serving.pendingDeaf running server member)
      notified := by
        rw [queue, pending]
        intro id bound member
        exact (serving.pendingNotified running id bound member).imp_right deaf
      pendingDeaf := fun running => by cases running
      pendingNotified := fun running => by cases running }

/-- The loop takes a functor, and the server that it deletes is exempted from then on. -/
theorem Serving.remaining {rest : List FtpFunctor}
    (serving : s.Serving none) (running : s.functors = some (functor :: rest))
    (deletes : ∀ server, functor = .deleteServer server → exempt = some server) :
    (s.remaining rest).Serving exempt := by
  have queue := queued_remaining running
  have busy : s.functors.isSome = true := by simp [running]
  exact
    { numbered := serving.numbered
      server := serving.server
      leaving := by
        intro id c found opened
        rcases serving.leaving id c found opened with taken | deleted | exempted
        · exact .inl taken
        · rw [queue] at deleted
          rcases List.mem_cons.mp deleted with here | later
          · exact .inr (.inr (deletes _ here.symm))
          · exact .inr (.inl later)
        · cases exempted
      deaf := fun server member => serving.deaf server (queue ▸ List.mem_cons_of_mem _ member)
      notified := fun id bound member =>
        serving.notified id bound (queue ▸ List.mem_cons_of_mem _ member)
      pendingDeaf := fun _ => serving.pendingDeaf busy
      pendingNotified := fun _ => serving.pendingNotified busy }

/-- The destructor leaves no connection of its server open.

Proof: induction over the connections; once one is closed, it grows old as the others do. -/
theorem destroyConnections_closes {server : Nat} {ids : List Nat}
    (done : s.destroyConnections server ids = some next) :
    s.Ages next ∧ ∀ id ∈ ids, ∀ c, next.connections[id]? = some c → c.server = server →
      ¬ c.Open := by
  induction ids generalizing s with
  | nil =>
    cases done
    exact ⟨.of_eq rfl, nofun⟩
  | cons id rest ih =>
    obtain ⟨c, found, made⟩ := Option.bind_eq_some_iff.mp done
    have closes {middle : FtpSession} (aged : s.Ages middle)
        (closed : ∀ entry, middle.connections[id]? = some entry → entry.server = server →
          ¬ entry.Open)
        (later : middle.destroyConnections server rest = some next) :
        s.Ages next ∧ ∀ other ∈ id :: rest, ∀ entry, next.connections[other]? = some entry →
          entry.server = server → ¬ entry.Open := by
      obtain ⟨ages, others⟩ := ih later
      refine ⟨aged.trans ages, fun other member entry there owned => ?_⟩
      rcases List.mem_cons.mp member with rfl | tail
      · obtain ⟨before, was, same, closes, _⟩ := ages.entry other entry there
        exact fun opened => closed before was (same.trans owned) (closes opened)
      · exact others other tail entry there owned
    split at made
    case isTrue unconcerned =>
      refine closes (.of_eq rfl) (fun entry there owned => ?_) made
      cases found.symm.trans there
      have down := unconcerned.resolve_left fun other => other owned
      simp [DataConnection.Open, down]
    · split at made
      · exact closes (lose_keeps s id server).ages (fun entry there _ => lose_closed there) made
      · cases made

/-- No connection of the deleted server stays open. -/
theorem Serving.deleteServer {server : Nat} (serving : s.Serving (some server))
    (done : s.deleteServer server = some next) : next.Serving none := by
  have deaf : (s.unlisten server).Serving (some server) :=
    serving.quiet (.of_eq rfl rfl rfl rfl rfl rfl rfl) .nil
  have kept : next.Serving (some server) :=
    destroyConnections_keeps (Serving (some server))
      (fun s id c serving _ _ _ => serving.lose id server) deaf done
  obtain ⟨ages, closed⟩ := destroyConnections_closes done
  refine { kept with leaving := fun id c found opened => ?_ }
  rcases kept.leaving id c found opened with taken | deleted | exempted
  · exact .inl taken
  · exact .inr (.inl deleted)
  · obtain ⟨bound, _⟩ := List.getElem?_eq_some_iff.mp found
    have listed : id ∈ List.range s.connections.length :=
      List.mem_range.mpr (ages.length ▸ bound)
    exact absurd opened (closed id listed c found (Option.some.inj exempted).symm)

/-- A queued functor keeps the servers in order. -/
theorem Serving.call {rest : List FtpFunctor} (serving : s.Serving none)
    (running : s.functors = some (functor :: rest))
    (done : (s.remaining rest).call functor input = some next) : next.Serving none := by
  have other (keeps : ∀ server, functor ≠ .deleteServer server) :
      (s.remaining rest).Serving none :=
    serving.remaining running fun server same => absurd same (keeps server)
  cases functor with
  | closeDataServer =>
    cases done
    exact (other nofun).closeDataServer
  | deleteServer server =>
    have exempted : (s.remaining rest).Serving (some server) :=
      serving.remaining running fun _ same => congrArg some (FtpFunctor.deleteServer.inj same)
    exact exempted.deleteServer done
  | sendChunkReady chunk => exact (other nofun).works (sendChunkReady_inv done).works
  | writeComplete id bound => exact (other nofun).works (writeComplete_inv done).works
  | forceCloseInLoop id =>
    rcases forceCloseInLoop_inv done with rfl | ⟨c, _, _, rfl⟩
    · exact other nofun
    · exact (other nofun).lose id c.server

/-- Every step keeps the servers in order, with one data connection at a time.

Proof: one case for each label. -/
theorem step_serving (serving : s.Serving none) (enabled : s.Enabled label) (alone : s.Alone label)
    (done : s.step label = some next) : next.Serving none := by
  cases label with
  | command line input => exact serving.obeys enabled.1 (handleCommand_inv done)
  | accept server input => exact serving.accepts alone enabled.2.2.1 (accept_inv done)
  | dataClosed id =>
    obtain ⟨c, _, _, rfl⟩ := handleClose_inv done
    exact serving.lose id c.server
  | dataWritable id count =>
    obtain ⟨c, found, rfl⟩ := handleWrite_inv done
    obtain ⟨idle, _, same, listed, opened, _⟩ := enabled
    cases found.symm.trans listed
    exact serving.drain idle found opened
  | timeout timer =>
    cases done
    exact serving.pasvTimeout timer
  | ctrlForceClose =>
    cases done
    exact serving.quiet (.of_eq rfl rfl rfl rfl rfl rfl rfl) .nil
  | ctrlClosed =>
    cases done
    exact serving.quiet (.of_eq rfl rfl rfl rfl rfl rfl rfl) .nil
  | taskDone index result =>
    obtain ⟨task, _, rfl⟩ := taskDone_inv done
    exact serving.quiet ⟨.of_eq rfl, rfl, rfl, rfl, rfl, rfl, rfl⟩ ⟨by simp, by simp⟩
  | beginFunctors =>
    cases done
    exact serving.beginFunctors enabled
  | runFunctor input =>
    obtain ⟨functor, rest, running, called⟩ := runFunctor_inv done enabled.1
    exact serving.call running called
  | endFunctors =>
    cases done
    exact serving.endFunctors enabled

/-- There is no server at first. -/
theorem initial_serving : initial.Serving none :=
  ⟨le_rfl, nofun, nofun, nofun, nofun, nofun, nofun⟩

/-- A data connection is taken only when no file and no directory is open. -/
theorem Serving.fresh (serving : s.Serving none) (consistent : s.Consistent)
    (enabled : s.Enabled label) (alone : s.Alone label) : s.Fresh label := by
  cases label with
  | accept server input =>
    intro free opened
    exact (serving.alone alone.1 enabled.2.2.1 free).1 (consistent.owned opened)
  | _ => trivial

end Steps

end FtpSession

end Moban
