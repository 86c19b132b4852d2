import Moban.FtpHidden

/-!
# A data connection that is rejected

While a session has a data connection, every other connection that its data server accepts is
closed by force. The session should then go on as if the other connection had never been
accepted. Two runs are compared: one with rejected connections, and the one that remains when
they are hidden and are never accepted.

Up to the moment at which the first rejected connection is closed, both runs agree. The callback
for a closed connection does not ask which connection it is for. It ends the transfer of the
first connection, invalidates the tasks under way and closes the data server.
-/

namespace Moban

open Runs

/-- The connection that the functor is about is one of the first. -/
def FtpFunctor.within (count : Nat) : FtpFunctor → Bool
  | .writeComplete id _ | .forceCloseInLoop id => decide (id < count)
  | _ => true

namespace FtpSession

/-- What a rejected connection must not change. -/
def view (s : FtpSession) :
    Xfer × Nat × Option Nat × Option Nat × Option Nat × Option Nat × List Reply :=
  (s.xfer, s.xferGen, s.xferFd, s.xferDir, s.dataConn, s.dataServer, s.replies)

/-- The connections from the given number on are rejected ones: they are not established, not the
data connection, not known to the poller, and have no output to be notified of. -/
structure Numbered (count : Nat) (s : FtpSession) : Prop where
  early : s.Early count
  notified : ∀ id bound, .writeComplete id bound ∈ s.queued → id < count
  forced : ∀ id, .forceCloseInLoop id ∈ s.queued → id < s.connections.length
  polled : s.polledConnections ≤ count
  present : count ≤ s.connections.length
  late : ∀ id c, count ≤ id → s.connections[id]? = some c → c.connected = false

/-- The functor that closes the first rejected connection is queued before those of the others. -/
def Waits (count : Nat) (functors : List FtpFunctor) : Prop :=
  ∃ front back, functors = front ++ .forceCloseInLoop count :: back ∧
    ∀ functor ∈ front, functor.early count = true

/-- The first rejected connection is closed when the loop next runs functors. -/
def Waiting (count : Nat) (s : FtpSession) : Prop :=
  (s.functors = none ∧ Waits count s.pendingFunctors) ∨
    ∃ batch, s.functors = some batch ∧ Waits count batch

/-- The step closes the first rejected connection. -/
def Closing (count : Nat) (s : FtpSession) : Label → Prop
  | .runFunctor _ => ∃ rest, s.functors = some (.forceCloseInLoop count :: rest)
  | _ => False

/-- The step accepts a connection. -/
def Label.accepts : Label → Bool
  | .accept _ _ => true
  | _ => false

/-- A connection that is accepted is rejected, and the first of them is still open. -/
def Rejecting (count : Nat) (s : FtpSession) (label : Label) : Prop :=
  (label.accepts = true → s.dataConn.isSome = true) ∧ s.isOpen count = true

instance (count : Nat) (s : FtpSession) (label : Label) : Decidable (s.Rejecting count label) :=
  instDecidableAnd

section Steps

variable {s next : FtpSession} {input : FtpInput} {label : Label} {count server : Nat}
  {functor : FtpFunctor} {more : List FtpFunctor}

/-! ## Numbers of connections -/

theorem Numbered.kept (numbered : s.Numbered count) (ages : s.Ages next)
    (dataConn : next.dataConn = s.dataConn ∨ next.dataConn = none)
    (polled : next.polledConnections = s.polledConnections) (queue : next.queued = s.queued ++ more)
    (within : ∀ functor ∈ more, functor.within count = true) : next.Numbered count where
  early := by
    intro id taken
    rcases dataConn with same | free
    · exact numbered.early id (same ▸ taken)
    · simp [free] at taken
  notified := by
    rw [queue]
    intro id bound member
    rcases List.mem_append.mp member with before | new
    · exact numbered.notified id bound before
    · exact of_decide_eq_true (within _ new)
  forced := by
    rw [queue, ages.length]
    intro id member
    rcases List.mem_append.mp member with before | new
    · exact numbered.forced id before
    · exact (of_decide_eq_true (within _ new)).trans_le numbered.present
  polled := polled.trans_le numbered.polled
  present := numbered.present.trans ages.length.symm.le
  late := by
    intro id c beyond found
    obtain ⟨before, there, _, _, falls⟩ := ages.entry id c found
    by_contra up
    have down := numbered.late id before beyond there
    rw [falls (Bool.eq_true_of_not_eq_false up)] at down
    cases down

theorem Numbered.keeps (numbered : s.Numbered count)
    (keeps : s.Keeps next more) (polled : next.polledConnections = s.polledConnections)
    (within : ∀ functor ∈ more, functor.within count = true) : next.Numbered count :=
  numbered.kept keeps.ages (.inl keeps.dataConn) polled keeps.queued within

theorem Numbered.plain (numbered : s.Numbered count) (keeps : s.Keeps next [])
    (polled : next.polledConnections = s.polledConnections) : next.Numbered count :=
  numbered.keeps keeps polled nofun

theorem Numbered.works (numbered : s.Numbered count) (works : ∃ more, s.Works next more) :
    next.Numbered count := by
  obtain ⟨more, works⟩ := works
  refine numbered.keeps works.toKeeps works.polledConnections fun functor member => ?_
  have concerns := works.concerns functor member
  cases functor with
  | closeDataServer => rfl
  | forceCloseInLoop id => exact decide_eq_true (numbered.early id concerns)
  | writeComplete id bound => exact decide_eq_true (numbered.early id concerns)
  | deleteServer | sendChunkReady => exact concerns.elim

theorem lose_polled (s : FtpSession) (id server : Nat) :
    (s.lose id server).polledConnections = s.polledConnections := by
  have ends : (s.lose id server).polledConnections =
      (s.onConnection id DataConnection.close).endTransfer.polledConnections := rfl
  rcases (s.onConnection id DataConnection.close).endTransfer_cases with
    ⟨_, _, aborted⟩ | ⟨_, completed⟩
  · rw [ends, aborted]
    rfl
  · rw [ends, completed, sendDataEndReply, endReply]
    split <;> rfl

theorem Numbered.lose (numbered : s.Numbered count) (id server : Nat) :
    (s.lose id server).Numbered count := by
  refine numbered.keeps (lose_keeps s id server) (lose_polled s id server) fun functor member => ?_
  rw [List.mem_singleton.mp member]
  rfl

theorem Numbered.closeDataServer (numbered : s.Numbered count) :
    s.closeDataServer.Numbered count := by
  refine numbered.kept (.of_eq rfl) (.inr rfl) rfl (closeDataServer_queued s) ?_
  intro functor member
  obtain ⟨server, _, rfl⟩ : ∃ server, s.dataServer = some server ∧
      .deleteServer server = functor := by simpa using member
  rfl

theorem Numbered.cmdPasv (numbered : s.Numbered count) : (s.cmdPasv input).Numbered count := by
  have listens (before : FtpSession) (kept : before.Numbered count) :
      (before.listen.reply
        (.enteringPassive input.ipNetEndian input.portNetEndian)).Numbered count :=
    kept.kept (.of_eq rfl) (.inl rfl) rfl (List.append_nil _).symm nofun
  unfold FtpSession.cmdPasv
  split
  · exact listens _ numbered.closeDataServer
  · exact listens _ numbered

theorem Numbered.pasvTimeout (numbered : s.Numbered count) (timer : Nat) :
    (s.pasvTimeout timer).Numbered count := by
  have expired : Numbered count { s with timers := s.timers.filter (· ≠ timer) } :=
    numbered.plain (.of_eq rfl rfl rfl rfl rfl rfl rfl) rfl
  unfold FtpSession.pasvTimeout
  simp only
  split
  · refine Numbered.closeDataServer ?_
    exact expired.plain (.of_eq rfl rfl rfl rfl rfl rfl rfl) rfl
  · exact expired

theorem Numbered.obeys {line : List UInt8} (numbered : s.Numbered count)
    (obeys : s.Obeys line input next) : next.Numbered count := by
  cases obeys with
  | chats => exact numbered.plain (.of_eq rfl rfl rfl rfl rfl rfl rfl) rfl
  | passive => exact numbered.cmdPasv
  | lists longNames _ _ starts =>
    have begun : ((s.beginList longNames).cancel.reply .directoryListing).Numbered count :=
      numbered.plain (.of_eq rfl rfl rfl rfl rfl rfl rfl) rfl
    exact begun.works starts.works
  | retrieves arg _ _ starts =>
    have begun : ((s.beginRetr ([46, 47] ++ arg)).cancel.reply .openingBinary).Numbered count :=
      numbered.plain (.of_eq rfl rfl rfl rfl rfl rfl rfl) rfl
    exact begun.works starts.works
  | quits => exact numbered.plain (.of_eq rfl rfl rfl rfl rfl rfl rfl) rfl

/-- A connection is rejected. -/
theorem Numbered.extra (numbered : s.Numbered count) (server : Nat) :
    ((s.addConnection server).forceClose s.connections.length).Numbered count := by
  have length : ((s.addConnection server).forceClose s.connections.length).connections.length =
      s.connections.length + 1 := by simp [forceClose, addConnection]
  have queue : ((s.addConnection server).forceClose s.connections.length).queued =
      s.queued ++ [.forceCloseInLoop s.connections.length] := by
    simp [forceClose, addConnection, queued, isOpen, DataConnection.new, DataConnection.Open]
  refine ⟨numbered.early, ?_, ?_, numbered.polled, ?_, ?_⟩
  · rw [queue]
    intro id bound member
    exact numbered.notified id bound (by simpa using member)
  · rw [queue, length]
    intro id member
    rcases List.mem_append.mp member with before | new
    · exact (numbered.forced id before).trans (Nat.lt_succ_self _)
    · cases List.mem_singleton.mp new
      exact Nat.lt_succ_self _
  · rw [length]
    exact numbered.present.trans (Nat.le_succ _)
  · intro id c beyond found
    rw [extra_getElem?] at found
    split at found
    · cases found
      rfl
    · exact numbered.late id c beyond found

theorem Numbered.drain (numbered : s.Numbered count) {id bytes : Nat} {c : DataConnection}
    (found : s.connections[id]? = some c) (known : id < s.polledConnections) :
    (s.drain id bytes c).Numbered count := by
  refine numbered.keeps (drain_keeps found) rfl fun functor member => ?_
  have notifies : functor = .writeComplete id false := by
    split at member
    · exact List.mem_singleton.mp member
    · simp at member
  rw [notifies]
  exact decide_eq_true (known.trans_le numbered.polled)

theorem Numbered.remaining {rest : List FtpFunctor}
    (numbered : s.Numbered count) (running : s.functors = some (functor :: rest)) :
    (s.remaining rest).Numbered count := by
  have queue := queued_remaining running
  exact ⟨numbered.early,
    fun id bound member => numbered.notified id bound (queue ▸ List.mem_cons_of_mem _ member),
    fun id member => numbered.forced id (queue ▸ List.mem_cons_of_mem _ member),
    numbered.polled, numbered.present, numbered.late⟩

theorem Numbered.deleteServer (numbered : s.Numbered count)
    (done : s.deleteServer server = some next) : next.Numbered count := by
  have deaf : (s.unlisten server).Numbered count :=
    numbered.plain (.of_eq rfl rfl rfl rfl rfl rfl rfl) rfl
  exact destroyConnections_keeps (Numbered count)
    (fun s id c numbered _ _ _ => numbered.lose id server) deaf done

theorem Numbered.call (numbered : s.Numbered count)
    (done : s.call functor input = some next) : next.Numbered count := by
  cases functor with
  | closeDataServer =>
    cases done
    exact numbered.closeDataServer
  | deleteServer server => exact numbered.deleteServer done
  | sendChunkReady chunk => exact numbered.works (sendChunkReady_inv done).works
  | writeComplete id bound => exact numbered.works (writeComplete_inv done).works
  | forceCloseInLoop id =>
    rcases forceCloseInLoop_inv done with rfl | ⟨c, _, _, rfl⟩
    · exact numbered
    · exact numbered.lose id c.server

/-- No step but the acceptance of a connection and the next poll changes which connections are
rejected ones. -/
theorem step_numbered (numbered : s.Numbered count) (enabled : s.Enabled label)
    (accepts : ∀ server input, label ≠ .accept server input) (polls : label ≠ .endFunctors)
    (done : s.step label = some next) : next.Numbered count := by
  cases label with
  | command line input => exact numbered.obeys (handleCommand_inv done)
  | accept server input => exact absurd rfl (accepts server input)
  | dataClosed id =>
    obtain ⟨c, _, _, rfl⟩ := handleClose_inv done
    exact numbered.lose id c.server
  | dataWritable id bytes =>
    obtain ⟨c, found, rfl⟩ := handleWrite_inv done
    exact numbered.drain found enabled.2.1
  | timeout timer =>
    cases done
    exact numbered.pasvTimeout timer
  | ctrlForceClose =>
    cases done
    exact numbered.plain (.of_eq rfl rfl rfl rfl rfl rfl rfl) rfl
  | ctrlClosed =>
    cases done
    exact numbered.plain (.of_eq rfl rfl rfl rfl rfl rfl rfl) rfl
  | taskDone index result =>
    obtain ⟨task, _, rfl⟩ := taskDone_inv done
    have keeps : s.Keeps (s.finishTask index (task.chunk result))
      [.sendChunkReady (task.chunk result)] := ⟨.of_eq rfl, rfl, rfl, rfl, rfl, rfl, rfl⟩
    refine numbered.keeps keeps rfl fun functor member => ?_
    rw [List.mem_singleton.mp member]
    rfl
  | beginFunctors =>
    cases done
    have idle : s.functors = none := enabled
    refine numbered.kept (.of_eq rfl) (.inl rfl) rfl (?_ : _ = s.queued ++ []) nofun
    simp [queued, beginFunctors, idle]
  | runFunctor input =>
    obtain ⟨functor, rest, running, called⟩ := runFunctor_inv done enabled.1
    exact (numbered.remaining running).call called
  | endFunctors => exact absurd rfl polls

theorem Numbered.mono {more : Nat} (numbered : s.Numbered count) (grows : count ≤ more)
    (present : more ≤ s.connections.length) : s.Numbered more :=
  ⟨fun id taken => (numbered.early id taken).trans_le grows,
    fun id bound member => (numbered.notified id bound member).trans_le grows, numbered.forced,
    numbered.polled.trans grows, present,
    fun id c beyond found => numbered.late id c (grows.trans beyond) found⟩

/-- In every state that is reached, all connections count as accepted before.

Proof: a connection that is accepted is the next one, and the poller is asked about those that
there are. -/
theorem reachable_numbered {labels : List Label} {final : FtpSession}
    (valid : system.Valid initial labels) (finished : system.run initial labels = some final) :
    final.Numbered final.connections.length := by
  refine System.run_invariant (fun s : FtpSession => s.Numbered s.connections.length) ?_ initial
    final labels ⟨nofun, nofun, nofun, le_rfl, le_rfl, nofun⟩ valid finished
  intro s label next numbered (enabled : s.Enabled label) (done : s.step label = some next)
  cases label with
  | accept server input =>
    have length : (s.connections ++ [DataConnection.new server]).length =
        s.connections.length + 1 := List.length_append
    cases accept_inv done with
    | extra => exact (numbered.extra server).mono (numbered.extra server).present le_rfl
    | first free starts =>
      have taken :
          ((s.addConnection server).takeConnection s.connections.length).connections.length =
            s.connections.length + 1 := (List.length_modify ..).trans length
      have begun : ((s.addConnection server).takeConnection s.connections.length).Numbered
          (s.connections.length + 1) := by
        refine ⟨?_, fun id bound member =>
          (numbered.notified id bound member).trans (Nat.lt_succ_self _), ?_,
        numbered.polled.trans (Nat.le_succ _), taken.ge, ?_⟩
        · intro id same
          cases same
          exact Nat.lt_succ_self _
        · rw [taken]
          exact fun id member => (numbered.forced id member).trans (Nat.lt_succ_self _)
        · intro id c beyond found
          obtain ⟨bound, _⟩ := List.getElem?_eq_some_iff.mp found
          rw [taken] at bound
          omega
      have kept := begun.works starts.works
      exact kept.mono kept.present le_rfl
  | endFunctors =>
    cases done
    have empty : s.functors = some [] := enabled
    have queue : s.endFunctors.queued = s.queued := by simp [queued, endFunctors, empty]
    exact ⟨numbered.early, queue ▸ numbered.notified, queue ▸ numbered.forced, le_rfl, le_rfl,
      numbered.late⟩
  | _ =>
    have kept := step_numbered numbered enabled (fun _ _ => by simp) (by simp) done
    exact kept.mono kept.present le_rfl

/-! ## Connections that stay open -/

/-- Functors are only queued. -/
structure Grows (s next : FtpSession) : Prop where
  functors : next.functors = s.functors
  pending : s.pendingFunctors <+: next.pendingFunctors

theorem Keeps.grows (keeps : s.Keeps next more) : s.Grows next :=
  ⟨keeps.functors, keeps.pending ▸ List.prefix_append _ _⟩

theorem Grows.trans {middle : FtpSession} (first : s.Grows middle) (second : middle.Grows next) :
    s.Grows next :=
  ⟨second.functors.trans first.functors, first.pending.trans second.pending⟩

theorem closeDataServer_grows (s : FtpSession) : s.Grows s.closeDataServer := by
  unfold closeDataServer
  refine ⟨rfl, ?_⟩
  simp only
  split
  · exact List.prefix_rfl
  · exact List.prefix_append _ _

theorem Obeys.grows {line : List UInt8} (obeys : s.Obeys line input next) :
    s.Grows next ∧ next.opens = s.opens := by
  cases obeys with
  | chats => exact ⟨⟨rfl, List.prefix_rfl⟩, rfl⟩
  | passive =>
    unfold cmdPasv
    split
    · exact ⟨(closeDataServer_grows s).trans ⟨rfl, List.prefix_rfl⟩, rfl⟩
    · exact ⟨⟨rfl, List.prefix_rfl⟩, rfl⟩
  | lists longNames _ _ starts =>
    obtain ⟨_, works⟩ := starts.works
    exact ⟨⟨works.functors, works.grows.pending⟩, works.opens⟩
  | retrieves arg _ _ starts =>
    obtain ⟨_, works⟩ := starts.works
    exact ⟨⟨works.functors, works.grows.pending⟩, works.opens⟩
  | quits => exact ⟨⟨rfl, List.prefix_rfl⟩, rfl⟩

theorem isOpen_congr {id : Nat} (same : next.opens = s.opens) : next.isOpen id = s.isOpen id := by
  have shown (s : FtpSession) : s.isOpen id = s.opens[id]?.any fun opened => opened := by
    simp [isOpen, opens, Option.any_map]
  rw [shown, shown, same]

theorem lose_isOpen {id other : Nat} (server : Nat) (elsewhere : id ≠ other) :
    (s.lose id server).isOpen other = s.isOpen other := by
  have ends (s : FtpSession) : s.endTransfer.opens = s.opens := by
    rcases s.endTransfer_cases with ⟨_, _, aborted⟩ | ⟨_, completed⟩
    · rw [aborted]
      exact (abortTransfer_works s).opens
    · rw [completed, sendDataEndReply, (abortTransfer_works _).opens, endReply]
      split <;> rfl
  have closed : (s.lose id server).opens = (s.onConnection id DataConnection.close).opens := ends _
  have same : (s.onConnection id DataConnection.close).connections[other]? =
      s.connections[other]? := List.getElem?_modify_ne _ _ elsewhere
  rw [isOpen_congr closed, isOpen, isOpen, same]

theorem lose_not_open (s : FtpSession) (id server : Nat) :
    (s.lose id server).isOpen id = false := by
  unfold isOpen
  cases found : (s.lose id server).connections[id]? with
  | none => rfl
  | some c => exact decide_eq_false (lose_closed found)

theorem deleteServer_grows (numbered : s.Numbered count)
    (done : s.deleteServer server = some next) :
    s.Grows next ∧ next.isOpen count = s.isOpen count := by
  have kept := destroyConnections_keeps
    (fun middle => middle.Numbered count ∧ s.Grows middle ∧
      middle.isOpen count = s.isOpen count) ?_ ?_ done
  · exact kept.2
  · rintro middle id c ⟨numbered, grows, opened⟩ found _ established
    have elsewhere : id ≠ count := by
      rintro rfl
      have down := numbered.late id c le_rfl found
      simp [DataConnection.connected, established] at down
    exact ⟨numbered.lose id server, grows.trans (lose_keeps middle id server).grows,
      (lose_isOpen server elsewhere).trans opened⟩
  · exact ⟨numbered.plain (.of_eq rfl rfl rfl rfl rfl rfl rfl) rfl, ⟨rfl, List.prefix_rfl⟩, rfl⟩

/-! ## Up to the end of the first rejected connection -/

theorem Waits.grows {functors longer : List FtpFunctor} (waits : Waits count functors)
    (grows : functors <+: longer) : Waits count longer := by
  obtain ⟨front, back, rfl, early⟩ := waits
  obtain ⟨more, rfl⟩ := grows
  exact ⟨front, back ++ more, by simp, early⟩

theorem Waiting.grows (waiting : s.Waiting count) (grows : s.Grows next) : next.Waiting count := by
  rcases waiting with ⟨idle, waits⟩ | ⟨batch, running, waits⟩
  · exact .inl ⟨grows.functors.trans idle, waits.grows grows.pending⟩
  · exact .inr ⟨batch, grows.functors.trans running, waits⟩

theorem Waiting.queued (waiting : s.Waiting count) : .forceCloseInLoop count ∈ s.queued := by
  rcases waiting with ⟨_, front, back, pending, _⟩ | ⟨batch, running, front, back, rfl, _⟩
  · exact List.mem_append_right _ (by simp [pending])
  · exact List.mem_append_left _ (by simp [running])

/-- The loop runs a functor that was queued before the first rejected connection was accepted. -/
theorem Waiting.remaining {rest : List FtpFunctor}
    (waiting : s.Waiting count) (running : s.functors = some (functor :: rest))
    (other : functor ≠ .forceCloseInLoop count) :
    functor.early count = true ∧ (s.remaining rest).Waiting count := by
  rcases waiting with ⟨idle, _⟩ | ⟨batch, same, front, back, split, early⟩
  · simp [running] at idle
  · cases running.symm.trans same
    cases front with
    | nil =>
      cases split
      exact absurd rfl other
    | cons first front =>
      cases split
      exact ⟨early functor List.mem_cons_self, .inr ⟨_, rfl, front, back, rfl,
        fun functor member => early functor (List.mem_cons_of_mem _ member)⟩⟩

theorem call_waits (numbered : s.Numbered count)
    (waiting : s.Waiting count) (early : functor.early count = true)
    (done : s.call functor input = some next) :
    next.Waiting count ∧ next.isOpen count = s.isOpen count := by
  cases functor with
  | closeDataServer =>
    cases done
    exact ⟨waiting.grows (closeDataServer_grows s), rfl⟩
  | deleteServer server =>
    obtain ⟨grows, opened⟩ := deleteServer_grows numbered done
    exact ⟨waiting.grows grows, opened⟩
  | sendChunkReady chunk =>
    obtain ⟨_, works⟩ := (sendChunkReady_inv done).works
    exact ⟨waiting.grows works.grows, isOpen_congr works.opens⟩
  | writeComplete id bound =>
    obtain ⟨_, works⟩ := (writeComplete_inv done).works
    exact ⟨waiting.grows works.grows, isOpen_congr works.opens⟩
  | forceCloseInLoop id =>
    rcases forceCloseInLoop_inv done with rfl | ⟨c, _, _, rfl⟩
    · exact ⟨waiting, rfl⟩
    · have elsewhere : id ≠ count := (of_decide_eq_true early).ne
      exact ⟨waiting.grows (lose_keeps s id c.server).grows, lose_isOpen c.server elsewhere⟩

/-- No other step closes the first rejected connection. -/
theorem step_waits (numbered : s.Numbered count) (waiting : s.Waiting count)
    (enabled : s.Enabled label) (other : ¬ s.Closing count label)
    (rejects : ∀ server input, label = .accept server input → s.dataConn.isSome = true)
    (done : s.step label = some next) :
    next.Waiting count ∧ next.isOpen count = s.isOpen count := by
  cases label with
  | command line input =>
    obtain ⟨grows, opens⟩ := (handleCommand_inv done).grows
    exact ⟨waiting.grows grows, isOpen_congr opens⟩
  | accept server input =>
    cases accept_inv done with
    | first free => simp [free] at rejects
    | extra =>
      have known : count ≠ s.connections.length := (numbered.forced count waiting.queued).ne
      have grows : s.Grows ((s.addConnection server).forceClose s.connections.length) := by
        refine ⟨rfl, ?_⟩
        unfold forceClose
        simp only
        split
        · exact List.prefix_append _ _
        · exact List.prefix_rfl
      refine ⟨waiting.grows grows, ?_⟩
      rw [isOpen, extra_getElem?, if_neg known, isOpen]
  | dataClosed id =>
    obtain ⟨c, _, _, rfl⟩ := handleClose_inv done
    have elsewhere : id ≠ count := (enabled.2.1.trans_le numbered.polled).ne
    exact ⟨waiting.grows (lose_keeps s id c.server).grows, lose_isOpen c.server elsewhere⟩
  | dataWritable id bytes =>
    obtain ⟨c, found, rfl⟩ := handleWrite_inv done
    have elsewhere : id ≠ count := (enabled.2.1.trans_le numbered.polled).ne
    refine ⟨waiting.grows (drain_keeps found).grows, ?_⟩
    rw [isOpen, drain, List.getElem?_set_ne elsewhere, isOpen]
  | timeout timer =>
    cases done
    unfold pasvTimeout
    simp only
    split
    · have told : (reply { s with timers := s.timers.filter (· ≠ timer) }
          .passiveTimedOut).Waiting count := waiting.grows ⟨rfl, List.prefix_rfl⟩
      exact ⟨told.grows (closeDataServer_grows _), rfl⟩
    · exact ⟨waiting.grows ⟨rfl, List.prefix_rfl⟩, rfl⟩
  | ctrlForceClose =>
    cases done
    exact ⟨waiting.grows ⟨rfl, List.prefix_rfl⟩, rfl⟩
  | ctrlClosed =>
    cases done
    exact ⟨waiting.grows ⟨rfl, List.prefix_rfl⟩, rfl⟩
  | taskDone index result =>
    obtain ⟨task, _, rfl⟩ := taskDone_inv done
    exact ⟨waiting.grows ⟨rfl, List.prefix_append _ _⟩, rfl⟩
  | beginFunctors =>
    cases done
    rcases waiting with ⟨_, waits⟩ | ⟨batch, running, _⟩
    · exact ⟨.inr ⟨_, rfl, waits⟩, rfl⟩
    · exact absurd (running.symm.trans enabled) (by simp)
  | runFunctor input =>
    obtain ⟨functor, rest, running, called⟩ := runFunctor_inv done enabled.1
    have different : functor ≠ .forceCloseInLoop count := by
      rintro rfl
      exact other ⟨rest, running⟩
    obtain ⟨early, left⟩ := waiting.remaining running different
    have kept := call_waits (numbered.remaining running) left early called
    exact kept
  | endFunctors =>
    have empty : s.functors = some [] := enabled
    rcases waiting with ⟨idle, _⟩ | ⟨batch, running, front, back, rfl, _⟩
    · simp [idle] at empty
    · simp [running] at empty

/-! ## Hiding the rejected connections -/

theorem hide_destroyConnections (numbered : s.Numbered count) {ids : List Nat}
    (done : s.destroyConnections server ids = some next) :
    (s.hide count).destroyConnections server (ids.filter (· < count)) = some (next.hide count) := by
  induction ids generalizing s with
  | nil =>
    cases done
    rfl
  | cons id rest ih =>
    obtain ⟨c, found, made⟩ := Option.bind_eq_some_iff.mp done
    by_cases early : id < count
    · rw [List.filter_cons_of_pos (by simpa using early), destroyConnections, hide_getElem? early,
        found]
      simp only [Option.bind_eq_bind, Option.bind_some]
      split at made
      case isTrue other =>
        rw [if_pos other]
        exact ih numbered made
      case isFalse concerned =>
        rw [if_neg concerned]
        split at made
        case isTrue established =>
          rw [if_pos established, ← hide_lose]
          exact ih (numbered.lose id server) made
        · cases made
    · rw [List.filter_cons_of_neg (by simpa using early)]
      split at made
      · exact ih numbered made
      · split at made
        case isTrue established =>
          have down := numbered.late id c (Nat.le_of_not_lt early) found
          simp [DataConnection.connected, established] at down
        · cases made

theorem hide_deleteServer (numbered : s.Numbered count) (done : s.deleteServer server = some next) :
    (s.hide count).deleteServer server = some (next.hide count) := by
  have deaf : (s.unlisten server).Numbered count :=
    numbered.plain (.of_eq rfl rfl rfl rfl rfl rfl rfl) rfl
  have first : (List.range s.connections.length).filter (· < count) = List.range count := by
    obtain ⟨more, length⟩ := Nat.exists_eq_add_of_le numbered.present
    rw [length, List.range_add, List.filter_append, List.filter_eq_self.mpr (by simp),
      List.filter_eq_nil_iff.mpr (by simp), List.append_nil]
  have hidden := hide_destroyConnections deaf done
  rw [first] at hidden
  have length : (s.hide count).connections.length = count :=
    List.length_take_of_le numbered.present
  rw [deleteServer, length]
  exact hidden

theorem hide_call (numbered : s.Numbered count)
    (notifies : ∀ id bound, functor = .writeComplete id bound → id < count)
    (early : functor.early count = true) (done : s.call functor input = some next) :
    (s.hide count).call functor input = some (next.hide count) := by
  cases functor with
  | closeDataServer =>
    cases done
    exact congrArg some (hide_closeDataServer s).symm
  | deleteServer server => exact hide_deleteServer numbered done
  | sendChunkReady chunk =>
    exact (hide_sendChunkReady numbered.early chunk input).symm.trans (congrArg _ done)
  | writeComplete id bound =>
    exact (hide_writeComplete numbered.early (notifies id bound rfl) bound input).symm.trans
      (congrArg _ done)
  | forceCloseInLoop id =>
    exact (hide_forceCloseInLoop s (of_decide_eq_true early)).symm.trans (congrArg _ done)

/-- A connection that is rejected is hidden at once. -/
theorem hide_extra (present : count ≤ s.connections.length) (server : Nat) :
    ((s.addConnection server).forceClose s.connections.length).hide count = s.hide count := by
  have connections :
      ((s.addConnection server).forceClose s.connections.length).connections.take count =
        s.connections.take count := by
    refine List.ext_getElem? fun id => ?_
    rw [List.getElem?_take, List.getElem?_take, extra_getElem?]
    by_cases early : id < count
    · have known : id ≠ s.connections.length := (early.trans_le present).ne
      simp [known]
    · simp [early]
  have pending :
      ((s.addConnection server).forceClose s.connections.length).pendingFunctors.filter
        (FtpFunctor.early count) = s.pendingFunctors.filter (FtpFunctor.early count) := by
    unfold forceClose
    simp only
    split
    · simp [FtpFunctor.early, present, addConnection]
    · rfl
  unfold hide
  rw [connections, pending]
  rfl

/-- A step that does not close the first rejected connection is the same step when the rejected
connections are hidden. -/
theorem step_hide (numbered : s.Numbered count) (waiting : s.Waiting count)
    (enabled : s.Enabled label) (other : ¬ s.Closing count label)
    (accepts : ∀ server input, label ≠ .accept server input) (done : s.step label = some next) :
    (s.hide count).Enabled label ∧ (s.hide count).step label = some (next.hide count) := by
  cases label with
  | command line input =>
    obtain ⟨idle, up, names, fault, fits⟩ := enabled
    have uncalled : (s.hide count).functors = none := by simp [hide, idle]
    refine ⟨⟨uncalled, up, names, fault, ?_⟩,
      (hide_handleCommand numbered.early line input).symm.trans (congrArg _ done)⟩
    simpa [offered, uncalled, idle] using fits
  | accept server input => exact absurd rfl (accepts server input)
  | dataClosed id =>
    obtain ⟨idle, known, opened⟩ := enabled
    have early : id < count := known.trans_le numbered.polled
    exact ⟨⟨by simp [hide, idle], known, (hide_isOpen early).trans opened⟩,
      (hide_handleClose s early).symm.trans (congrArg _ done)⟩
  | dataWritable id bytes =>
    obtain ⟨idle, known, writable⟩ := enabled
    have early : id < count := known.trans_le numbered.polled
    refine ⟨⟨by simp [hide, idle], known, ?_⟩,
      (hide_handleWrite s early bytes).symm.trans (congrArg _ done)⟩
    rw [hide_getElem? early]
    exact writable
  | timeout timer =>
    cases done
    exact ⟨⟨by simp [hide, enabled.1], enabled.2⟩, congrArg some (hide_pasvTimeout s timer).symm⟩
  | ctrlForceClose =>
    cases done
    exact ⟨⟨by simp [hide, enabled.1], enabled.2⟩, rfl⟩
  | ctrlClosed =>
    cases done
    exact ⟨enabled, rfl⟩
  | taskDone index result =>
    exact ⟨enabled, (hide_taskDone s index result).symm.trans (congrArg _ done)⟩
  | beginFunctors =>
    cases done
    have idle : s.functors = none := enabled
    exact ⟨by simp [Enabled, hide, idle], rfl⟩
  | runFunctor input =>
    obtain ⟨functor, rest, running, called⟩ := runFunctor_inv done enabled.1
    have different : functor ≠ .forceCloseInLoop count := by
      rintro rfl
      exact other ⟨rest, running⟩
    obtain ⟨early, _⟩ := waiting.remaining running different
    have left : (s.hide count).functors =
        some (functor :: rest.filter (FtpFunctor.early count)) := by simp [hide, running, early]
    have notifies (id : Nat) (bound : Bool) (same : functor = .writeComplete id bound) :
        id < count := by
      refine numbered.notified id bound ?_
      rw [queued_remaining running, same]
      exact List.mem_cons_self
    refine ⟨⟨⟨_, left, by simp⟩, enabled.2.1, enabled.2.2.1, ?_⟩, ?_⟩
    · simpa [offered, left, running] using enabled.2.2.2
    · have hidden := hide_call (numbered.remaining running) notifies early called
      rw [step, runFunctor, left]
      exact hidden
  | endFunctors =>
    have empty : s.functors = some [] := enabled
    rcases waiting with ⟨idle, _⟩ | ⟨batch, running, front, back, rfl, _⟩
    · simp [idle] at empty
    · simp [running] at empty

/-- The step that closes the first rejected connection ends the transfer. -/
theorem step_closing (enabled : s.Enabled label) (closing : s.Closing count label)
    (opened : s.isOpen count = true) (done : s.step label = some next) :
    next.isOpen count = false ∧ next.xferGen = s.xferGen + 1 := by
  cases label with
  | runFunctor input =>
    obtain ⟨functor, rest, running, called⟩ := runFunctor_inv done enabled.1
    obtain ⟨more, same⟩ := closing
    cases running.symm.trans same
    obtain ⟨c, found, made⟩ := Option.bind_eq_some_iff.mp called
    have still : s.connections[count]? = some c := found
    have stillOpen : c.Open := by simpa [isOpen, still] using opened
    rw [if_pos stillOpen] at made
    obtain ⟨_, _, _, rfl⟩ := handleClose_inv made
    exact ⟨lose_not_open _ _ _, (lose_clears _ _ _).xferGen⟩
  | _ => exact closing.elim

theorem Rejecting.accept (rejecting : s.Rejecting count label) (server : Nat) (input : FtpInput)
    (same : label = .accept server input) : s.dataConn.isSome = true :=
  rejecting.1 (by rw [same]; rfl)

/-- As long as the first rejected connection is open, a run with rejected connections is the run
without them.

Proof: induction over the labels. A step that closes the first rejected connection would leave it
closed before the next label. -/
theorem run_hide {labels : List Label} {last : Label} {final : FtpSession}
    (numbered : s.Numbered count) (waiting : s.Waiting count)
    (valid : system.Valid s (labels ++ [last]))
    (rejecting : system.Along (Rejecting count) s (labels ++ [last]))
    (finished : system.run s labels = some final) :
    final.Numbered count ∧ final.Waiting count ∧
      system.Valid (s.hide count) (labels.filter fun label => !label.accepts) ∧
      system.run (s.hide count) (labels.filter fun label => !label.accepts) =
        some (final.hide count) := by
  induction labels generalizing s with
  | nil =>
    cases finished
    exact ⟨numbered, waiting, trivial, rfl⟩
  | cons label rest ih =>
    obtain ⟨next, done, later⟩ := Option.bind_eq_some_iff.mp finished
    obtain ⟨enabled, validLater⟩ := (System.along_cons ..).mp valid
    obtain ⟨rejects, rejectsLater⟩ := (System.along_cons ..).mp rejecting
    have opened : next.isOpen count = true := by
      have along := rejectsLater next done
      cases rest with
      | nil => exact along.1.2
      | cons => exact along.1.2
    have other : ¬ s.Closing count label := by
      intro closing
      have closed := (step_closing enabled closing rejects.2 done).1
      simp [opened] at closed
    obtain ⟨left, _⟩ := step_waits numbered waiting enabled other rejects.accept done
    by_cases accepts : label.accepts = true
    · obtain ⟨server, input, rfl⟩ : ∃ server input, label = .accept server input := by
        cases label with
        | accept server input => exact ⟨server, input, rfl⟩
        | _ => cases accepts
      cases accept_inv done with
      | first free => exact absurd (rejects.1 rfl) (by simp [free])
      | extra =>
        have same := hide_extra (s := s) numbered.present server
        have hidden := ih (numbered.extra server) left (validLater _ done)
          (rejectsLater _ done) later
        rw [same] at hidden
        exact hidden
    · have distinct (server : Nat) (input : FtpInput) : label ≠ .accept server input := by
        rintro rfl
        exact accepts rfl
      obtain ⟨able, made⟩ := step_hide numbered waiting enabled other distinct done
      have polls : label ≠ .endFunctors := by
        rintro rfl
        exact absurd waiting (by simp_all [Waiting, Waits, system, Enabled])
      obtain ⟨numberedLast, waitingLast, validLast, runLast⟩ :=
        ih (step_numbered numbered enabled distinct polls done) left
          (validLater next done) (rejectsLater next done) later
      rw [List.filter_cons_of_pos (by simpa using accepts)]
      refine ⟨numberedLast, waitingLast, (System.along_cons ..).mpr ⟨able, ?_⟩, ?_⟩
      · intro hidden found
        cases made.symm.trans found
        exact validLast
      · exact (congrArg (Option.bind · _) made).trans runLast

end Steps

/-- Where all connections count as accepted before, nothing is hidden. -/
theorem hide_all {s : FtpSession} (numbered : s.Numbered s.connections.length) :
    s.hide s.connections.length = s := by
  have early (functor : FtpFunctor) (member : functor ∈ s.queued) :
      functor.early s.connections.length = true := by
    cases functor with
    | forceCloseInLoop id => exact decide_eq_true (numbered.forced id member)
    | _ => rfl
  have pending : s.pendingFunctors.filter (FtpFunctor.early s.connections.length) =
      s.pendingFunctors :=
    List.filter_eq_self.mpr fun functor member => early functor (List.mem_append_right _ member)
  have batch : (s.functors.map fun batch =>
      batch.filter (FtpFunctor.early s.connections.length)) = s.functors := by
    cases running : s.functors with
    | none => rfl
    | some batch =>
      refine congrArg some (List.filter_eq_self.mpr fun functor member => early functor ?_)
      exact List.mem_append_left _ (by simpa [running] using member)
  unfold hide
  rw [List.take_length, pending, batch]

/-- A rejected connection always interferes. From every state that is reached with a data
connection, let another connection be accepted, and let the loop go on in any way, with any number
of further rejected connections, up to the step that closes it. Until then the session is as
it would be without the rejected connections; after that step it is not.

Proof: hiding the rejected connections is a simulation until the first of them is closed. The
callback for the closed connection invalidates the tasks of the transfer. -/
theorem rejected_connection_interferes (earlier labels : List Label) (last : Label)
    (s accepted before after : FtpSession) (server : Nat) (input : FtpInput)
    (reachable : system.Valid initial earlier) (reached : system.run initial earlier = some s)
    (taken : s.dataConn.isSome = true) (enabled : s.Enabled (.accept server input))
    (accepting : s.step (.accept server input) = some accepted)
    (valid : system.Valid accepted (labels ++ [last]))
    (rejecting : system.Along (Rejecting s.connections.length) accepted (labels ++ [last]))
    (continued : system.run accepted labels = some before) (closes : before.step last = some after)
    (closed : after.isOpen s.connections.length = false) :
    ∃ quiet, system.Valid s (labels.filter fun label => !label.accepts) ∧
      system.run s (labels.filter fun label => !label.accepts) = some quiet ∧
      before.view = quiet.view ∧ after.view ≠ quiet.view := by
  have numbered := reachable_numbered reachable reached
  obtain rfl : (s.addConnection server).forceClose s.connections.length = accepted := by
    cases accept_inv accepting with
    | extra => rfl
    | first free => simp [free] at taken
  have pending : ((s.addConnection server).forceClose s.connections.length).pendingFunctors =
      s.pendingFunctors ++ [.forceCloseInLoop s.connections.length] := by
    simp [forceClose, addConnection, isOpen, DataConnection.new, DataConnection.Open]
  have waiting : ((s.addConnection server).forceClose s.connections.length).Waiting
      s.connections.length := by
    refine .inl ⟨enabled.1, s.pendingFunctors, [], pending, fun functor member => ?_⟩
    cases functor with
    | forceCloseInLoop id =>
      exact decide_eq_true (numbered.forced id (List.mem_append_right _ member))
    | _ => rfl
  obtain ⟨numberedBefore, waitingBefore, validQuiet, runQuiet⟩ :=
    run_hide (numbered.extra server) waiting valid rejecting continued
  rw [hide_extra le_rfl server, hide_all numbered] at validQuiet runQuiet
  refine ⟨_, validQuiet, runQuiet, rfl, ?_⟩
  have lastEnabled := ((System.along_append ..).mp valid).2 before continued
  have lastRejecting := ((System.along_append ..).mp rejecting).2 before continued
  have closing : before.Closing s.connections.length last := by
    by_contra other
    have opened := (step_waits numberedBefore waitingBefore lastEnabled.1 other
      lastRejecting.1.accept closes).2
    simp [closed, lastRejecting.1.2] at opened
  have ended := (step_closing lastEnabled.1 closing lastRejecting.1.2 closes).2
  intro same
  have gen : after.xferGen = before.xferGen := congrArg (fun view => view.2.1) same
  omega

/-! ## A transfer that another connection ends -/

/-- The read returns, a third connection is accepted, and the loop turns to its functors. -/
def intruding : List Label := [.taskDone 0 (.read [7]), .accept 0 {}, .beginFunctors]

/-- The transfer ends with the connection that was rejected. -/
theorem rejected_connection_interferes_retrieving :
    ∃ s accepted before after, system.run initial (sendingFile 3 []) = some s ∧
      s.step (.accept 0 {}) = some accepted ∧ system.run accepted intruding = some before ∧
      before.step (.runFunctor {}) = some after ∧
      ∃ quiet, system.Valid s [.taskDone 0 (.read [7]), .beginFunctors] ∧
        system.run s [.taskDone 0 (.read [7]), .beginFunctors] = some quiet ∧
        before.view = quiet.view ∧ after.view ≠ quiet.view :=
  ⟨_, _, _, _, rfl, rfl, rfl, rfl,
    rejected_connection_interferes (sendingFile 3 []) intruding (.runFunctor {}) _ _ _ _ 0 {}
      (by decide) rfl rfl (by decide) rfl (by decide) (by decide) rfl rfl rfl⟩

/-- The chunk arrives after another connection was rejected and closed. -/
def disturbed : List Label :=
  sendingFile 3
    [.accept 0 {}, .taskDone 0 (.read [7]), .beginFunctors, .runFunctor {}, .runFunctor {}]

/-- The chunk arrives. -/
def undisturbed : List Label :=
  sendingFile 3 [.taskDone 0 (.read [7]), .beginFunctors, .runFunctor { nwrote := 1 }]

/-- With another connection, the transfer of the first one is aborted and nothing is sent on it.
Without it, the chunk is sent and the transfer goes on. -/
theorem rejected_connection_aborts :
    (system.Valid initial disturbed ∧ ∃ final, system.run initial disturbed = some final ∧
      final.xfer = .kNone ∧ final.xferFd = none ∧
      final.replies.getLast? = some .transferAborted ∧
      final.connections.map DataConnection.sent = [[], []]) ∧
    (system.Valid initial undisturbed ∧ ∃ final, system.run initial undisturbed = some final ∧
      final.xfer = .kRetr ∧ final.xferFd = some 3 ∧
      final.replies.getLast? = some .openingBinary ∧
      final.connections.map DataConnection.sent = [[[7]]]) :=
  ⟨⟨by decide, _, rfl, rfl, rfl, rfl, rfl⟩, by decide, _, rfl, rfl, rfl, rfl, rfl⟩

end FtpSession

end Moban
