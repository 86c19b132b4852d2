import Moban.FtpSteps

/-!
# The bytes of a retrieved file

A session with one `RETR` on one data connection reads the file in parts of a fixed size and
sends each part before it asks for the next one. The offset of the next read is advanced when a
read is submitted, by the size that was asked for. So nothing is skipped exactly as long as every
read returns all that was asked for or all that the file still has, and a read may return less.

At most one thing is under way for a transfer: a read, its result, output that is not drained, or
the notification that it is. While a read or its result is under way, what was sent ends where
the read begins; otherwise it ends at the offset of the next read or at the end of the file.
-/

namespace Moban

open Runs

/-- The read returns a part of the file that begins at the given offset, and nothing only at the
end of the file. -/
def DiskTask.Posix (content : List UInt8) : DiskTask → DiskResult → Prop
  | ⟨_, .pread _ offset⟩, .read bytes =>
      bytes <+: content.drop offset ∧ (bytes = [] → content.length ≤ offset)
  | _, _ => True

/-- The read returns as many bytes as it was asked for, or as the file still has. -/
def DiskTask.Full (content : List UInt8) : DiskTask → DiskResult → Prop
  | ⟨_, .pread _ offset⟩, .read bytes =>
      bytes.length = min kReadChunkSize (content.length - offset)
  | _, _ => True

instance (content : List UInt8) : (task : DiskTask) → (result : DiskResult) →
    Decidable (task.Posix content result)
  | ⟨_, .pread _ _⟩, .read _ => instDecidableAnd
  | ⟨_, .pread _ _⟩, .failed | ⟨_, .pread _ _⟩, .stats _ | ⟨_, .stat _ _⟩, _ => instDecidableTrue

instance (content : List UInt8) : (task : DiskTask) → (result : DiskResult) →
    Decidable (task.Full content result)
  | ⟨_, .pread _ _⟩, .read _ => decEq _ _
  | ⟨_, .pread _ _⟩, .failed | ⟨_, .pread _ _⟩, .stats _ | ⟨_, .stat _ _⟩, _ => instDecidableTrue

/-- A full read returns exactly the part of the file that was asked for. -/
theorem DiskTask.full_bytes {content bytes : List UInt8} {gen offset : Nat} {fd : Option Nat}
    (posix : DiskTask.Posix content ⟨gen, .pread fd offset⟩ (.read bytes))
    (full : DiskTask.Full content ⟨gen, .pread fd offset⟩ (.read bytes)) :
    bytes = (content.drop offset).take kReadChunkSize := by
  obtain ⟨within, _⟩ := posix
  have length : bytes.length = min kReadChunkSize (content.length - offset) := full
  rw [List.prefix_iff_eq_take.mp within, length, ← List.length_drop, List.take_eq_take_iff]
  omega

namespace FtpSession

/-- Everything that was sent on data connections. -/
def sent (s : FtpSession) : List UInt8 := (s.traffic.map Prod.fst).flatten.flatten

/-- The number of things that are under way for transfers. -/
def underway (s : FtpSession) : Nat :=
  s.tasks.length + (s.queued.filter FtpFunctor.pumps).length +
    s.traffic.countP fun entry => entry.2 ≠ []

/-- There is one transfer, of a file, and one data connection. -/
def Single (s : FtpSession) : Label → Prop
  | .command line input => s.Begins line input →
      s.transfers = 0 ∧ ∀ longNames, FtpCommand.parse line ≠ .list longNames
  | .accept _ _ => s.connections = []
  | _ => True

/-- The disk pool reads the given file. -/
def Reads (content : List UInt8) (s : FtpSession) : Label → Prop
  | .taskDone index result => ∀ task ∈ s.tasks[index]?, task.Posix content result
  | _ => True

/-- The disk pool reads as much as it is asked for. -/
def ReadsFully (content : List UInt8) (s : FtpSession) : Label → Prop
  | .taskDone index result => ∀ task ∈ s.tasks[index]?, task.Full content result
  | _ => True

/-- A read at the given offset was the last one that was submitted, and what was sent ends
there. -/
def At (content : List UInt8) (s : FtpSession) (offset : Nat) : Prop :=
  s.nextReadOffset = offset + kReadChunkSize ∧ s.sent = content.take offset

/-- The invariant of a session that retrieves one file. -/
structure Retrieving (content : List UInt8) (s : FtpSession) : Prop where
  single : s.connections.length ≤ 1
  underway : s.underway ≤ 1
  retr : s.xfer ≠ .kList
  fresh : s.transfers = 0 → s.xfer = .kNone ∧ s.xferDone = false ∧ s.underway = 0 ∧
    s.sent = [] ∧ .transferComplete ∉ s.replies
  unconnected : s.connections = [] → s.dataConn = none ∧ s.xferFd = none ∧
    s.xferDone = false ∧ s.underway = 0 ∧ .transferComplete ∉ s.replies
  waiting : s.xfer ≠ .kNone → s.xferFd = none →
    s.underway = 0 ∧ s.sent = [] ∧ s.nextReadOffset = 0
  reads : s.xfer ≠ .kNone → ∀ task ∈ s.tasks, task.gen = s.xferGen ∧
    ∃ fd offset, task.work = .pread fd offset ∧ s.At content offset
  chunks : s.xfer ≠ .kNone → ∀ chunk, .sendChunkReady chunk ∈ s.queued →
    chunk.gen = s.xferGen ∧ (chunk.ioError = true ∨ ∃ offset, s.At content offset ∧
      chunk.bytes = (content.drop offset).take kReadChunkSize ∧
      chunk.atEof = chunk.bytes.isEmpty)
  idle : s.xfer ≠ .kNone → s.connected = true → s.tasks = [] →
    (∀ chunk, .sendChunkReady chunk ∉ s.queued) → s.sent = content.take s.nextReadOffset
  done : s.xferDone = true → s.sent = content ∧ s.underway = 0
  complete : .transferComplete ∈ s.replies → s.sent = content ∧ s.xfer = .kNone

/-- Nothing was sent, and nothing is under way. -/
structure Unsent (s : FtpSession) : Prop where
  single : s.connections.length ≤ 1
  nothing : s.underway = 0
  unsent : s.sent = []
  retr : s.xfer ≠ .kList
  undone : s.xferDone = false
  begun : s.transfers = 0 → s.xfer = .kNone
  offset : s.xfer ≠ .kNone → s.nextReadOffset = 0
  silent : .transferComplete ∉ s.replies
  unconnected : s.connections = [] → s.dataConn = none ∧ s.xferFd = none

section Steps

variable {content : List UInt8} {s next : FtpSession} {input : FtpInput} {label : Label}
  {rest : List FtpFunctor} {functor : FtpFunctor}

/-! ## What is spared -/

theorem Spares.sent (spares : s.Spares next) : next.sent = s.sent := by
  rw [FtpSession.sent, FtpSession.sent, spares.traffic]

theorem Spares.underway (spares : s.Spares next) : next.underway = s.underway := by
  rw [FtpSession.underway, FtpSession.underway, spares.traffic, spares.tasks, spares.pumps]

theorem Spares.length (spares : s.Spares next) :
    next.connections.length = s.connections.length := by
  simpa [FtpSession.traffic] using congrArg List.length spares.traffic

theorem Spares.chunk_iff (spares : s.Spares next) (chunk : Chunk) :
    .sendChunkReady chunk ∈ next.queued ↔ .sendChunkReady chunk ∈ s.queued := by
  have member (t : FtpSession) : .sendChunkReady chunk ∈ t.queued ↔
      .sendChunkReady chunk ∈ t.queued.filter FtpFunctor.pumps := by
    simp [FtpFunctor.pumps]
  rw [member next, member s, spares.pumps]

/-- The transfer goes on, and the connection at most leaves it. -/
theorem Retrieving.spared (retrieving : s.Retrieving content) (spares : s.Spares next)
    (xfer : next.xfer = s.xfer) (xferFd : next.xferFd = s.xferFd)
    (xferGen : next.xferGen = s.xferGen) (offset : next.nextReadOffset = s.nextReadOffset)
    (xferDone : next.xferDone = s.xferDone) (dataConn : s.dataConn = none → next.dataConn = none)
    (connected : next.connected = true → s.connected = true)
    (replies : .transferComplete ∈ next.replies → .transferComplete ∈ s.replies) :
    next.Retrieving content where
  single := spares.length ▸ retrieving.single
  underway := spares.underway ▸ retrieving.underway
  retr := xfer ▸ retrieving.retr
  fresh := by
    rw [spares.transfers, xfer, xferDone, spares.underway, spares.sent]
    intro unbegun
    obtain ⟨idle, undone, nothing, unsent, silent⟩ := retrieving.fresh unbegun
    exact ⟨idle, undone, nothing, unsent, mt replies silent⟩
  unconnected := by
    rw [xferFd, xferDone, spares.underway, ← List.length_eq_zero_iff, spares.length,
      List.length_eq_zero_iff]
    intro empty
    obtain ⟨free, unopened, undone, nothing, silent⟩ := retrieving.unconnected empty
    exact ⟨dataConn free, unopened, undone, nothing, mt replies silent⟩
  waiting := by
    rw [xfer, xferFd, offset, spares.underway, spares.sent]
    exact retrieving.waiting
  reads := by
    rw [xfer, spares.tasks, xferGen]
    simp only [At, offset, spares.sent]
    exact retrieving.reads
  chunks := by
    rw [xfer, xferGen]
    simp only [At, offset, spares.sent, spares.chunk_iff]
    exact retrieving.chunks
  idle := by
    rw [xfer, spares.tasks, spares.sent, offset]
    simp only [spares.chunk_iff]
    exact fun active up => retrieving.idle active (connected up)
  done := by
    rw [xferDone, spares.sent, spares.underway]
    exact retrieving.done
  complete := by
    rw [spares.sent, xfer]
    exact fun told => retrieving.complete (replies told)

/-- The transfer is over. It was completed only if everything had been sent. -/
theorem Retrieving.cleared (retrieving : s.Retrieving content) (spares : s.Spares next)
    (xfer : next.xfer = .kNone) (xferFd : next.xferFd = none) (xferDone : next.xferDone = false)
    (dataConn : s.dataConn = none → next.dataConn = none)
    (replies : .transferComplete ∈ next.replies →
      .transferComplete ∈ s.replies ∨ s.xferDone = true) : next.Retrieving content where
  single := spares.length ▸ retrieving.single
  underway := spares.underway ▸ retrieving.underway
  retr := by simp [xfer]
  fresh := by
    rw [spares.transfers, spares.underway, spares.sent]
    intro unbegun
    obtain ⟨_, undone, nothing, unsent, silent⟩ := retrieving.fresh unbegun
    exact ⟨xfer, xferDone, nothing, unsent,
      fun told => (replies told).elim silent (by simp [undone])⟩
  unconnected := by
    rw [spares.underway, ← List.length_eq_zero_iff, spares.length, List.length_eq_zero_iff]
    intro empty
    obtain ⟨free, _, undone, nothing, silent⟩ := retrieving.unconnected empty
    exact ⟨dataConn free, xferFd, xferDone, nothing,
      fun told => (replies told).elim silent (by simp [undone])⟩
  waiting := fun active => absurd xfer active
  reads := fun active => absurd xfer active
  chunks := fun active => absurd xfer active
  idle := fun active => absurd xfer active
  done := by simp [xferDone]
  complete := by
    rw [spares.sent]
    intro told
    rcases replies told with before | done
    · exact ⟨(retrieving.complete before).1, xfer⟩
    · exact ⟨(retrieving.done done).1, xfer⟩

/-! ## Connections -/

/-- The data connection that is up is the only connection. -/
theorem connected_single (single : s.connections.length ≤ 1) (up : s.connected = true) :
    ∃ c, s.dataConn = some 0 ∧ s.connections = [c] ∧ c.state = .KConnected := by
  obtain ⟨id, c, taken, found, established⟩ := connected_inv up
  obtain ⟨bound, _⟩ := List.getElem?_eq_some_iff.mp found
  obtain rfl : id = 0 := by omega
  obtain ⟨first, list⟩ := List.length_eq_one_iff.mp (by omega : s.connections.length = 1)
  obtain rfl : first = c := by simpa [list] using found
  exact ⟨first, taken, list, established⟩

/-! ## Nothing is under way -/

theorem chunk_pumping {chunk : Chunk} (member : .sendChunkReady chunk ∈ s.queued) :
    0 < (s.queued.filter FtpFunctor.pumps).length :=
  List.length_pos_of_mem (List.mem_filter.mpr ⟨member, rfl⟩)

/-- What it means that nothing is under way. -/
theorem underway_zero (nothing : s.underway = 0) :
    s.tasks = [] ∧ (∀ chunk, .sendChunkReady chunk ∉ s.queued) ∧
      ∀ entry ∈ s.traffic, entry.2 = [] := by
  unfold FtpSession.underway at nothing
  refine ⟨List.length_eq_zero_iff.mp (by omega), ?_, ?_⟩
  · intro chunk member
    have := chunk_pumping member
    omega
  · intro entry member
    have drained : s.traffic.countP (fun entry => entry.2 ≠ []) = 0 := by omega
    simpa using List.countP_eq_zero.mp drained entry member

/-- The loop takes a functor of the pump, and it was the only thing under way. -/
theorem underway_remaining
    (running : s.functors = some (functor :: rest)) (pumps : functor.pumps = true) :
    s.underway = (s.remaining rest).underway + 1 := by
  simp only [FtpSession.underway, queued, remaining, running, Option.getD_some, List.cons_append,
    List.filter_cons, pumps, if_true, List.length_cons, traffic]
  omega

/-- The invariant of a state in which no read and no result is under way. -/
theorem Retrieving.settled (single : s.connections.length ≤ 1) (underway : s.underway ≤ 1)
    (retr : s.xfer ≠ .kList) (begun : s.transfers ≠ 0) (connections : s.connections ≠ [])
    (opened : s.xfer ≠ .kNone → s.xferFd ≠ none) (tasks : s.tasks = [])
    (chunks : ∀ chunk, .sendChunkReady chunk ∉ s.queued)
    (idle : s.xfer ≠ .kNone → s.connected = true → s.sent = content.take s.nextReadOffset)
    (done : s.xferDone = true → s.sent = content ∧ s.underway = 0)
    (complete : .transferComplete ∈ s.replies → s.sent = content ∧ s.xfer = .kNone) :
    s.Retrieving content where
  single := single
  underway := underway
  retr := retr
  fresh := fun unbegun => absurd unbegun begun
  unconnected := fun empty => absurd empty connections
  waiting := fun active unopened => absurd unopened (opened active)
  reads := by simp [tasks]
  chunks := fun _ chunk member => absurd member (chunks chunk)
  idle := fun active up _ _ => idle active up
  done := done
  complete := complete

/-- What is known of a session with something under way. -/
theorem Retrieving.busy (retrieving : s.Retrieving content) (something : s.underway ≠ 0) :
    s.transfers ≠ 0 ∧ s.connections ≠ [] ∧ (s.xfer ≠ .kNone → s.xferFd ≠ none) ∧
      s.xferDone = false := by
  refine ⟨?_, ?_, ?_, ?_⟩
  · intro unbegun
    exact something (retrieving.fresh unbegun).2.2.1
  · intro empty
    exact something (retrieving.unconnected empty).2.2.2.1
  · intro active unopened
    exact something (retrieving.waiting active unopened).1
  · cases done : s.xferDone with
    | false => rfl
    | true => exact absurd (retrieving.done done).2 something

/-! ## The pump -/

/-- A read is submitted while nothing else is under way. -/
theorem Retrieving.reading (retrieving : s.Retrieving content) (nothing : s.underway = 0)
    (active : s.xfer ≠ .kNone) (up : s.connected = true) (opened : s.xferFd ≠ none)
    (undone : s.xferDone = false) : s.reading.Retrieving content := by
  obtain ⟨noTasks, noChunks, _⟩ := underway_zero nothing
  have offset := retrieving.idle active up noTasks noChunks
  have once : s.reading.underway = 1 := by
    have zero : s.tasks.length + (s.queued.filter FtpFunctor.pumps).length +
        s.traffic.countP (fun entry => entry.2 ≠ []) = 0 := nothing
    have grown : s.reading.underway = (s.tasks.length + 1) +
        (s.queued.filter FtpFunctor.pumps).length +
          s.traffic.countP (fun entry => entry.2 ≠ []) :=
      congrArg (· + _ + _) (List.length_append ..)
    omega
  refine
    { single := retrieving.single
      underway := once.le
      retr := retrieving.retr
      fresh := fun unbegun => absurd (retrieving.fresh unbegun).1 active
      unconnected := fun empty => absurd (retrieving.unconnected empty).2.1 opened
      waiting := fun _ unopened => absurd unopened opened
      reads := ?_
      chunks := fun _ chunk member => absurd member (noChunks chunk)
      idle := fun _ _ empty => by simp [FtpSession.reading] at empty
      done := fun done => absurd (undone.symm.trans done) (by simp)
      complete := retrieving.complete }
  intro _ task member
  have only : task = { gen := s.xferGen, work := .pread s.xferFd s.nextReadOffset } := by
    simpa [FtpSession.reading, noTasks] using member
  rw [only]
  exact ⟨rfl, _, _, rfl, rfl, offset⟩

theorem Retrieving.giveUp (retrieving : s.Retrieving content) {text : Reply}
    (other : text ≠ .transferComplete) : (s.giveUp text).Retrieving content :=
  retrieving.cleared (giveUp_spares s text) rfl rfl rfl id
    fun told => .inl ((reply_mem (s := s) told).resolve_left other.symm)

theorem Retrieving.requests (retrieving : s.Retrieving content) (nothing : s.underway = 0)
    (opened : s.xfer ≠ .kNone → s.xferFd ≠ none) (undone : s.xferDone = false)
    (requests : s.Requests input next) : next.Retrieving content := by
  cases requests with
  | idle => exact retrieving
  | reads up retr =>
    have active : s.xfer ≠ .kNone := by simp [retr]
    exact retrieving.reading nothing active up (opened active) undone
  | lists _ list => exact absurd list retrieving.retr
  | ends _ list => exact absurd list retrieving.retr
  | rejected => exact retrieving.giveUp nofun

theorem Unsent.retrieving (fresh : s.Unsent) : s.Retrieving content := by
  obtain ⟨noTasks, noChunks, _⟩ := underway_zero fresh.nothing
  exact
    { single := fresh.single
      underway := fresh.nothing.le.trans (Nat.zero_le 1)
      retr := fresh.retr
      fresh := fun unbegun =>
        ⟨fresh.begun unbegun, fresh.undone, fresh.nothing, fresh.unsent, fresh.silent⟩
      unconnected := fun empty => ⟨(fresh.unconnected empty).1, (fresh.unconnected empty).2,
        fresh.undone, fresh.nothing, fresh.silent⟩
      waiting := fun active _ => ⟨fresh.nothing, fresh.unsent, fresh.offset active⟩
      reads := by simp [noTasks]
      chunks := fun _ chunk member => absurd member (noChunks chunk)
      idle := fun active _ _ _ => by rw [fresh.unsent, fresh.offset active, List.take_zero]
      done := fun done => absurd (fresh.undone.symm.trans done) (by simp)
      complete := fun told => absurd told fresh.silent }

theorem Unsent.openHandle (fresh : s.Unsent) (up : s.connected = true) :
    (s.openHandle input).Unsent := by
  obtain ⟨c, _, connections, _⟩ := connected_single fresh.single up
  exact { fresh with unconnected := fun empty => absurd (connections.symm.trans empty) (by simp) }

theorem Unsent.starts (fresh : s.Unsent) (starts : s.Starts input next) :
    next.Retrieving content := by
  cases starts with
  | waits => exact fresh.retrieving
  | refused up _ _ =>
    have opened : (s.openHandle input).Retrieving content := (fresh.openHandle up).retrieving
    refine opened.spared (refuse_spares _) rfl rfl rfl rfl rfl id
      (connected_onData forceClose_falls) fun told => ?_
    refine (reply_mem (s := s.openHandle input) told).resolve_left ?_
    split <;> exact nofun
  | pumps up active opened requests =>
    have handle : (s.openHandle input).Unsent := fresh.openHandle up
    refine handle.retrieving.requests handle.nothing (fun _ => ?_) fresh.undone requests
    have retr : s.xfer = .kRetr := by
      cases kind : s.xfer with
      | kNone => exact absurd kind active
      | kList => exact absurd kind fresh.retr
      | kRetr => rfl
    simpa [FtpSession.openHandle, retr] using opened

/-! ## Commands and connections -/

theorem Retrieving.retrieves (retrieving : s.Retrieving content) (unbegun : s.transfers = 0)
    {path : List UInt8}
    (starts : ((s.beginRetr path).cancel.reply .openingBinary).Starts input next) :
    next.Retrieving content := by
  obtain ⟨_, _, nothing, unsent, silent⟩ := retrieving.fresh unbegun
  have fresh : ((s.beginRetr path).cancel.reply .openingBinary).Unsent :=
    { single := retrieving.single
      nothing := nothing
      unsent := unsent
      retr := nofun
      undone := rfl
      begun := fun unbegun => absurd unbegun (Nat.succ_ne_zero _)
      offset := fun _ => rfl
      silent := fun told => silent ((reply_mem (s := s) told).resolve_left nofun)
      unconnected := fun empty =>
        ⟨(retrieving.unconnected empty).1, (retrieving.unconnected empty).2.1⟩ }
  exact fresh.starts starts

theorem Retrieving.closeDataServer (retrieving : s.Retrieving content) :
    s.closeDataServer.Retrieving content :=
  retrieving.spared (closeDataServer_spares s) rfl rfl rfl rfl rfl (fun _ => rfl) nofun id

theorem Retrieving.cmdPasv (retrieving : s.Retrieving content) :
    (s.cmdPasv input).Retrieving content := by
  have replies (told : .transferComplete ∈ (s.cmdPasv input).replies) :
      .transferComplete ∈ s.replies := by
    unfold FtpSession.cmdPasv at told
    split at told
    · exact (reply_mem (s := s) told).resolve_left nofun
    · exact (reply_mem (s := s) told).resolve_left nofun
  have connected (up : (s.cmdPasv input).connected = true) : s.connected = true := by
    unfold FtpSession.cmdPasv at up
    split at up
    · cases up
    · exact up
  have dataConn (free : s.dataConn = none) : (s.cmdPasv input).dataConn = none := by
    unfold FtpSession.cmdPasv
    split
    · rfl
    · exact free
  have same : (s.cmdPasv input).xfer = s.xfer ∧ (s.cmdPasv input).xferFd = s.xferFd ∧
      (s.cmdPasv input).xferGen = s.xferGen ∧
      (s.cmdPasv input).nextReadOffset = s.nextReadOffset ∧
      (s.cmdPasv input).xferDone = s.xferDone := by
    unfold FtpSession.cmdPasv
    split
    · exact ⟨rfl, rfl, rfl, rfl, rfl⟩
    · exact ⟨rfl, rfl, rfl, rfl, rfl⟩
  obtain ⟨xfer, xferFd, xferGen, offset, xferDone⟩ := same
  exact retrieving.spared (cmdPasv_spares s input) xfer xferFd xferGen offset xferDone dataConn
    connected replies

theorem Retrieving.obeys {line : List UInt8} (retrieving : s.Retrieving content)
    (single : s.Single (.command line input)) (obeys : s.Obeys line input next) :
    next.Retrieving content := by
  cases obeys with
  | chats state text _ plain =>
    refine retrieving.spared ⟨rfl, rfl, rfl, rfl⟩ rfl rfl rfl rfl rfl id id fun told => ?_
    refine (reply_mem (s := s) told).resolve_left fun same => ?_
    rw [← same] at plain
    cases plain
  | passive => exact retrieving.cmdPasv
  | lists longNames asked begins _ => exact absurd asked ((single begins).2 longNames)
  | retrieves arg asked begins starts => exact retrieving.retrieves (single begins).1 starts
  | quits =>
    exact retrieving.spared ⟨rfl, rfl, rfl, rfl⟩ rfl rfl rfl rfl rfl id id fun told =>
      (reply_mem (s := s) told).resolve_left nofun

theorem Retrieving.accepts {server : Nat} (retrieving : s.Retrieving content)
    (empty : s.connections = []) (accepts : s.Accepts server input next) :
    next.Retrieving content := by
  obtain ⟨free, unopened, undone, nothing, silent⟩ := retrieving.unconnected empty
  cases accepts with
  | extra taken => simp [free] at taken
  | first _ starts =>
    have traffic : ((s.addConnection server).takeConnection s.connections.length).traffic =
        [([], [])] := by
      simp [FtpSession.traffic, takeConnection, onConnection, addConnection, empty,
        DataConnection.new, DataConnection.setWriteCompleteCallback]
    have before : s.traffic = [] := by simp [FtpSession.traffic, empty]
    have fresh : ((s.addConnection server).takeConnection s.connections.length).Unsent :=
      { single := by simp [takeConnection, onConnection, addConnection, empty]
        nothing := by
          rw [FtpSession.underway, before] at nothing
          rw [FtpSession.underway, traffic]
          exact nothing
        unsent := by simp [sent, traffic]
        retr := retrieving.retr
        undone := undone
        begun := fun unbegun => (retrieving.fresh unbegun).1
        offset := fun active => (retrieving.waiting active unopened).2.2
        silent := silent
        unconnected := by simp [takeConnection, onConnection, addConnection, empty] }
    exact fresh.starts starts

/-- Only a transfer that has sent everything is completed. -/
theorem lose_replies {id server : Nat} (told : .transferComplete ∈ (s.lose id server).replies) :
    .transferComplete ∈ s.replies ∨ s.xferDone = true := by
  have ended : .transferComplete ∈ (s.onConnection id DataConnection.close).endTransfer.replies :=
    told
  rcases (s.onConnection id DataConnection.close).endTransfer_cases with
    ⟨_, _, aborted⟩ | ⟨ended', completed⟩
  · rw [aborted] at ended
    exact .inl ((reply_mem (s := s) ended).resolve_left (by simp))
  · rw [completed, sendDataEndReply, endReply] at ended
    split at ended
    · exact .inl ended
    · exact .inl ((reply_mem (s := s) ended).resolve_left (by simp))
    case h_3 retr => exact .inr (ended'.resolve_left (by simp [retr]))

theorem Retrieving.lose (retrieving : s.Retrieving content) (id server : Nat) :
    (s.lose id server).Retrieving content := by
  have clears := lose_clears s id server
  exact retrieving.cleared (lose_spares s id server) clears.xfer clears.xferFd clears.xferDone
    (fun free => clears.dataConn.trans free) lose_replies

theorem Retrieving.pasvTimeout (retrieving : s.Retrieving content) (timer : Nat) :
    (s.pasvTimeout timer).Retrieving content := by
  unfold FtpSession.pasvTimeout
  simp only
  have expired : Retrieving content { s with timers := s.timers.filter (· ≠ timer) } :=
    retrieving.spared ⟨rfl, rfl, rfl, rfl⟩ rfl rfl rfl rfl rfl id id id
  split
  · refine Retrieving.closeDataServer ?_
    exact expired.spared (reply_spares _ _) rfl rfl rfl rfl rfl id id fun told =>
      (reply_mem (s := s) told).resolve_left nofun
  · exact expired

/-- The kernel takes bytes of the output of the only connection. -/
theorem Retrieving.drain (retrieving : s.Retrieving content) {id count : Nat} {c : DataConnection}
    (found : s.connections[id]? = some c) (pending : c.output ≠ []) :
    (s.drain id count c).Retrieving content := by
  obtain ⟨bound, _⟩ := List.getElem?_eq_some_iff.mp found
  have single := retrieving.single
  obtain rfl : id = 0 := by omega
  obtain ⟨only, list⟩ := List.length_eq_one_iff.mp (by omega : s.connections.length = 1)
  obtain rfl : only = c := by simpa [list] using found
  have before : s.traffic = [(only.sent, only.output)] := by simp [traffic, list]
  have one := retrieving.underway
  simp only [FtpSession.underway, before, List.countP_singleton, pending, ne_eq,
    not_false_eq_true, decide_true, if_true] at one
  have quiet : (s.queued.filter FtpFunctor.pumps).length = 0 := by omega
  have tasks : s.tasks = [] := List.length_eq_zero_iff.mp (by omega)
  have something : s.underway ≠ 0 := by simp [FtpSession.underway, before, pending]
  obtain ⟨begun, connections, opened, undone⟩ := retrieving.busy something
  have noChunk (chunk : Chunk) : .sendChunkReady chunk ∉ s.queued := by
    intro member
    have := chunk_pumping member
    omega
  obtain ⟨sent, _, _, _, drained⟩ := handleWrite_spec only count
  have after : (s.drain 0 count only).traffic =
      [(only.sent, (only.handleWrite count).1.output)] := by
    simp [traffic, FtpSession.drain, list, sent]
  have same : (s.drain 0 count only).sent = s.sent := by simp [FtpSession.sent, after, before]
  refine .settled ?_ ?_ retrieving.retr begun ?_ opened tasks ?_ ?_ ?_ ?_
  · simp [FtpSession.drain, list]
  · rw [FtpSession.underway, after, drain_queued, List.filter_append, List.length_append, quiet]
    have noTasks : (s.drain 0 count only).tasks.length = 0 := congrArg List.length tasks
    rw [noTasks, List.countP_singleton]
    split
    case isTrue notified =>
      rw [drained notified]
      exact Nat.le_refl 1
    · split <;> simp
  · simp [FtpSession.drain, list]
  · intro chunk member
    rw [drain_queued, List.mem_append] at member
    refine member.elim (noChunk chunk) fun new => ?_
    split at new <;> simp at new
  · intro active up
    rw [same]
    exact retrieving.idle active ((drain_connected found).symm.trans up) tasks noChunk
  · intro done
    exact absurd (undone.symm.trans done) (by simp)
  · rw [same]
    exact retrieving.complete

/-! ## Results of the disk pool -/

/-- What a full read hands back. -/
theorem chunk_full {task : DiskTask} {result : DiskResult} {fd : Option Nat} {offset : Nat}
    (work : task.work = .pread fd offset) (returns : task.Returns result)
    (posix : task.Posix content result) (full : task.Full content result) :
    (task.chunk result).gen = task.gen ∧ ((task.chunk result).ioError = true ∨
      (task.chunk result).bytes = (content.drop offset).take kReadChunkSize ∧
        (task.chunk result).atEof = (task.chunk result).bytes.isEmpty) := by
  obtain ⟨gen, _⟩ := task
  subst work
  cases result with
  | read bytes => exact ⟨rfl, .inr ⟨DiskTask.full_bytes posix full, rfl⟩⟩
  | failed => exact ⟨rfl, .inl rfl⟩
  | stats => exact returns.elim

theorem Retrieving.taskDone (retrieving : s.Retrieving content) {index : Nat} {task : DiskTask}
    {result : DiskResult} (found : s.tasks[index]? = some task) (returns : task.Returns result)
    (posix : task.Posix content result) (full : task.Full content result) :
    (s.finishTask index (task.chunk result)).Retrieving content := by
  obtain ⟨bound, _⟩ := List.getElem?_eq_some_iff.mp found
  have most := retrieving.underway
  unfold FtpSession.underway at most
  have single : s.tasks.length = 1 := by omega
  have something : s.underway ≠ 0 := by
    unfold FtpSession.underway
    omega
  obtain ⟨begun, connections, opened, undone⟩ := retrieving.busy something
  have quiet (chunk : Chunk) : .sendChunkReady chunk ∉ s.queued := by
    intro member
    have := chunk_pumping member
    omega
  have queue : (s.finishTask index (task.chunk result)).queued =
      s.queued ++ [.sendChunkReady (task.chunk result)] := (List.append_assoc ..).symm
  have erased : (s.finishTask index (task.chunk result)).tasks = [] := by
    have length : (s.tasks.eraseIdx index).length = 0 := by
      rw [List.length_eraseIdx_of_lt bound]
      omega
    exact List.length_eq_zero_iff.mp length
  exact
    { single := retrieving.single
      underway := by
        have one : ([.sendChunkReady (task.chunk result)].filter FtpFunctor.pumps).length = 1 := rfl
        have traffic : (s.finishTask index (task.chunk result)).traffic = s.traffic := rfl
        rw [FtpSession.underway, erased, queue, List.filter_append, List.length_append, one,
          traffic,
          List.length_nil]
        omega
      retr := retrieving.retr
      fresh := fun unbegun => absurd unbegun begun
      unconnected := fun empty => absurd empty connections
      waiting := fun active unopened => absurd unopened (opened active)
      reads := by simp [erased]
      chunks := by
        intro active chunk member
        rw [queue, List.mem_append, List.mem_singleton] at member
        obtain same := member.resolve_left (quiet chunk)
        cases same
        obtain ⟨current, fd, offset, work, position⟩ :=
          retrieving.reads active task (List.mem_of_getElem? found)
        obtain ⟨gen, outcome⟩ := chunk_full work returns posix full
        refine ⟨gen.trans current, outcome.imp_right fun whole => ⟨offset, position, whole⟩⟩
      idle := fun _ _ _ unqueued =>
        absurd (queue ▸ List.mem_append_right _ (List.mem_singleton_self _))
          (unqueued (task.chunk result))
      done := fun done => absurd (undone.symm.trans done) (by simp)
      complete := retrieving.complete }

/-- Nothing else was under way with a functor of the pump that the loop takes. -/
theorem Retrieving.taken
    (retrieving : s.Retrieving content) (running : s.functors = some (functor :: rest))
    (pumps : functor.pumps = true) : (s.remaining rest).underway = 0 ∧ s.underway ≠ 0 := by
  have counted := underway_remaining running pumps
  have most := retrieving.underway
  omega

/-- The invariant of a state in which nothing is under way. -/
theorem Retrieving.rested (before : s.Retrieving content) (something : s.underway ≠ 0)
    (traffic : next.traffic = s.traffic) (transfers : next.transfers = s.transfers)
    (nothing : next.underway = 0) (retr : next.xfer ≠ .kList)
    (opened : next.xfer ≠ .kNone → s.xfer ≠ .kNone ∧ next.xferFd = s.xferFd)
    (idle : next.xfer ≠ .kNone → next.connected = true →
      next.sent = content.take next.nextReadOffset)
    (done : next.xferDone = true → next.sent = content)
    (complete : .transferComplete ∈ next.replies → next.sent = content ∧ next.xfer = .kNone) :
    next.Retrieving content := by
  obtain ⟨begun, connections, handle, _⟩ := before.busy something
  obtain ⟨tasks, chunks, _⟩ := underway_zero nothing
  have length : next.connections.length = s.connections.length := by
    simpa [FtpSession.traffic] using congrArg List.length traffic
  refine .settled (length ▸ before.single) (nothing.le.trans (Nat.zero_le 1)) retr
    (transfers ▸ begun) ?_ ?_ tasks chunks idle (fun told => ⟨done told, nothing⟩) complete
  · rw [ne_eq, ← List.length_eq_zero_iff, length, List.length_eq_zero_iff]
    exact connections
  · intro active
    obtain ⟨running, same⟩ := opened active
    exact same ▸ handle running

theorem Retrieving.writeComplete {id : Nat} {bound : Bool} (retrieving : s.Retrieving content)
    (running : s.functors = some (.writeComplete id bound :: rest))
    (requests : (s.remaining rest).Requests input next) : next.Retrieving content := by
  obtain ⟨nothing, something⟩ := retrieving.taken running rfl
  obtain ⟨_, _, opened, undone⟩ := retrieving.busy something
  obtain ⟨tasks, chunks, _⟩ := underway_zero nothing
  have remaining : (s.remaining rest).Retrieving content := by
    refine retrieving.rested something rfl rfl nothing retrieving.retr (fun active => ⟨active, rfl⟩)
      (fun active up => ?_) (fun done => (retrieving.done done).1) retrieving.complete
    refine retrieving.idle active up tasks fun chunk member => chunks chunk ?_
    rw [queued_remaining running] at member
    exact (List.mem_cons.mp member).resolve_left nofun
  exact remaining.requests nothing opened undone requests

/-- A chunk is given to the only connection while nothing is under way. Then at most its output
or its notification is. -/
theorem sendData_single {bytes : List UInt8} (single : s.connections.length ≤ 1)
    (nothing : s.underway = 0) (up : s.connected = true) :
    (s.sendData bytes input).sent = s.sent ++ bytes ∧ (s.sendData bytes input).underway ≤ 1 ∧
      (s.sendData bytes input).connections ≠ [] ∧
      (s.sendData bytes input).connections.length ≤ 1 ∧
      ∀ chunk, .sendChunkReady chunk ∉ (s.sendData bytes input).queued := by
  obtain ⟨c, taken, connections, established⟩ := connected_single single up
  obtain ⟨tasks, chunks, drained⟩ := underway_zero nothing
  have empty : c.output = [] := drained (c.sent, c.output) (by simp [traffic, connections])
  have conn : s.conn? = some c := by simp [conn?, taken, connections]
  have after : (s.sendData bytes input).connections =
      [c.took bytes (if input.faultError then [] else bytes.drop input.nwrote)] := by
    simp [sendData, onData, taken, connections, DataConnection.send, established, empty]
  have queue : (s.sendData bytes input).queued = s.queued ++ s.notified bytes input :=
    (List.append_assoc ..).symm
  have notified : s.notified bytes input =
      if (decide (0 < input.nwrote ∧ bytes.length - input.nwrote = 0) && c.writeCompleteCallback)
        then [.writeComplete 0 true] else [] := by
    simp [FtpSession.notified, taken, conn, DataConnection.send, established, empty]
  refine ⟨?_, ?_, by simp [after], by simp [after], ?_⟩
  · simp [sent, traffic, after, connections, DataConnection.took]
  · have quiet : (s.queued.filter FtpFunctor.pumps).length = 0 := by
      unfold FtpSession.underway at nothing
      omega
    have noTasks : (s.sendData bytes input).tasks.length = 0 := congrArg List.length tasks
    rw [FtpSession.underway, noTasks, queue, List.filter_append, List.length_append, quiet,
      notified,
      traffic, after]
    split
    case isTrue complete =>
      have all : bytes.length ≤ input.nwrote := by
        simp only [Bool.and_eq_true, decide_eq_true_eq] at complete
        omega
      have empty : (if input.faultError then [] else bytes.drop input.nwrote) = [] := by
        rw [List.drop_eq_nil_of_le all, ite_self]
      rw [empty]
      rfl
    · generalize c.took bytes _ = kept
      rw [List.map_singleton, List.countP_singleton]
      split <;> simp
  · intro chunk member
    rw [queue, List.mem_append] at member
    refine member.elim (chunks chunk) fun new => ?_
    rw [notified] at new
    split at new <;> simp at new

theorem Retrieving.delivers {chunk : Chunk} (retrieving : s.Retrieving content)
    (running : s.functors = some (.sendChunkReady chunk :: rest))
    (delivers : (s.remaining rest).Delivers chunk input next) : next.Retrieving content := by
  obtain ⟨nothing, something⟩ := retrieving.taken running rfl
  have member : .sendChunkReady chunk ∈ s.queued := by
    rw [queued_remaining running]
    exact List.mem_cons_self
  have incomplete (active : s.xfer ≠ .kNone) : .transferComplete ∉ s.replies :=
    fun told => active (retrieving.complete told).2
  cases delivers with
  | stale old =>
    have ended : s.xfer = .kNone := by
      by_contra active
      exact old.elim (fun other => other (retrieving.chunks active chunk member).1) active
    exact retrieving.rested something rfl rfl nothing retrieving.retr
      (fun active => absurd ended active) (fun active => absurd ended active)
      (fun done => (retrieving.done done).1) retrieving.complete
  | fails current active error =>
    have spares := giveUp_spares (s.remaining rest)
      (if s.xfer = .kRetr then .readError else .failedToList)
    refine retrieving.rested something spares.traffic spares.transfers
      (spares.underway.trans nothing) nofun (fun active => absurd rfl active)
      (fun active => absurd rfl active) nofun fun told => ?_
    have before := reply_mem (s := s) told
    refine absurd (before.resolve_left ?_) (incomplete active)
    split <;> exact nofun
  | ends current active sound empty atEof taken =>
    obtain ⟨offset, position, bytes, _⟩ :=
      (retrieving.chunks active chunk member).2.resolve_left (by simp [sound])
    have reached : content.length ≤ offset := by
      rw [empty] at bytes
      have length := congrArg List.length bytes
      simp only [List.length_nil, List.length_take, List.length_drop, kReadChunkSize] at length
      omega
    have whole : s.sent = content := position.2.trans (List.take_of_length_le reached)
    have spares := finished_spares (s.remaining rest)
    have same : (s.remaining rest).finished.sent = content := spares.sent.trans whole
    refine retrieving.rested something spares.traffic spares.transfers
      (spares.underway.trans nothing) retrieving.retr (fun active => ⟨active, rfl⟩) (fun _ _ => ?_)
      (fun _ => same) fun told => absurd told (incomplete active)
    have later : (s.remaining rest).finished.nextReadOffset = offset + kReadChunkSize := position.1
    rw [same, later, List.take_of_length_le (by omega)]
  | dropped current active sound down =>
    exact retrieving.rested something rfl rfl nothing retrieving.retr
      (fun active => ⟨active, rfl⟩) (fun _ up => absurd (down.symm.trans up) (by simp))
      (fun done => (retrieving.done done).1) retrieving.complete
  | sends current active sound up more =>
    obtain ⟨offset, position, bytes, _⟩ :=
      (retrieving.chunks active chunk member).2.resolve_left (by simp [sound])
    obtain ⟨begun, _, opened, undone⟩ := retrieving.busy something
    obtain ⟨sent, most, connections, single, noChunk⟩ :=
      sendData_single (s := s.remaining rest) retrieving.single nothing up
    refine .settled single most retrieving.retr begun connections opened
      (underway_zero nothing).1 noChunk (fun _ _ => ?_)
      (fun done => absurd (undone.symm.trans done) (by simp))
      fun told => absurd told (incomplete active)
    have before : (s.remaining rest).sent = content.take offset := position.2
    have later : ((s.remaining rest).sendData chunk.bytes input).nextReadOffset =
        offset + kReadChunkSize := position.1
    rw [sent, before, later, bytes, List.take_add]
  | sendsLast current active sound up nonempty atEof =>
    obtain ⟨_, _, _, last⟩ :=
      (retrieving.chunks active chunk member).2.resolve_left (by simp [sound])
    simp [atEof, nonempty] at last

theorem Retrieving.call
    (retrieving : s.Retrieving content) (running : s.functors = some (functor :: rest))
    (done : (s.remaining rest).call functor input = some next) : next.Retrieving content := by
  have other (quiet : functor.pumps = false) : (s.remaining rest).Retrieving content :=
    retrieving.spared (remaining_spares running quiet) rfl rfl rfl rfl rfl id id id
  cases functor with
  | closeDataServer =>
    cases done
    exact (other rfl).closeDataServer
  | deleteServer server =>
    refine destroyConnections_keeps (Retrieving content) ?_ ?_ done
    · intro s id c retrieving _ _ _
      exact retrieving.lose id server
    · exact (other rfl).spared ⟨rfl, rfl, rfl, rfl⟩ rfl rfl rfl rfl rfl id id id
  | sendChunkReady chunk => exact retrieving.delivers running (sendChunkReady_inv done)
  | writeComplete id bound => exact retrieving.writeComplete running (writeComplete_inv done)
  | forceCloseInLoop id =>
    rcases forceCloseInLoop_inv done with rfl | ⟨c, _, _, rfl⟩
    · exact other rfl
    · exact (other rfl).lose id c.server

theorem step_retrieving (retrieving : s.Retrieving content) (enabled : s.Enabled label)
    (single : s.Single label) (reads : s.Reads content label) (fully : s.ReadsFully content label)
    (done : s.step label = some next) : next.Retrieving content := by
  cases label with
  | command line input => exact retrieving.obeys single (handleCommand_inv done)
  | accept server input => exact retrieving.accepts single (accept_inv done)
  | dataClosed id =>
    obtain ⟨c, _, _, rfl⟩ := handleClose_inv done
    exact retrieving.lose id c.server
  | dataWritable id count =>
    obtain ⟨c, found, rfl⟩ := handleWrite_inv done
    obtain ⟨_, _, same, listed, _, pending, _⟩ := enabled
    cases found.symm.trans listed
    exact retrieving.drain found pending
  | timeout timer =>
    cases done
    exact retrieving.pasvTimeout timer
  | ctrlForceClose =>
    cases done
    exact retrieving.spared ⟨rfl, rfl, rfl, rfl⟩ rfl rfl rfl rfl rfl id id id
  | ctrlClosed =>
    cases done
    exact retrieving.spared ⟨rfl, rfl, rfl, rfl⟩ rfl rfl rfl rfl rfl id id id
  | taskDone index result =>
    obtain ⟨task, found, rfl⟩ := taskDone_inv done
    obtain ⟨same, listed, returns⟩ := enabled
    cases found.symm.trans listed
    exact retrieving.taskDone found returns (reads task found) (fully task found)
  | beginFunctors =>
    cases done
    exact retrieving.spared (beginFunctors_spares enabled) rfl rfl rfl rfl rfl id id id
  | runFunctor input =>
    obtain ⟨functor, rest, running, called⟩ := runFunctor_inv done enabled.1
    exact retrieving.call running called
  | endFunctors =>
    cases done
    exact retrieving.spared (endFunctors_spares enabled) rfl rfl rfl rfl rfl id id id

theorem initial_retrieving (content : List UInt8) : initial.Retrieving content :=
  Unsent.retrieving
    { single := Nat.zero_le 1
      nothing := rfl
      unsent := rfl
      retr := nofun
      undone := rfl
      begun := fun _ => rfl
      offset := fun _ => rfl
      silent := by decide
      unconnected := fun _ => ⟨rfl, rfl⟩ }

end Steps

/-- In every session with one `RETR` on one data connection, in which every read of the file
returns all that was asked for or all that is left, a completed transfer has sent the file.

Proof: at most one thing is under way for the transfer, and what was sent ends at the offset of
the read that is under way, or else at the offset of the next one. The transfer is done when a read
at or after the end of the file comes back. -/
theorem retrieve_delivers (content : List UInt8) (labels : List Label) (final : FtpSession)
    (valid : system.Valid initial labels) (single : system.Along Single initial labels)
    (reads : system.Along (Reads content) initial labels)
    (fully : system.Along (ReadsFully content) initial labels)
    (finished : system.run initial labels = some final)
    (complete : .transferComplete ∈ final.replies) :
    ∃ c, final.connections = [c] ∧ c.sent.flatten = content := by
  have retrieving : final.Retrieving content := by
    refine System.run_invariant (Retrieving content) ?_ initial final labels
      (initial_retrieving content)
      ((System.along_and _ _ _ _).mpr ⟨(System.along_and _ _ _ _).mpr ⟨valid, single⟩,
        (System.along_and _ _ _ _).mpr ⟨reads, fully⟩⟩) finished
    rintro s label next retrieving ⟨⟨enabled, single⟩, reads, fully⟩ done
    exact step_retrieving retrieving enabled single reads fully done
  have connected : final.connections ≠ [] := fun empty =>
    (retrieving.unconnected empty).2.2.2.2 complete
  have length := List.length_pos_iff.mpr connected
  have most := retrieving.single
  obtain ⟨c, list⟩ := List.length_eq_one_iff.mp (by omega : final.connections.length = 1)
  refine ⟨c, list, ?_⟩
  have sent := (retrieving.complete complete).1
  simpa [FtpSession.sent, traffic, list] using sent

instance (s : FtpSession) : DecidablePred s.Single
  | .command .. => instDecidableForall
  | .accept .. => decEq _ _
  | .dataClosed _ | .dataWritable .. | .timeout _ | .ctrlForceClose | .ctrlClosed | .taskDone ..
  | .beginFunctors | .runFunctor _ | .endFunctors => instDecidableTrue

instance (content : List UInt8) (s : FtpSession) : DecidablePred (s.Reads content)
  | .taskDone .. => inferInstanceAs (Decidable (∀ _ ∈ _, _))
  | .command .. | .accept .. | .dataClosed _ | .dataWritable .. | .timeout _ | .ctrlForceClose
  | .ctrlClosed | .beginFunctors | .runFunctor _ | .endFunctors => instDecidableTrue

instance (content : List UInt8) (s : FtpSession) : DecidablePred (s.ReadsFully content)
  | .taskDone .. => inferInstanceAs (Decidable (∀ _ ∈ _, _))
  | .command .. | .accept .. | .dataClosed _ | .dataWritable .. | .timeout _ | .ctrlForceClose
  | .ctrlClosed | .beginFunctors | .runFunctor _ | .endFunctors => instDecidableTrue

/-- A file is asked for after the data connection is up. The first read returns all of it, and the
socket takes one byte at once and the rest later. The second read finds the end of the file, and
the peer closes the connection. -/
def retrievedWhole : List Label :=
  listened
    [.accept 0 {}, .beginFunctors, .endFunctors,
      commandLine ['r', 'e', 't', 'r', ' ', 'f'] { opened := some 9 },
      .taskDone 0 (.read [1, 2, 3]),
      .beginFunctors, .runFunctor { nwrote := 1 }, .endFunctors, .dataWritable 0 2, .beginFunctors,
      .runFunctor {}, .endFunctors, .taskDone 0 (.read []), .beginFunctors, .runFunctor {},
      .endFunctors, .dataClosed 0]

/-- All three bytes arrive in order. -/
theorem retrieve_delivers_whole : ∃ final, system.run initial retrievedWhole = some final ∧
      ∃ c, final.connections = [c] ∧ c.sent.flatten = [1, 2, 3] :=
  ⟨_, rfl, retrieve_delivers [1, 2, 3] retrievedWhole _ (by decide) (by decide)
    (by decide) (by decide) rfl (by decide)⟩

/-- The first read returns two bytes, and the socket takes both at once. -/
def shortened : List Label :=
  sendingFile 9
    [.taskDone 0 (.read [1, 2]), .beginFunctors, .runFunctor { nwrote := 2 }, .endFunctors,
      .beginFunctors, .runFunctor {}, .endFunctors, .taskDone 0 (.read []), .beginFunctors,
      .runFunctor {}, .endFunctors, .dataClosed 0]

/-- The first read of a file of three bytes returns two of them, as it may. The next read is
made after the end of the file, and the transfer is completed without the third byte. -/
theorem short_read_skips : system.Valid initial shortened ∧ system.Along Single initial shortened ∧
      system.Along (Reads [1, 2, 3]) initial shortened ∧
      ∃ final, system.run initial shortened = some final ∧
        .transferComplete ∈ final.replies ∧
        final.connections.map (fun c => c.sent.flatten) = [[1, 2]] :=
  ⟨by decide, by decide, by decide, _, rfl, by decide, rfl⟩

end FtpSession

end Moban
