import Moban.FtpServers

/-!
# The token of the transfer pump

A transfer is pumped by a token that is in one of four places: in a task of the disk pool, in the
functor that hands its chunk to the session, in output that the kernel has not taken, or in the
functor that notifies of drained output. While a transfer is active there should be exactly one.
With none, nothing would ever continue the transfer; with two, chunks could overtake each other.

The session does not look after the token. It is lost with a batch of names of which every
`stat` fails, since the empty chunk that is sent is never drained, and with a chunk that a broken
connection drops. There are two of them when a transfer begins while another one has output left,
and when a connection is taken for a transfer that was started on another one.
-/

namespace Moban

open Runs

/-- A chunk that makes the session do nothing but send no bytes. -/
def Chunk.Blank (chunk : Chunk) : Prop :=
  chunk.bytes = [] ∧ chunk.atEof = false ∧ chunk.ioError = false

instance (chunk : Chunk) : Decidable chunk.Blank := instDecidableAnd

/-- The functor carries the token of the transfer with this generation. A notification carries
the token of any. -/
def FtpFunctor.carries (gen : Nat) : FtpFunctor → Bool
  | .sendChunkReady chunk => decide (chunk.gen = gen)
  | .writeComplete _ _ => true
  | _ => false

namespace FtpSession

/-- The data connection has output that the kernel has not taken. -/
def undrained (s : FtpSession) : Bool := s.conn?.any fun c => !c.output.isEmpty

/-- The tokens that are outstanding. -/
def tokens (s : FtpSession) : Nat :=
  s.tasks.countP (fun task => decide (task.gen = s.xferGen)) +
    s.queued.countP (FtpFunctor.carries s.xferGen) + s.undrained.toNat

/-- The file or the directory of the current transfer is open. -/
def Started (s : FtpSession) : Prop :=
  s.xfer = .kRetr ∧ s.xferFd.isSome = true ∨ s.xfer = .kList ∧ s.xferDir.isSome = true

instance (s : FtpSession) : Decidable s.Started := instDecidableOr

/-- There is a transfer, it is started on a data connection that is up, and not everything was
sent. -/
def Active (s : FtpSession) : Prop :=
  s.xfer ≠ .kNone ∧ s.connected = true ∧ s.Started ∧ s.xferDone = false

instance (s : FtpSession) : Decidable s.Active := instDecidableAnd

/-- A transfer begins only when there is none. A connection is accepted by the current data server
and becomes the data connection. Not every `stat` of a batch fails, and the peer is not gone when
a chunk is sent. -/
def Paced (s : FtpSession) : Label → Prop
  | .command line input => s.Begins line input → s.xfer = .kNone
  | .accept server _ => s.dataServer = some server ∧ s.dataConn = none
  | .taskDone index result => ∀ task ∈ s.tasks[index]?, ¬ (task.chunk result).Blank
  | .runFunctor input => input.faultError = false
  | _ => True

instance (s : FtpSession) : DecidablePred s.Paced
  | .command .. => instDecidableForall
  | .accept .. => instDecidableAnd
  | .taskDone .. => inferInstanceAs (Decidable (∀ _ ∈ _, _))
  | .runFunctor _ => decEq _ _
  | .dataClosed _ | .dataWritable .. | .timeout _ | .ctrlForceClose | .ctrlClosed
  | .beginFunctors | .endFunctors => instDecidableTrue

/-- While the data connection is up and not everything was sent, its callback is installed and
this many tokens are outstanding. No blank chunk is queued. -/
structure Pumping (count : Nat) (s : FtpSession) : Prop where
  callback : s.connected = true → s.conn?.any DataConnection.writeCompleteCallback = true
  tokens : s.connected = true → s.xferDone = false → s.tokens = count
  full : ∀ chunk, .sendChunkReady chunk ∈ s.queued → ¬ chunk.Blank

/-- The number of tokens that there should be. -/
def due (s : FtpSession) : Nat := if s.xfer = .kNone then 0 else 1

section Steps

variable {s next : FtpSession} {input : FtpInput} {label : Label} {count : Nat} {c : DataConnection}
  {rest : List FtpFunctor} {functor : FtpFunctor}

/-! ## Counting tokens -/

theorem countP_carries (gen : Nat) (functors : List FtpFunctor) :
    functors.countP (FtpFunctor.carries gen) =
      (functors.filter FtpFunctor.pumps).countP (FtpFunctor.carries gen) := by
  rw [List.countP_filter]
  refine List.countP_congr fun functor _ => ?_
  cases functor <;> simp [FtpFunctor.carries, FtpFunctor.pumps]

/-- What the pump works with and the data connection are the same. -/
theorem Spares.tokens (spares : s.Spares next) (xferGen : next.xferGen = s.xferGen)
    (conn : next.conn? = s.conn?) : next.tokens = s.tokens := by
  rw [FtpSession.tokens, FtpSession.tokens, undrained, undrained, conn, xferGen, spares.tasks,
    countP_carries, spares.pumps, ← countP_carries]

/-- There is no token exactly if none of the four places has one. -/
theorem tokens_eq_zero_iff : s.tokens = 0 ↔ (∀ task ∈ s.tasks, task.gen ≠ s.xferGen) ∧
    (∀ functor ∈ s.queued, functor.carries s.xferGen = false) ∧ s.undrained = false := by
  simp [tokens, List.countP_eq_zero, and_assoc]

theorem tokens_remaining (running : s.functors = some (functor :: rest)) :
    s.tokens = (s.remaining rest).tokens + (functor.carries s.xferGen).toNat := by
  have left : (s.remaining rest).tokens =
      s.tasks.countP (fun task => decide (task.gen = s.xferGen)) +
        (s.remaining rest).queued.countP (FtpFunctor.carries s.xferGen) + s.undrained.toNat := rfl
  rw [tokens, left, queued_remaining running, List.countP_cons]
  cases functor.carries s.xferGen with
  | false => simp
  | true =>
    simp only [if_true, Bool.toNat_true]
    omega

/-- Functors are queued, and the data connection does something. -/
theorem tokens_queues {more : List FtpFunctor} (queue : next.queued = s.queued ++ more)
    (tasks : next.tasks = s.tasks) (xferGen : next.xferGen = s.xferGen) :
    next.tokens + s.undrained.toNat =
      s.tokens + more.countP (FtpFunctor.carries s.xferGen) + next.undrained.toNat := by
  rw [tokens, tokens, tasks, xferGen, queue, List.countP_append]
  omega

/-- A task of the current generation is submitted. -/
theorem tokens_submits (offset : Nat) (work : DiskWork) : tokens { s with
      nextReadOffset := offset
      tasks := s.tasks ++ [{ gen := s.xferGen, work := work }] } = s.tokens + 1 := by
  have submitted : tokens { s with
      nextReadOffset := offset
      tasks := s.tasks ++ [{ gen := s.xferGen, work := work }] } =
    (s.tasks ++ [(⟨s.xferGen, work⟩ : DiskTask)]).countP
      (fun task => decide (task.gen = s.xferGen)) +
      s.queued.countP (FtpFunctor.carries s.xferGen) + s.undrained.toNat := rfl
  rw [submitted, tokens, List.countP_append, List.countP_singleton, if_pos (decide_eq_true rfl)]
  omega

/-- A task becomes a chunk of the same generation. -/
theorem tokens_finishTask {index : Nat} {task : DiskTask} {chunk : Chunk}
    (found : s.tasks[index]? = some task) (gen : chunk.gen = task.gen) :
    (s.finishTask index chunk).tokens = s.tokens := by
  obtain ⟨bound, here⟩ := List.getElem?_eq_some_iff.mp found
  have split : s.tasks.countP (fun task => decide (task.gen = s.xferGen)) =
      (s.tasks.eraseIdx index).countP (fun task => decide (task.gen = s.xferGen)) +
        (decide (task.gen = s.xferGen)).toNat := by
    rw [← (List.getElem_cons_eraseIdx_perm bound).countP_eq, List.countP_cons, here]
    cases decide (task.gen = s.xferGen) <;> rfl
  have queue : (s.finishTask index chunk).queued = s.queued ++ [.sendChunkReady chunk] :=
    (List.append_assoc ..).symm
  have after : (s.finishTask index chunk).tokens =
      (s.tasks.eraseIdx index).countP (fun task => decide (task.gen = s.xferGen)) +
        (s.finishTask index chunk).queued.countP (FtpFunctor.carries s.xferGen) +
        s.undrained.toNat := rfl
  rw [after, queue, tokens, split, List.countP_append, List.countP_singleton, FtpFunctor.carries,
    gen]
  cases decide (task.gen = s.xferGen) with
  | false => simp
  | true =>
    simp only [if_true, Bool.toNat_true]
    omega

/-! ## The token on the data connection -/

theorem conn?_onData (s : FtpSession) (operation : DataConnection → DataConnection) :
    (s.onData operation).conn? = s.conn?.map operation := by
  unfold conn? onData
  cases s.dataConn with
  | none => rfl
  | some id => simp

/-- A chunk that is sent when there is no output is either left in part, or the notification is
queued. -/
theorem send_token {bytes : List UInt8} {nwrote : Nat}
    (established : c.state = .KConnected) (drained : c.output = [])
    (installed : c.writeCompleteCallback = true) (nonempty : bytes ≠ [])
    (fits : nwrote ≤ bytes.length) :
    (c.send bytes nwrote false).2.toNat + (!(c.send bytes nwrote false).1.output.isEmpty).toNat =
      1 := by
  have positive : 0 < bytes.length := List.length_pos_iff.mpr nonempty
  have sends : c.send bytes nwrote false =
      (c.took bytes (bytes.drop nwrote), decide (0 < nwrote ∧ bytes.length - nwrote = 0)) := by
    simp [DataConnection.send, established, drained, installed]
  rw [sends]
  by_cases all : nwrote = bytes.length
  · simp [all, DataConnection.took, positive]
  · have left : bytes.drop nwrote ≠ [] := by
      rw [Ne, List.drop_eq_nil_iff]
      omega
    have more : ¬ bytes.length - nwrote = 0 := by omega
    simp [DataConnection.took, left, more]

/-- Output that is drained is either left in part, or the notification is queued. -/
theorem handleWrite_token (count : Nat) (nonempty : c.output ≠ [])
    (installed : c.writeCompleteCallback = true) :
    (c.handleWrite count).2.toNat + (!(c.handleWrite count).1.output.isEmpty).toNat = 1 := by
  unfold DataConnection.handleWrite
  split
  · simp only [installed, Bool.and_true]
    by_cases all : c.output.drop count = []
    · simp [all]
    · simp [all]
  · simpa using nonempty

/-! ## What the functions keep -/

/-- Nothing is asked of the tokens while the data connection is down. -/
theorem Pumping.down (pumping : s.Pumping count) (calm : s.Calm next)
    (unconnected : next.connected = false) (other : Nat) : next.Pumping other := by
  have never (up : next.connected = true) : False := by simp [unconnected] at up
  exact ⟨fun up => (never up).elim, fun up => (never up).elim,
    fun chunk member => pumping.full chunk (calm.chunks chunk member)⟩

theorem Pumping.kept (pumping : s.Pumping count) (spares : s.Spares next)
    (conn : next.conn? = s.conn?) (xferGen : next.xferGen = s.xferGen)
    (xferDone : next.xferDone = s.xferDone) : next.Pumping count := by
  refine ⟨?_, ?_, fun chunk member => pumping.full chunk (spares.calm.chunks chunk member)⟩
  · rw [connected, conn]
    exact pumping.callback
  · rw [connected, conn, xferDone, spares.tokens xferGen conn]
    exact pumping.tokens

theorem giveUp_unconnected (s : FtpSession) (text : Reply) : (s.giveUp text).connected = false :=
  shutDownData_unconnected _

/-- A chunk is asked for when there is no token. -/
theorem Pumping.requests (pumping : s.Pumping 0) (requests : s.Requests input next) :
    next.Pumping next.due := by
  cases requests with
  | idle inactive =>
    refine ⟨pumping.callback, fun up undone => ?_, pumping.full⟩
    rw [due, if_pos (inactive.resolve_left (by simp [up]))]
    exact pumping.tokens up undone
  | reads up retr =>
    refine ⟨pumping.callback, fun _ undone => ?_, pumping.full⟩
    rw [due, if_neg (by simp [reading, retr]), reading, tokens_submits, pumping.tokens up undone]
  | lists up list =>
    refine ⟨pumping.callback, fun _ undone => ?_, pumping.full⟩
    have submitted := tokens_submits (s := s) s.nextReadOffset (.stat input.names s.longNameList)
    rw [due, if_neg (by simp [listing, list])]
    exact submitted.trans (by rw [pumping.tokens up undone])
  | ends => exact pumping.down (finished_spares s).calm (finished_unconnected s) _
  | rejected => exact pumping.down (giveUp_spares s _).calm (giveUp_unconnected s .localError) _

/-- A chunk is sent when there is no token. -/
theorem Pumping.sendData {bytes : List UInt8} (pumping : s.Pumping 0)
    (sound : input.faultError = false) (nonempty : bytes ≠ []) (fits : input.nwrote ≤ bytes.length)
    (active : s.xfer ≠ .kNone) :
    (s.sendData bytes input).Pumping (s.sendData bytes input).due := by
  have conn : (s.sendData bytes input).conn? =
      s.conn?.map fun c => (c.send bytes input.nwrote input.faultError).1 := conn?_onData s _
  have rises : (s.sendData bytes input).connected = true → s.connected = true :=
    connected_onData (send_falls bytes input.nwrote input.faultError)
  refine ⟨fun up => ?_, fun up undone => ?_, fun chunk member =>
    pumping.full chunk ((sendData_calm s bytes input).chunks chunk member)⟩
  · rw [conn, Option.any_map]
    have installed := pumping.callback (rises up)
    simpa [Function.comp_def, send_same] using installed
  · obtain ⟨id, c, taken, found, established⟩ := connected_inv (rises up)
    have here : s.conn? = some c := by rw [conn?, taken]; exact found
    have installed : c.writeCompleteCallback = true := by
      simpa [here] using pumping.callback (rises up)
    have noTokens := pumping.tokens (rises up) undone
    have drained : c.output = [] := by
      simpa [undrained, here] using (tokens_eq_zero_iff.mp noTokens).2.2
    have one := send_token established drained installed nonempty fits
    have notifies : (s.notified bytes input).countP (FtpFunctor.carries s.xferGen) =
        (c.send bytes input.nwrote false).2.toNat := by
      rw [notified, taken, here, sound]
      cases tells : (c.send bytes input.nwrote false).2 with
      | false => simp [tells]
      | true => simp [tells, FtpFunctor.carries]
    have kept : (s.sendData bytes input).undrained =
        !(c.send bytes input.nwrote false).1.output.isEmpty := by
      rw [undrained, conn, here, sound]
      rfl
    have counted := tokens_queues (sendData_keeps s bytes input).queued rfl rfl
    rw [notifies, kept, noTokens] at counted
    have empty := (tokens_eq_zero_iff.mp noTokens).2.2
    rw [empty, Bool.toNat_false] at counted
    have asked : (s.sendData bytes input).due = 1 := if_neg active
    omega

/-- The token of the current generation arrives with its chunk. -/
theorem Pumping.delivers {chunk : Chunk} (pumping : s.Pumping 0) (current : chunk.gen = s.xferGen)
    (full : ¬ chunk.Blank) (sound : input.faultError = false)
    (fits : input.nwrote ≤ chunk.bytes.length) (delivers : s.Delivers chunk input next) :
    next.Pumping next.due := by
  cases delivers with
  | stale old =>
    have idle : s.xfer = .kNone := old.resolve_left fun other => other current
    rw [due, if_pos idle]
    exact pumping
  | fails => exact pumping.down (giveUp_spares s _).calm (giveUp_unconnected s _) _
  | ends => exact pumping.down (finished_spares s).calm (finished_unconnected s) _
  | dropped _ _ _ unconnected => exact pumping.down ⟨rfl, fun _ => id⟩ unconnected _
  | sends _ active good _ more =>
    have nonempty : chunk.bytes ≠ [] := fun empty => full ⟨empty, more, good⟩
    exact pumping.sendData sound nonempty fits active
  | sendsLast =>
    have calm : s.Calm (s.sendData chunk.bytes input).finished :=
      ⟨rfl, fun other member => (sendData_calm s chunk.bytes input).chunks other
        ((finished_spares _).calm.chunks other member)⟩
    exact pumping.down calm (finished_unconnected _) _

/-- A transfer is started when there is no token. -/
theorem Pumping.starts (pumping : s.Pumping 0) (starts : s.Starts input next) :
    next.Pumping next.due := by
  have handle : (s.openHandle input).Pumping 0 :=
    pumping.kept ⟨rfl, rfl, rfl, rfl⟩ rfl rfl rfl
  cases starts with
  | waits inactive =>
    refine ⟨pumping.callback, fun up undone => ?_, pumping.full⟩
    rw [due, if_pos (inactive.resolve_left (by simp [up]))]
    exact pumping.tokens up undone
  | refused => exact handle.down (refuse_spares _).calm (shutDownData_unconnected _) _
  | pumps _ _ _ requests => exact handle.requests requests

/-! ## Steps -/

/-- The loop takes the functor that carries the token. -/
theorem Pumping.taken (pumping : s.Pumping s.due) (running : s.functors = some (functor :: rest))
    (carries : functor.carries s.xferGen = true) : (s.remaining rest).Pumping 0 := by
  refine ⟨pumping.callback, fun up undone => ?_, fun chunk member =>
    pumping.full chunk ((remaining_calm running).chunks chunk member)⟩
  have counted := tokens_remaining running
  rw [pumping.tokens up undone, carries, due] at counted
  simp only [Bool.toNat_true] at counted
  split at counted <;> omega

/-- The loop takes a functor that carries no token. -/
theorem Pumping.passed (pumping : s.Pumping count) (running : s.functors = some (functor :: rest))
    (other : functor.carries s.xferGen = false) : (s.remaining rest).Pumping count := by
  refine ⟨pumping.callback, fun up undone => ?_, fun chunk member =>
    pumping.full chunk ((remaining_calm running).chunks chunk member)⟩
  have counted := tokens_remaining running
  rw [pumping.tokens up undone, other] at counted
  exact counted.symm

theorem unconnected_of_none (free : s.dataConn = none) : s.connected = false := by
  simp [connected, conn?, free]

/-- Where a server is to be deleted, there is no data connection. -/
theorem Serving.free {server : Nat} (serving : s.Serving none)
    (member : .deleteServer server ∈ s.queued) : s.dataConn = none := by
  by_contra taken
  exact serving.hears (Option.isSome_iff_ne_none.mpr taken) (serving.deaf server member)

/-- The data connection is the only open one, so that it is down once one is lost. -/
theorem lose_unconnected (serving : s.Serving none) {id : Nat}
    (found : s.connections[id]? = some c) (opened : c.Open) :
    (s.lose id c.server).connected = false := by
  have dataConn : (s.lose id c.server).dataConn = s.dataConn := (lose_clears s id c.server).dataConn
  rcases serving.leaving id c found opened with taken | deleted | exempted
  · by_contra up
    obtain ⟨data, entry, same, there, established⟩ :=
      connected_inv (Bool.eq_true_of_not_eq_false up)
    cases taken.symm.trans (dataConn.symm.trans same)
    exact lose_closed there (.inl established)
  · exact unconnected_of_none (dataConn.trans (serving.free deleted))
  · cases exempted

theorem Pumping.lose (pumping : s.Pumping count) (serving : s.Serving none) {id : Nat}
    (found : s.connections[id]? = some c) (opened : c.Open) (other : Nat) :
    (s.lose id c.server).Pumping other :=
  pumping.down (lose_spares s id c.server).calm (lose_unconnected serving found opened) other

theorem Pumping.closeDataServer (pumping : s.Pumping count) (other : Nat) :
    s.closeDataServer.Pumping other :=
  pumping.down (closeDataServer_spares s).calm (unconnected_of_none rfl) other

/-- A transfer begins when there is none, and no token is of its generation. -/
theorem Pumping.begins (pumping : s.Pumping s.due) (consistent : s.Consistent)
    (idle : s.xfer = .kNone) (spares : next.queued = s.queued ∧ next.tasks = s.tasks)
    (conn : next.conn? = s.conn?) (xferGen : next.xferGen = s.xferGen + 1) :
    next.Pumping 0 := by
  obtain ⟨queue, tasks⟩ := spares
  refine ⟨?_, ?_, ?_⟩
  · rw [connected, conn]
    exact pumping.callback
  · intro up _
    have before : s.tokens = 0 := by
      rw [connected, conn] at up
      rw [pumping.tokens up (consistent.cleared idle).2, due, if_pos idle]
    obtain ⟨_, carried, drained⟩ := tokens_eq_zero_iff.mp before
    refine tokens_eq_zero_iff.mpr ⟨?_, ?_, by rw [undrained, conn]; exact drained⟩
    · rw [tasks, xferGen]
      exact fun task member => (consistent.tasks task member).lt_succ.ne
    · rw [queue, xferGen]
      intro functor member
      cases functor with
      | sendChunkReady chunk => exact decide_eq_false (consistent.chunks chunk member).lt_succ.ne
      | writeComplete id bound => exact carried _ member
      | _ => rfl
  · rw [queue]
    exact pumping.full

theorem Pumping.obeys {line : List UInt8} (pumping : s.Pumping s.due) (consistent : s.Consistent)
    (serving : s.Serving none) (paced : s.Begins line input → s.xfer = .kNone)
    (obeys : s.Obeys line input next) : next.Pumping next.due := by
  cases obeys with
  | chats => exact pumping.kept ⟨rfl, rfl, rfl, rfl⟩ rfl rfl rfl
  | passive =>
    refine pumping.down (cmdPasv_spares s input).calm (unconnected_of_none ?_) _
    unfold cmdPasv
    split
    · rfl
    case isFalse unserved =>
      by_contra taken
      obtain ⟨id, found⟩ := Option.ne_none_iff_exists'.mp taken
      obtain ⟨_, _, current, _⟩ := serving.server id found
      simp [current] at unserved
  | lists longNames _ begins starts =>
    have begun : ((s.beginList longNames).cancel.reply .directoryListing).Pumping 0 :=
      pumping.begins consistent (paced begins) ⟨rfl, rfl⟩ rfl rfl
    exact begun.starts starts
  | retrieves arg _ begins starts =>
    have begun : ((s.beginRetr ([46, 47] ++ arg)).cancel.reply .openingBinary).Pumping 0 :=
      pumping.begins consistent (paced begins) ⟨rfl, rfl⟩ rfl rfl
    exact begun.starts starts
  | quits => exact pumping.kept ⟨rfl, rfl, rfl, rfl⟩ rfl rfl rfl

/-- A data connection is taken when nothing is left of an earlier one. -/
theorem Pumping.accepts {server : Nat} (pumping : s.Pumping s.due) (consistent : s.Consistent)
    (serving : s.Serving none) (alone : s.Alone (.accept server input))
    (known : server < s.polledServers) (accepts : s.Accepts server input next) :
    next.Pumping next.due := by
  obtain ⟨current, free⟩ := alone
  obtain ⟨closed, quiet⟩ := serving.alone current known free
  have strict (gen : Nat) (dated : s.Dated gen) : gen ≠ s.xferGen := by
    rcases dated with earlier | ⟨_, opened⟩
    · exact earlier.ne
    · exact absurd (consistent.owned opened) closed
  cases accepts with
  | extra taken => simp [free] at taken
  | first _ starts =>
    have conn : ((s.addConnection server).takeConnection s.connections.length).conn? =
        some ((DataConnection.new server).setWriteCompleteCallback true) :=
      (taken_getElem? s server s.connections.length).trans (if_pos rfl)
    have ready : ((s.addConnection server).takeConnection s.connections.length).Pumping 0 := by
      refine ⟨fun _ => by rw [conn]; rfl, fun _ _ => ?_, pumping.full⟩
      refine tokens_eq_zero_iff.mpr
        ⟨fun task member => strict _ (consistent.tasks task member), ?_, ?_⟩
      swap
      · rw [undrained, conn]
        rfl
      intro functor member
      cases functor with
      | sendChunkReady chunk => exact decide_eq_false (strict _ (consistent.chunks chunk member))
      | writeComplete id bound => exact absurd member (quiet id bound)
      | _ => rfl
    exact ready.starts starts

/-- Only the data connection is drained while it is up. -/
theorem Pumping.drain (pumping : s.Pumping s.due) (serving : s.Serving none) {id count : Nat}
    (found : s.connections[id]? = some c) (opened : c.Open)
    (nonempty : c.output ≠ []) : (s.drain id count c).Pumping (s.drain id count c).due := by
  obtain ⟨_, _, _, callback, _⟩ := handleWrite_spec c count
  have calm : s.Calm (s.drain id count c) := by
    refine ⟨rfl, fun chunk member => ?_⟩
    rw [drain_queued, List.mem_append] at member
    refine member.resolve_right fun new => ?_
    split at new <;> simp at new
  rcases serving.leaving id c found opened with taken | deleted | exempted
  · have before : s.conn? = some c := by
      rw [conn?, taken]
      exact found
    have after : (s.drain id count c).conn? = some (c.handleWrite count).1 := by
      have same : (s.drain id count c).dataConn = some id := taken
      rw [conn?, same]
      exact getElem?_set_found found _
    refine ⟨fun up => ?_, fun up undone => ?_, fun chunk member =>
      pumping.full chunk (calm.chunks chunk member)⟩
    · rw [drain_connected found] at up
      have installed := pumping.callback up
      rw [before] at installed
      rw [after]
      exact callback.trans installed
    · rw [drain_connected found] at up
      have installed : c.writeCompleteCallback = true := by simpa [before] using pumping.callback up
      have one := handleWrite_token count nonempty installed
      have counted := tokens_queues (drain_queued s id count c) rfl rfl
      have notifies : (if (c.handleWrite count).2 then [FtpFunctor.writeComplete id false] else
          []).countP (FtpFunctor.carries s.xferGen) = (c.handleWrite count).2.toNat := by
        cases (c.handleWrite count).2 <;> rfl
      have had : s.undrained = true := by simpa [undrained, before] using nonempty
      have kept : (s.drain id count c).undrained = !(c.handleWrite count).1.output.isEmpty := by
        rw [undrained, after]
        rfl
      rw [notifies, had, kept, pumping.tokens up undone, Bool.toNat_true] at counted
      have same : (s.drain id count c).due = s.due := rfl
      omega
  · refine pumping.down calm ((drain_connected found).trans ?_) _
    exact unconnected_of_none (serving.free deleted)
  · cases exempted

theorem Pumping.pasvTimeout (pumping : s.Pumping s.due) (timer : Nat) :
    (s.pasvTimeout timer).Pumping (s.pasvTimeout timer).due := by
  have expired : Pumping s.due { s with timers := s.timers.filter (· ≠ timer) } :=
    pumping.kept ⟨rfl, rfl, rfl, rfl⟩ rfl rfl rfl
  unfold FtpSession.pasvTimeout
  simp only
  split
  · have told := expired.kept (reply_spares _ .passiveTimedOut) rfl rfl rfl
    exact told.closeDataServer _
  · exact expired

theorem Pumping.call (pumping : s.Pumping s.due)
    (serving : s.Serving none) (running : s.functors = some (functor :: rest))
    (sound : input.faultError = false) (fits : input.nwrote ≤ functor.bytes.length)
    (done : (s.remaining rest).call functor input = some next) : next.Pumping next.due := by
  have member : functor ∈ s.queued := by
    rw [queued_remaining running]
    exact List.mem_cons_self
  cases functor with
  | closeDataServer =>
    cases done
    exact (pumping.passed running rfl).closeDataServer _
  | deleteServer server =>
    have down : next.dataConn = none := by
      have free : ((s.remaining rest).unlisten server).dataConn = none := serving.free member
      refine destroyConnections_keeps (fun s => s.dataConn = none) ?_ free done
      intro s id c free _ _ _
      exact (lose_clears s id server).dataConn.trans free
    exact (pumping.passed running rfl).down (deleteServer_spares done).calm
      (unconnected_of_none down) _
  | sendChunkReady chunk =>
    by_cases current : chunk.gen = s.xferGen
    · have ready := pumping.taken running (decide_eq_true current)
      exact ready.delivers current (pumping.full chunk member) sound fits (sendChunkReady_inv done)
    · have same := pumping.passed running (decide_eq_false current)
      cases sendChunkReady_inv done with
      | stale => exact same
      | fails now | ends now | dropped now | sends now | sendsLast now => exact absurd now current
  | writeComplete id bound => exact (pumping.taken running rfl).requests (writeComplete_inv done)
  | forceCloseInLoop id =>
    have left : (s.remaining rest).Serving none := serving.remaining running nofun
    rcases forceCloseInLoop_inv done with rfl | ⟨c, found, opened, rfl⟩
    · exact pumping.passed running rfl
    · exact (pumping.passed running rfl).lose left found opened _

/-- Every step that meets the condition keeps the token. -/
theorem step_pumping (consistent : s.Consistent) (serving : s.Serving none)
    (pumping : s.Pumping s.due) (enabled : s.Enabled label) (paced : s.Paced label)
    (done : s.step label = some next) : next.Pumping next.due := by
  cases label with
  | command line input => exact pumping.obeys consistent serving paced (handleCommand_inv done)
  | accept server input =>
    exact pumping.accepts consistent serving paced enabled.2.2.1 (accept_inv done)
  | dataClosed id =>
    obtain ⟨c, found, opened, rfl⟩ := handleClose_inv done
    exact pumping.lose serving found opened _
  | dataWritable id count =>
    obtain ⟨c, found, rfl⟩ := handleWrite_inv done
    obtain ⟨_, _, _, listed, opened, left, _⟩ := enabled
    cases found.symm.trans listed
    exact pumping.drain serving found opened left
  | timeout timer =>
    cases done
    exact pumping.pasvTimeout timer
  | ctrlForceClose =>
    cases done
    exact pumping.kept ⟨rfl, rfl, rfl, rfl⟩ rfl rfl rfl
  | ctrlClosed =>
    cases done
    exact pumping.kept ⟨rfl, rfl, rfl, rfl⟩ rfl rfl rfl
  | taskDone index result =>
    obtain ⟨task, found, rfl⟩ := taskDone_inv done
    have queue : (s.finishTask index (task.chunk result)).queued =
        s.queued ++ [.sendChunkReady (task.chunk result)] := (List.append_assoc ..).symm
    refine ⟨pumping.callback, fun up undone => ?_, fun chunk member => ?_⟩
    · exact (tokens_finishTask found (chunk_gen task result)).trans (pumping.tokens up undone)
    · rw [queue, List.mem_append, List.mem_singleton] at member
      rcases member with before | new
      · exact pumping.full chunk before
      · cases new
        exact paced task found
  | beginFunctors =>
    cases done
    exact pumping.kept (beginFunctors_spares enabled) rfl rfl rfl
  | runFunctor input =>
    obtain ⟨functor, rest, running, called⟩ := runFunctor_inv done enabled.1
    have fits : input.nwrote ≤ functor.bytes.length := by
      simpa [offered, running] using enabled.2.2.2
    exact pumping.call serving running paced fits called
  | endFunctors =>
    cases done
    exact pumping.kept (endFunctors_spares enabled) rfl rfl rfl

theorem initial_pumping : initial.Pumping initial.due := ⟨nofun, nofun, nofun⟩

/-- The condition lets every connection be accepted by the current data server, as the data
connection. -/
theorem Paced.alone (paced : s.Paced label) : s.Alone label := by
  cases label with
  | accept server input => exact paced
  | _ => trivial

end Steps

/-- In every run whose steps all meet the condition, exactly one token is outstanding while a
transfer is active.

Proof: the handles and generations are consistent, only the data connection is open while it is up,
and every function of the session passes the token on or takes the data connection down. -/
theorem token_carried (labels : List Label) (final : FtpSession)
    (valid : system.Valid initial labels) (paced : system.Along Paced initial labels)
    (finished : system.run initial labels = some final) (active : final.Active) :
    final.tokens = 1 := by
  have kept := System.run_invariant
    (fun s : FtpSession => s.Consistent ∧ s.Serving none ∧ s.Pumping s.due) ?_ initial final labels
    ⟨initial_consistent, initial_serving, initial_pumping⟩
    ((System.along_and _ _ _ _).mpr ⟨valid, paced⟩) finished
  · obtain ⟨_, _, pumping⟩ := kept
    obtain ⟨transfer, up, _, undone⟩ := active
    rw [pumping.tokens up undone, due, if_neg transfer]
  · rintro s label next ⟨consistent, serving, pumping⟩ ⟨enabled, condition⟩ done
    have fresh := serving.fresh consistent enabled condition.alone
    exact ⟨step_consistent consistent enabled fresh done,
      step_serving serving enabled condition.alone done,
      step_pumping consistent serving pumping enabled condition done⟩

/-! ## Runs with one token, none and two -/

/-- The kernel takes a part of the chunk at first, and later the rest. -/
def drainedLater : List Label :=
  sendingFile 5
    [.taskDone 0 (.read [4, 5, 6]), .beginFunctors, .runFunctor { nwrote := 2 }, .endFunctors,
      .dataWritable 0 1]

/-- The token is the notification of the drained output. -/
theorem token_carried_drained :
    ∃ final, system.run initial drainedLater = some final ∧ final.Active ∧ final.tokens = 1 ∧
      final.pendingFunctors = [.writeComplete 0 false] :=
  ⟨_, rfl, by decide, token_carried drainedLater _ (by decide) (by decide) rfl (by decide), rfl⟩

/-- The run is possible, and at its end a transfer is active with this many tokens. -/
def EndsWith (labels : List Label) (count : Nat) : Prop :=
  system.Valid initial labels ∧
    ∃ final, system.run initial labels = some final ∧ final.Active ∧ final.tokens = count

/-- The only name of a directory cannot be looked up any more. -/
def vanished : List Label :=
  listened
    [commandLine ['L', 'I', 'S', 'T'] {}, .accept 0 { opened := some 5, names := [[97]] },
      .taskDone 0 (.stats [none]), .beginFunctors, .runFunctor {}]

/-- The peer of the data connection is gone when the chunk is sent. -/
def brokenPipe : List Label :=
  sendingFile 5 [.taskDone 0 (.read [4, 5, 6]), .beginFunctors, .runFunctor { faultError := true }]

/-- The file is asked for again while a part of the chunk is left. -/
def askedAgain : List Label :=
  sendingFile 5
    [.taskDone 0 (.read [4, 5, 6]), .beginFunctors, .runFunctor { nwrote := 1 }, .endFunctors,
      commandLine ['R', 'E', 'T', 'R', ' ', 'f'] { opened := some 6 }]

/-- A new listener is asked for, and the old one accepts a connection before it is deleted. -/
def acceptedByOld : List Label :=
  sendingFile 5 [commandLine ['P', 'A', 'S', 'V'] {}, .accept 0 { opened := some 6 }]

/-- A second connection is rejected while a part of the chunk is left, and the file is asked for
again. -/
def rejectedAndAsked : List Label :=
  sendingFile 5
    [.taskDone 0 (.read [4, 5, 6]), .beginFunctors, .runFunctor { nwrote := 1 }, .endFunctors,
      .accept 0 {}, .beginFunctors, .runFunctor {}, .endFunctors,
      commandLine ['R', 'E', 'T', 'R', ' ', 'f'] { opened := some 6 }]

/-- A listing hangs after a batch of which every `stat` failed, and so does a file after a chunk
that was dropped. A transfer that begins too early and a connection that is taken for a transfer
under way bring about a second token. -/
theorem token_lost_or_doubled :
    EndsWith vanished 0 ∧ EndsWith brokenPipe 0 ∧ EndsWith askedAgain 2 ∧
      EndsWith acceptedByOld 2 ∧ EndsWith rejectedAndAsked 2 :=
  ⟨⟨by decide, _, rfl, by decide, rfl⟩, ⟨by decide, _, rfl, by decide, rfl⟩,
    ⟨by decide, _, rfl, by decide, rfl⟩, ⟨by decide, _, rfl, by decide, rfl⟩,
    by decide, _, rfl, by decide, rfl⟩

end FtpSession

end Moban
