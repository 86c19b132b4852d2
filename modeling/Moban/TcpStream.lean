import Moban.Runs
import Moban.TcpRegistration

/-!
# The byte stream of a connection

`sendInLoop` writes directly while nothing is buffered and buffers what the kernel leaves;
`handleWrite` drains the buffer. What the kernel accepted, followed by the buffer, is the
concatenation of the messages that were not dropped, whatever the kernel returns. A
message is dropped as a whole.

Which messages are dropped is another matter: the direct write looks at `errno` even if
the call did not fail, and looks again after it has called the logger. A message is
dropped without a reason exactly when `errno` then holds an error of another call.
-/

namespace Moban

open Channel Runs

namespace TcpConnection

/-! ## One message -/

/-- The direct write of this message ends with the decision that the peer is gone. -/
def Faulted (c : TcpConnection) (message : List UInt8) (result : WriteResult) (logged : Nat) :
    Prop :=
  c.outputBuffer = [] ∧ message ≠ [] ∧ result.count ≤ 0 ∧
    result.errno c.errno ≠ EWOULDBLOCK ∧ (logged = EPIPE ∨ logged = ECONNRESET)

instance (c : TcpConnection) (message : List UInt8) (result : WriteResult) (logged : Nat) :
    Decidable (c.Faulted message result logged) := instDecidableAnd

/-- Nothing was closed or destroyed: the descriptor and what was called back stay, and no
destruction is queued. -/
structure Spares (c next : TcpConnection) : Prop where
  fd : next.channel.fd = c.channel.fd
  log : ∃ count, next.log = c.log ++ List.replicate count .shutdownWrite
  functors : .connnectDestroyed ∈ next.functors → .connnectDestroyed ∈ c.functors

/-- The kernel accepted some bytes; the registration and the buffer stay. -/
structure Wrote (c next : TcpConnection) (bytes : List UInt8) : Prop where
  spares : c.Spares next
  state : next.state = c.state
  channel : next.channel = c.channel
  poller : next.poller = c.poller
  outputBuffer : next.outputBuffer = c.outputBuffer
  accepted : next.accepted = c.accepted ++ bytes
  offers : next.offers = c.offers

/-- Bytes moved from the buffer to the kernel. -/
structure Moved (c next : TcpConnection) : Prop where
  ready : next.Ready
  spares : c.Spares next
  bytes : next.accepted ++ next.outputBuffer = c.accepted ++ c.outputBuffer
  offers : next.offers = c.offers

/-- A message was taken: the kernel's bytes and the buffer grew by it unless it was dropped. -/
structure Took (c next : TcpConnection) (message : List UInt8) (dropped excused : Bool) :
    Prop where
  ready : next.Ready
  spares : c.Spares next
  bytes : next.accepted ++ next.outputBuffer =
    c.accepted ++ c.outputBuffer ++ if dropped then [] else message
  offers : next.offers = c.offers ++
    [{ message := message, dropped := dropped, excused := excused }]

section Sending

variable {c : TcpConnection} {message : List UInt8} {result : WriteResult}

theorem count_le_of_fits {data : List UInt8} (fits : result.Fits data) :
    result.count.toNat ≤ data.length := by
  cases result with
  | wrote count => exact fits
  | failed errno => exact Nat.zero_le _

theorem Spares.trans {middle next : TcpConnection} (first : c.Spares middle)
    (second : middle.Spares next) : c.Spares next where
  fd := second.fd.trans first.fd
  log := by
    obtain ⟨before, logged⟩ := first.log
    obtain ⟨after, later⟩ := second.log
    exact ⟨before + after, by rw [later, logged, List.append_assoc, List.replicate_add]⟩
  functors := fun queued => first.functors (second.functors queued)

theorem Spares.of_eq {next : TcpConnection} (fd : next.channel.fd = c.channel.fd)
    (log : next.log = c.log) (functors : next.functors = c.functors) : c.Spares next :=
  ⟨fd, ⟨0, by rw [log, List.replicate_zero, List.append_nil]⟩,
    fun queued => functors ▸ queued⟩

theorem queueInLoop_spares {functor : ConnectionFunctor} (other : functor ≠ .connnectDestroyed) :
    c.Spares (c.queueInLoop functor) where
  fd := rfl
  log := ⟨0, by simp [queueInLoop]⟩
  functors := by simp [queueInLoop, other.symm]

theorem Wrote.ready {next : TcpConnection} {bytes : List UInt8} (ready : c.Ready)
    (wrote : c.Wrote next bytes) : next.Ready := by
  apply ready.congr _ wrote.channel wrote.poller wrote.outputBuffer
  rw [Open, wrote.state]
  exact ready.opened

theorem kernelWrite_wrote (c : TcpConnection) (data : List UInt8) (result : WriteResult) :
    c.Wrote (c.kernelWrite data result) (data.take result.count.toNat) :=
  ⟨.of_eq rfl rfl rfl, rfl, rfl, rfl, rfl, rfl, rfl⟩

/-- The direct write gives the kernel a first part of the message, and nothing of it if the
peer is found gone. -/
theorem directWrite_spec (fits : result.Fits message) (logged : Nat) : ∃ sent nwrote faultError,
      c.directWrite message result logged = (sent, nwrote, faultError) ∧
      c.Wrote sent (message.take nwrote) ∧ nwrote ≤ message.length ∧
      (faultError = true → nwrote = 0) ∧
      (faultError = true ↔ result.count ≤ 0 ∧ result.errno c.errno ≠ EWOULDBLOCK ∧
        (logged = EPIPE ∨ logged = ECONNRESET)) := by
  have wrote := kernelWrite_wrote c message result
  by_cases positive : 0 < result.count
  · -- Something was written; the completed write may queue its callback.
    have bound : result.count.toNat ≤ message.length := count_le_of_fits fits
    by_cases complete : message.length - result.count.toNat = 0 ∧ c.writeCompleteCallback
    · refine ⟨(c.kernelWrite message result).queueInLoop .writeComplete, _, false, ?_,
        ⟨wrote.spares.trans (queueInLoop_spares nofun), rfl, rfl, rfl, rfl, rfl, rfl⟩,
        bound, nofun, ?_⟩
      · rw [directWrite, if_pos positive, if_pos complete]
      · simp [Int.not_le.mpr positive]
    · refine ⟨c.kernelWrite message result, _, false, ?_, wrote, bound, nofun, ?_⟩
      · rw [directWrite, if_pos positive, if_neg complete]
      · simp [Int.not_le.mpr positive]
  · have nothing : message.take result.count.toNat = message.take 0 := by
      rw [Int.toNat_of_nonpos (Int.not_lt.mp positive)]
    rw [nothing] at wrote
    have errno : result.errno c.errno = (c.kernelWrite message result).errno := rfl
    rw [errno]
    by_cases blocked : (c.kernelWrite message result).errno = EWOULDBLOCK
    · refine ⟨c.kernelWrite message result, 0, false, ?_, wrote, Nat.zero_le _, nofun, ?_⟩
      · rw [directWrite, if_neg positive, if_neg (not_not_intro blocked)]
      · simp [blocked]
    · refine ⟨{ c.kernelWrite message result with errno := logged }, 0,
        decide (logged = EPIPE ∨ logged = ECONNRESET), ?_,
        ⟨.of_eq rfl rfl rfl, rfl, rfl, rfl, rfl, wrote.accepted, rfl⟩, Nat.zero_le _,
        fun _ => rfl, ?_⟩
      · rw [directWrite, if_neg positive, if_pos blocked]
      · simp [Int.not_lt.mp positive, blocked]

/-- What is left of a message goes to the end of the buffer, and the channel waits for
writability. -/
theorem bufferRest_spec (ready : c.Ready) {rest : List UInt8} (left : rest ≠ []) :
    ∃ next, c.bufferRest rest = some next ∧ next.Ready ∧ c.Spares next ∧
      next.outputBuffer = c.outputBuffer ++ rest ∧ next.accepted = c.accepted ∧
      next.offers = c.offers := by
  -- The warning about the high-water mark only queues a functor.
  obtain ⟨warned, buffered, spares, warnedReady, output, accepted, offers⟩ :
      ∃ warned : TcpConnection, c.bufferRest rest =
          (let buffered := { warned with outputBuffer := warned.outputBuffer ++ rest }
          if buffered.channel.isWriting then some buffered
          else buffered.onChannel Channel.enableWriting) ∧
        c.Spares warned ∧ warned.Ready ∧ warned.outputBuffer = c.outputBuffer ∧
        warned.accepted = c.accepted ∧ warned.offers = c.offers := by
    by_cases warns : c.outputBuffer.length + rest.length ≥ c.highWaterMark ∧
        c.outputBuffer.length < c.highWaterMark ∧ c.highWaterMarkCallback
    · exact ⟨c.queueInLoop (.highWaterMark (c.outputBuffer.length + rest.length)),
        by simp only [bufferRest, if_pos warns], queueInLoop_spares nofun,
        ready.congr ready.opened rfl rfl rfl, rfl, rfl, rfl⟩
    · exact ⟨c, by simp only [bufferRest, if_neg warns], .of_eq rfl rfl rfl, ready, rfl, rfl, rfl⟩
  rw [buffered, ← output]
  have watching : Watching { warned with outputBuffer := warned.outputBuffer ++ rest } :=
    ⟨warnedReady.watching.index, warnedReady.watching.table, warnedReady.watching.interest,
      warnedReady.watching.events⟩
  have filled : warned.outputBuffer ++ rest ≠ [] := by simp [left]
  by_cases writing : warned.channel.isWriting = true
  · exact ⟨_, if_pos writing, ⟨warnedReady.opened, watching, iff_of_true writing filled⟩,
      spares.trans (.of_eq rfl rfl rfl), rfl, accepted, offers⟩
  · refine ⟨_, (if_neg writing).trans (enableWriting_exact watching), ⟨warnedReady.opened,
      watch_watching watching (.inr rfl), ?_⟩, spares.trans (.of_eq rfl rfl rfl), rfl,
      accepted, offers⟩
    rw [isWriting_watch_writing]
    exact iff_of_true rfl filled

/-- Recording what became of a message changes nothing else. -/
theorem offered_took {sent : TcpConnection} {dropped : Bool} (ready : sent.Ready)
    (spares : c.Spares sent) (bytes : sent.accepted ++ sent.outputBuffer =
      c.accepted ++ c.outputBuffer ++ if dropped then [] else message)
    (offers : sent.offers = c.offers) :
    c.Took (sent.offered c message result dropped) message dropped (decide (c.Excused result)) where
  ready := ready.congr ready.opened rfl rfl rfl
  spares := spares.trans (.of_eq rfl rfl rfl)
  bytes := bytes
  offers := by rw [offered, offers]

/-- The end of `sendInLoop`, after a first part of the message was written: the rest is
buffered unless the peer was found gone. -/
theorem rest_took {sent : TcpConnection} {nwrote : Nat} {faultError : Bool} (ready : c.Ready)
    (result : WriteResult) (wrote : c.Wrote sent (message.take nwrote))
    (bound : nwrote ≤ message.length) (untouched : faultError = true → nwrote = 0)
    (first : nwrote = 0 ∨ c.outputBuffer = []) :
    ∃ next, (if !faultError ∧ 0 < message.length - nwrote then do
          let buffered ← sent.bufferRest (message.drop nwrote)
          return buffered.offered c message result false
        else
          return sent.offered c message result (decide (0 < message.length - nwrote))) =
        some next ∧
      c.Took next message (decide (faultError = true ∧ message ≠ []))
        (decide (c.Excused result)) := by
  have sentReady := wrote.ready ready
  -- The written part precedes the buffer, so one of the two is empty.
  have written (rest : List UInt8) : c.accepted ++ message.take nwrote ++ (c.outputBuffer ++ rest) =
      c.accepted ++ c.outputBuffer ++ (message.take nwrote ++ rest) := by
    rcases first with nothing | empty
    · simp [nothing]
    · simp [empty]
  by_cases fault : faultError = true
  · have untaken := untouched fault
    refine ⟨_, if_neg (by simp [fault]), ?_⟩
    have dropped : decide (0 < message.length - nwrote) =
        decide (faultError = true ∧ message ≠ []) := by
      simp [untaken, fault, List.length_pos_iff]
    rw [dropped]
    apply offered_took sentReady wrote.spares _ wrote.offers
    rw [wrote.accepted, wrote.outputBuffer, untaken]
    by_cases empty : message = [] <;> simp [fault, empty]
  · have kept : decide (faultError = true ∧ message ≠ []) = false := by
      simp [fault]
    rw [kept]
    by_cases left : 0 < message.length - nwrote
    · have rest : message.drop nwrote ≠ [] := by
        simp only [ne_eq, List.drop_eq_nil_iff]
        omega
      obtain ⟨next, buffered, nextReady, spares, output, accepted, offers⟩ :=
        bufferRest_spec sentReady rest
      refine ⟨next.offered c message result false, ?_, ?_⟩
      · rw [if_pos (by simp [fault, left]), buffered]
        rfl
      · apply offered_took nextReady (wrote.spares.trans spares) _ (offers.trans wrote.offers)
        rw [accepted, output, wrote.accepted, wrote.outputBuffer, written,
          List.take_append_drop, if_neg Bool.false_ne_true]
    · have whole : nwrote = message.length := by omega
      refine ⟨_, if_neg (by simp [left]), ?_⟩
      rw [decide_eq_false left]
      apply offered_took sentReady wrote.spares _ wrote.offers
      have all := written []
      rw [List.append_nil, List.append_nil, whole, List.take_length] at all
      rw [wrote.accepted, wrote.outputBuffer, whole, List.take_length, all,
        if_neg Bool.false_ne_true]

/-- A message given to an open connection is taken, and dropped exactly if the peer is
found gone.

Proof: while something is buffered, all of the message is buffered behind it. Otherwise
the direct write takes a first part of it and the rest is buffered; if the direct write
finds the peer gone, it has taken nothing. -/
theorem sendInLoop_took (ready : c.Ready) (fits : result.Fits message) (logged : Nat) :
    ∃ next, c.sendInLoop message result logged = some next ∧
      c.Took next message (decide (c.Faulted message result logged))
        (decide (c.Excused result)) := by
  rw [sendInLoop, if_neg ready.up]
  by_cases empty : c.outputBuffer = []
  · have idle : c.channel.isWriting = false := by
      have writing := ready.writing
      simpa [empty] using writing
    obtain ⟨sent, nwrote, faultError, direct, wrote, bound, untouched, fault⟩ :=
      directWrite_spec (c := c) fits logged
    have dropped : decide (c.Faulted message result logged) =
        decide (faultError = true ∧ message ≠ []) := by
      simp only [Faulted, empty, fault]
      grind
    rw [dropped]
    obtain ⟨next, done, took⟩ := rest_took ready result wrote bound untouched (.inr empty)
    refine ⟨next, ?_, took⟩
    simpa [idle, empty, direct] using done
  · have dropped : decide (c.Faulted message result logged) =
        decide (false = true ∧ message ≠ []) := by
      simp [Faulted, empty]
    have nothingYet : c.Wrote c (message.take 0) :=
      ⟨.of_eq rfl rfl rfl, rfl, rfl, rfl, rfl, by simp, rfl⟩
    rw [dropped]
    obtain ⟨next, done, took⟩ := rest_took ready result nothingYet (Nat.zero_le _)
      (fun _ => rfl) (.inl rfl)
    refine ⟨next, ?_, took⟩
    simpa [ready.writing.mpr empty] using done

/-- A message passes at most a direct write and the buffering of what is left, and it is recorded
what became of it. -/
theorem sendInLoop_inv {logged : Nat} {next : TcpConnection}
    (done : c.sendInLoop message result logged = some next) :
    ∃ sent passed dropped, (sent = c ∨ sent = (c.directWrite message result logged).1) ∧
      (passed = sent ∨ ∃ rest, sent.bufferRest rest = some passed) ∧
      next = passed.offered c message result dropped := by
  by_cases down : c.state = .KDisconnected
  · rw [sendInLoop, if_pos down] at done
    cases done
    exact ⟨c, c, true, .inl rfl, .inl rfl, rfl⟩
  · rw [sendInLoop, if_neg down] at done
    obtain ⟨sent, nwrote, faultError, direct, wrote⟩ :
        ∃ (sent : TcpConnection) (nwrote : Nat) (faultError : Bool),
          (if !c.channel.isWriting ∧ c.outputBuffer.length = 0 then
            c.directWrite message result logged else (c, 0, false)) = (sent, nwrote, faultError) ∧
          (sent = c ∨ sent = (c.directWrite message result logged).1) := by
      split_ifs
      · exact ⟨_, _, _, rfl, .inr rfl⟩
      · exact ⟨c, 0, false, rfl, .inl rfl⟩
    simp only [direct] at done
    obtain ⟨_, _, finished⟩ := Option.bind_eq_some_iff.mp done
    split_ifs at finished
    · obtain ⟨buffered, buffering, made⟩ := Option.bind_eq_some_iff.mp finished
      cases made
      exact ⟨sent, buffered, false, wrote, .inr ⟨_, buffering⟩, rfl⟩
    · cases finished
      exact ⟨sent, sent, _, wrote, .inl rfl, rfl⟩

theorem shutdownInLoop_spares (c : TcpConnection) : c.Spares c.shutdownInLoop := by
  rw [shutdownInLoop]
  split
  · exact .of_eq rfl rfl rfl
  · exact ⟨rfl, ⟨1, rfl⟩, id⟩

theorem shutdownInLoop_moved (ready : c.Ready) : c.Moved c.shutdownInLoop := by
  refine ⟨?_, shutdownInLoop_spares c, ?_, ?_⟩
  all_goals
    rw [shutdownInLoop]
    split
  · exact ready
  · exact ready.congr ready.opened rfl rfl rfl
  all_goals rfl

theorem Moved.refl (ready : c.Ready) : c.Moved c :=
  ⟨ready, .of_eq rfl rfl rfl, rfl, rfl⟩

theorem Moved.after {middle next : TcpConnection} (moved : middle.Moved next)
    (spares : c.Spares middle)
    (bytes : middle.accepted ++ middle.outputBuffer = c.accepted ++ c.outputBuffer)
    (offers : middle.offers = c.offers) : c.Moved next :=
  ⟨moved.ready, spares.trans moved.spares, moved.bytes.trans bytes, moved.offers.trans offers⟩

/-- An emptied buffer makes up for a pending shutdown. -/
theorem shutdownPending_moved (ready : c.Ready) :
    c.Moved (if c.state = .KDisconnecting then c.shutdownInLoop else c) := by
  split
  · exact shutdownInLoop_moved ready
  · exact .refl ready

/-- An emptied buffer is no longer watched and its callback is queued. -/
theorem drained_moved (watching : c.Watching) (opened : c.Open) (empty : c.outputBuffer = []) :
    ∃ next, (do
          let stopped ← c.onChannel Channel.disableWriting
          let noted :=
            if c.writeCompleteCallback then stopped.queueInLoop .writeComplete else stopped
          return if noted.state = .KDisconnecting then noted.shutdownInLoop else noted) =
        some next ∧ c.Moved next := by
  have stopped : (c.watch KReadEvent).Ready := by
    refine ⟨opened, watch_watching watching (.inl rfl), ?_⟩
    rw [isWriting_watch_reading]
    exact iff_of_false Bool.false_ne_true (not_not_intro empty)
  rw [disableWriting_exact watching]
  refine ⟨_, rfl, ?_⟩
  by_cases callback : c.writeCompleteCallback = true
  · rw [if_pos callback]
    have watched : c.Spares (c.watch KReadEvent) := .of_eq rfl rfl rfl
    have noted : (c.watch KReadEvent).Spares ((c.watch KReadEvent).queueInLoop .writeComplete) :=
      queueInLoop_spares nofun
    have moved := shutdownPending_moved (c := (c.watch KReadEvent).queueInLoop .writeComplete)
      (stopped.congr stopped.opened rfl rfl rfl)
    exact moved.after (watched.trans noted) rfl rfl
  · rw [if_neg callback]
    exact (shutdownPending_moved stopped).after (.of_eq rfl rfl rfl) rfl rfl

/-- Writability moves a first part of the buffer to the kernel. -/
theorem handleWrite_moved (ready : c.Ready) (fits : result.Fits c.outputBuffer) :
    ∃ next, c.handleWrite result = some next ∧ c.Moved next := by
  by_cases writing : c.channel.isWriting = true
  · rw [handleWrite, if_pos writing]
    by_cases positive : 0 < result.count
    · have bound : result.count.toNat ≤ c.outputBuffer.length := count_le_of_fits fits
      simp only [if_pos positive, guard, if_pos bound, pure_bind]
      have bytes : c.accepted ++ c.outputBuffer.take result.count.toNat ++
          c.outputBuffer.drop result.count.toNat = c.accepted ++ c.outputBuffer := by
        rw [List.append_assoc, List.take_append_drop]
      have watching : Watching { c.kernelWrite c.outputBuffer result with
          outputBuffer := c.outputBuffer.drop result.count.toNat } :=
        ⟨ready.watching.index, ready.watching.table, ready.watching.interest,
          ready.watching.events⟩
      by_cases empty : c.outputBuffer.drop result.count.toNat = []
      · obtain ⟨next, done, moved⟩ := drained_moved watching ready.opened empty
        refine ⟨next, ?_, moved.after (.of_eq rfl rfl rfl) bytes rfl⟩
        rw [if_pos (by rw [empty]; rfl)]
        exact done
      · exact ⟨_, if_neg (fun zero => empty (List.length_eq_zero_iff.mp zero)),
          ⟨ready.opened, watching, iff_of_true writing empty⟩, .of_eq rfl rfl rfl, bytes, rfl⟩
    · have nothing : result.count.toNat = 0 := Int.toNat_of_nonpos (Int.not_lt.mp positive)
      refine ⟨_, if_neg positive, ready.congr ready.opened rfl rfl rfl, .of_eq rfl rfl rfl,
        ?_, rfl⟩
      simp [kernelWrite, nothing]
  · exact ⟨c, if_neg writing, .refl ready⟩

theorem shutdown_moved (ready : c.Ready) : c.Moved c.shutdown := by
  rw [shutdown]
  split
  · have moved := shutdownInLoop_moved (c := { c with state := .KDisconnecting })
      (ready.congr (.inr rfl) rfl rfl rfl)
    exact moved.after (.of_eq rfl rfl rfl) rfl rfl
  · exact .refl ready

theorem forceClose_moved (ready : c.Ready) : c.Moved c.forceClose := by
  rw [forceClose, if_pos ready.opened]
  have queued : Spares { c with state := .KDisconnecting }
      ({ c with state := .KDisconnecting }.queueInLoop .forceCloseInLoop) :=
    queueInLoop_spares (by simp)
  exact ⟨ready.congr (.inr rfl) rfl rfl rfl, ⟨queued.fd, queued.log, queued.functors⟩, rfl, rfl⟩

/-! A closed connection takes no messages, and closing it again does nothing. -/

theorem send_closed (closed : c.Closed) (logged : Nat) : c.send message result logged = some c := by
  simp [send, closed.down]

theorem shutdown_closed (closed : c.Closed) : c.shutdown = c := by simp [shutdown, closed.down]

theorem forceClose_closed (closed : c.Closed) : c.forceClose = c := by
  simp [forceClose, closed.not_open]

theorem handleWrite_closed (closed : c.Closed) : c.handleWrite result = some c := by
  rw [handleWrite, closed.not_writing]
  rfl

end Sending

/-! ## Runs -/

/-- What the loop thread does with an established connection. Other calls of the thread
may leave anything in `errno`. -/
inductive StreamLabel where
  | sendInLoop (message : List UInt8) (result : WriteResult) (logged : Nat)
  | handleWrite (result : WriteResult)
  | handleClose
  | shutdownInLoop
  | shutdown
  | forceClose
  | errno (value : Nat)
deriving DecidableEq

/-- The kernel accepts no more than it is offered, and only an open connection is closed. -/
def StreamEnabled (c : TcpConnection) : StreamLabel → Prop
  | .sendInLoop message result _ => result.Fits message
  | .handleWrite result => result.Fits c.outputBuffer
  | .handleClose => c.Open
  | _ => True

instance (c : TcpConnection) : (label : StreamLabel) → Decidable (c.StreamEnabled label)
  | .sendInLoop message result _ => inferInstanceAs (Decidable (result.Fits message))
  | .handleWrite result => inferInstanceAs (Decidable (result.Fits c.outputBuffer))
  | .handleClose => inferInstanceAs (Decidable c.Open)
  | .shutdownInLoop | .shutdown | .forceClose | .errno _ => instDecidableTrue

def streamStep (c : TcpConnection) : StreamLabel → Option TcpConnection
  | .sendInLoop message result logged => c.sendInLoop message result logged
  | .handleWrite result => c.handleWrite result
  | .handleClose => c.handleClose
  | .shutdownInLoop => some c.shutdownInLoop
  | .shutdown => some c.shutdown
  | .forceClose => some c.forceClose
  | .errno value => some { c with errno := value }

def stream : System TcpConnection StreamLabel where
  step := streamStep
  enabled := StreamEnabled

instance (c : TcpConnection) (label : StreamLabel) : Decidable (stream.enabled c label) :=
  inferInstanceAs (Decidable (c.StreamEnabled label))

/-- The bytes of the messages that were not dropped. -/
def kept (offers : List Offer) : List UInt8 :=
  (offers.filter (fun offer => !offer.dropped)).flatMap Offer.message

/-- The bytes are in order and complete, messages are dropped for a reason only, and an
open connection waits for writability exactly while something is buffered. -/
structure Faithful (c : TcpConnection) : Prop where
  bytes : c.accepted ++ c.outputBuffer = kept c.offers
  excused : ∀ offer ∈ c.offers, offer.dropped = true → offer.excused = true
  writing : c.state ≠ .KDisconnected → (c.channel.isWriting = true ↔ c.outputBuffer ≠ [])

/-- What every step keeps, misled or not. -/
structure Streaming (c : TcpConnection) : Prop where
  registered : c.Ready ∨ c.Closed
  bytes : c.accepted ++ c.outputBuffer = kept c.offers

/-- Messages were dropped for a reason only. -/
def Justified (c : TcpConnection) : Prop :=
  ∀ offer ∈ c.offers, offer.dropped = true → offer.excused = true

/-- The direct write of an open connection takes an error of some other call for its own:
nothing was written, the write did not find the peer gone, but `errno` says so. -/
def Misled (c : TcpConnection) (message : List UInt8) (result : WriteResult) (logged : Nat) :
    Prop :=
  c.state ≠ .KDisconnected ∧ c.Faulted message result logged ∧ ¬ result.Broken

instance (c : TcpConnection) (message : List UInt8) (result : WriteResult) (logged : Nat) :
    Decidable (c.Misled message result logged) := instDecidableAnd

/-- No direct write is misled. -/
def Unmistaken (c : TcpConnection) : StreamLabel → Prop
  | .sendInLoop message result logged => ¬ c.Misled message result logged
  | _ => True

instance (c : TcpConnection) : (label : StreamLabel) → Decidable (c.Unmistaken label)
  | .sendInLoop .. => instDecidableNot
  | .handleWrite _ | .handleClose | .shutdownInLoop | .shutdown | .forceClose | .errno _ =>
      instDecidableTrue

theorem kept_append (offers : List Offer) (offer : Offer) :
    kept (offers ++ [offer]) = kept offers ++ if offer.dropped then [] else offer.message := by
  cases dropped : offer.dropped <;> simp [kept, dropped]

section Steps

variable {c next : TcpConnection}

theorem justified_append {offer : Offer} (offers : next.offers = c.offers ++ [offer]) :
    next.Justified ↔ c.Justified ∧ (offer.dropped = true → offer.excused = true) := by
  simp only [Justified, offers, List.mem_append, List.mem_singleton]
  grind

/-- A step that is not given a message moves bytes at most. -/
theorem Streaming.unchanged (streaming : c.Streaming) (registered : next.Ready ∨ next.Closed)
    (bytes : next.accepted ++ next.outputBuffer = c.accepted ++ c.outputBuffer)
    (offers : next.offers = c.offers) :
    next.Streaming ∧ (next.Justified ↔ c.Justified ∧ True) := by
  refine ⟨⟨registered, ?_⟩, ?_⟩
  · rw [bytes, offers]
    exact streaming.bytes
  · rw [Justified, offers, and_true, Justified]

theorem Moved.streaming (streaming : c.Streaming) (moved : c.Moved next) :
    next.Streaming ∧ (next.Justified ↔ c.Justified ∧ True) :=
  streaming.unchanged (.inl moved.ready) moved.bytes moved.offers

theorem sendInLoop_streaming (streaming : c.Streaming) {message : List UInt8}
    {result : WriteResult} (fits : result.Fits message) (logged : Nat) :
    ∃ next, c.sendInLoop message result logged = some next ∧ next.Streaming ∧
      (next.Justified ↔ c.Justified ∧ ¬ c.Misled message result logged) := by
  rcases streaming.registered with ready | closed
  · obtain ⟨next, sent, took⟩ := sendInLoop_took ready fits logged
    refine ⟨next, sent, ⟨.inl took.ready, ?_⟩, ?_⟩
    · rw [took.bytes, took.offers, kept_append, streaming.bytes]
    · rw [justified_append took.offers]
      have faulted : c.Faulted message result logged → c.outputBuffer = [] := And.left
      have up := ready.up
      simp only [decide_eq_true_eq, Misled, Excused]
      grind
  · refine ⟨c.offered c message result true, if_pos closed.down,
      ⟨.inr (closed.congr rfl rfl rfl), ?_⟩, ?_⟩
    · rw [offered, kept_append, if_pos rfl, List.append_nil]
      exact streaming.bytes
    · rw [justified_append (c := c) rfl]
      simp [Misled, Excused, closed.down]

theorem handleWrite_streaming (streaming : c.Streaming) {result : WriteResult}
    (fits : result.Fits c.outputBuffer) :
    ∃ next, c.handleWrite result = some next ∧ next.Streaming ∧
      (next.Justified ↔ c.Justified ∧ True) := by
  rcases streaming.registered with ready | closed
  · obtain ⟨next, handled, moved⟩ := handleWrite_moved ready fits
    exact ⟨next, handled, moved.streaming streaming⟩
  · exact ⟨c, handleWrite_closed closed, streaming, by rw [and_true]⟩

theorem shutdownInLoop_streaming (streaming : c.Streaming) :
    c.shutdownInLoop.Streaming ∧ (c.shutdownInLoop.Justified ↔ c.Justified ∧ True) := by
  rcases streaming.registered with ready | closed
  · exact (shutdownInLoop_moved ready).streaming streaming
  · rw [shutdownInLoop, if_neg (by rw [closed.not_writing]; decide)]
    exact streaming.unchanged (.inr (closed.congr rfl rfl rfl)) rfl rfl

theorem shutdown_streaming (streaming : c.Streaming) :
    c.shutdown.Streaming ∧ (c.shutdown.Justified ↔ c.Justified ∧ True) := by
  rcases streaming.registered with ready | closed
  · exact (shutdown_moved ready).streaming streaming
  · rw [shutdown_closed closed, and_true]
    exact ⟨streaming, Iff.rfl⟩

theorem forceClose_streaming (streaming : c.Streaming) :
    c.forceClose.Streaming ∧ (c.forceClose.Justified ↔ c.Justified ∧ True) := by
  rcases streaming.registered with ready | closed
  · exact (forceClose_moved ready).streaming streaming
  · rw [forceClose_closed closed, and_true]
    exact ⟨streaming, Iff.rfl⟩

theorem handleClose_streaming (streaming : c.Streaming) (opened : c.Open) :
    ∃ next, c.handleClose = some next ∧ next.Streaming ∧
      (next.Justified ↔ c.Justified ∧ True) := by
  have ready : c.Ready := streaming.registered.resolve_right (fun closed => closed.not_open opened)
  refine ⟨c.down.endClose, ?_, ?_⟩
  · rw [handleClose, beginClose_exact ready]
    rfl
  · exact streaming.unchanged (.inr ((down_closed c).congr rfl rfl rfl)) rfl rfl

theorem step_streaming (c : TcpConnection) (label : StreamLabel) (streaming : c.Streaming)
    (enabled : c.StreamEnabled label) :
    ∃ next, c.streamStep label = some next ∧ next.Streaming ∧
      (next.Justified ↔ c.Justified ∧ c.Unmistaken label) := by
  cases label with
  | sendInLoop message result logged => exact sendInLoop_streaming streaming enabled logged
  | handleWrite result => exact handleWrite_streaming streaming enabled
  | handleClose => exact handleClose_streaming streaming enabled
  | shutdownInLoop => exact ⟨_, rfl, shutdownInLoop_streaming streaming⟩
  | shutdown => exact ⟨_, rfl, shutdown_streaming streaming⟩
  | forceClose => exact ⟨_, rfl, forceClose_streaming streaming⟩
  | errno value =>
    have registered : Ready { c with errno := value } ∨ Closed { c with errno := value } :=
      streaming.registered.imp (fun ready => ready.congr ready.opened rfl rfl rfl)
        (fun closed => closed.congr rfl rfl rfl)
    exact ⟨_, rfl, streaming.unchanged registered rfl rfl⟩

theorem Streaming.faithful_iff (streaming : c.Streaming) : c.Faithful ↔ c.Justified := by
  refine ⟨Faithful.excused, fun justified => ⟨streaming.bytes, justified, fun up => ?_⟩⟩
  have ready : c.Ready := streaming.registered.resolve_right (fun closed => up closed.down)
  exact ready.writing

end Steps

/-- Every run of an established connection succeeds, and it ends with a faithful stream
exactly if no direct write was misled by an error of another call.

Proof: the established connection has written nothing. Every step keeps the bytes and the
registration, and it drops a message without a reason exactly if it is misled; the
dropped message stays on record. -/
theorem stream_faithful_iff (fd : Nat) (poller : EPollPoller)
    (writeCompleteCallback highWaterMarkCallback : Bool) (highWaterMark : Nat)
    (unknown : poller.channels fd = false) (absent : poller.interest fd = none)
    (start : TcpConnection)
    (established : (new fd poller writeCompleteCallback highWaterMarkCallback
      highWaterMark).connectEstablished = some start)
    (labels : List StreamLabel) (valid : stream.Valid start labels) :
    ∃ final, stream.run start labels = some final ∧
      (final.Faithful ↔ stream.Along Unmistaken start labels) := by
  cases (connectEstablished_exact unknown absent).symm.trans established
  have initial : Streaming (TcpConnection.established fd poller writeCompleteCallback
      highWaterMarkCallback highWaterMark) := ⟨.inl established_ready, rfl⟩
  obtain ⟨final, finished, streaming⟩ := System.run_safe Streaming
    (fun c label streaming enabled => by
      obtain ⟨next, stepped, kept, _⟩ := step_streaming c label streaming enabled
      exact ⟨next, stepped, kept⟩) _ labels initial valid
  have decided := System.run_decides Streaming Justified
    (fun c label streaming enabled => .inr (step_streaming c label streaming enabled))
    _ labels initial valid
  have justified : Justified (TcpConnection.established fd poller writeCompleteCallback
      highWaterMarkCallback highWaterMark) := fun offer offered => nomatch offered
  refine ⟨final, finished, ?_⟩
  rw [and_iff_right justified] at decided
  rw [streaming.faithful_iff, ← decided]
  simp [finished]

/-- A partial write, a second message behind the buffer, a shutdown that waits for the
buffer, a message dropped because the peer is gone and one dropped after the close. -/
def sentInParts : List StreamLabel :=
  [.sendInLoop [1, 2, 3] (.wrote 1) 0, .sendInLoop [4, 5] (.wrote 0) 0, .shutdown,
    .handleWrite (.wrote 3), .handleWrite (.wrote 1), .sendInLoop [6] (.failed EPIPE) EPIPE,
    .handleClose, .sendInLoop [7] (.wrote 0) 0]

/-- The messages that are dropped are the only ones that do not arrive. -/
theorem stream_faithful_iff_partial :
    ∃ final, stream.run (established 7 EPollPoller.initial true true 4) sentInParts =
      some final ∧ final.Faithful := by
  obtain ⟨final, finished, decided⟩ := stream_faithful_iff 7 EPollPoller.initial true true 4 rfl rfl
    (established 7 EPollPoller.initial true true 4) (connectEstablished_exact rfl rfl) sentInParts
    (by decide)
  exact ⟨final, finished, decided.mpr (by decide)⟩

/-- The kernel takes nothing of a message without an error, while `errno` still holds the
broken pipe of another call. The connection stays up and the message is lost. -/
theorem stale_error_loses_message :
    ∃ start final, (new 7 EPollPoller.initial true true 4).connectEstablished = some start ∧
      stream.Valid start [.errno EPIPE, .sendInLoop [104, 105] (.wrote 0) EPIPE] ∧
      stream.run start [.errno EPIPE, .sendInLoop [104, 105] (.wrote 0) EPIPE] = some final ∧
      final.state = .KConnected ∧ final.accepted = [] ∧ final.outputBuffer = [] ∧
      final.offers = [{ message := [104, 105], dropped := true, excused := false }] ∧
      ¬ final.Faithful := by
  refine ⟨established 7 EPollPoller.initial true true 4, _, connectEstablished_exact rfl rfl,
    by decide, rfl, rfl, rfl, rfl, by decide, fun faithful => ?_⟩
  have excused := faithful.excused { message := [104, 105], dropped := true, excused := false }
    (by decide) rfl
  exact Bool.false_ne_true excused

end TcpConnection

end Moban
