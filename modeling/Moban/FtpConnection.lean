import Moban.TcpWriteComplete

/-!
# The data connection of an FTP session

A session sends a file or a listing on a data connection of its own loop. What the session
depends on is the state of the connection, the output that the kernel has not taken yet, and
whether a write-complete callback is installed. The connection is reduced to these, to the
server that accepted it, and to a record of the chunks it was given. The number of bytes that
the direct write took and whether it found the peer gone are arguments.

Each operation agrees with the one of the connection in its loop thread, and a notification
that the output is drained is queued by one exactly if it is queued by the other.
-/

namespace Moban

/-- A data connection, and the chunks it was given to send. -/
structure DataConnection where
  server : Nat
  state : StateE
  output : List UInt8
  writeCompleteCallback : Bool
  sent : List (List UInt8)
deriving DecidableEq

namespace DataConnection

/-- A connection that its server has just established. -/
def new (server : Nat) : DataConnection where
  server := server
  state := .KConnected
  output := []
  writeCompleteCallback := false
  sent := []

def connected (c : DataConnection) : Bool := decide (c.state = .KConnected)

def Open (c : DataConnection) : Prop := c.state = .KConnected ∨ c.state = .KDisconnecting

instance (c : DataConnection) : Decidable c.Open := instDecidableOr

def setWriteCompleteCallback (c : DataConnection) (installed : Bool) : DataConnection :=
  { c with writeCompleteCallback := installed }

/-- The connection has been given one more chunk and keeps this output. -/
def took (c : DataConnection) (chunk output : List UInt8) : DataConnection :=
  { c with output := output, sent := c.sent ++ [chunk] }

/-- `send` in the loop thread, and whether a notification is queued: only a direct write that
takes the whole chunk, and at least one byte, queues it. A fault is found when nothing was
written, and drops the chunk. -/
def send (c : DataConnection) (chunk : List UInt8) (nwrote : Nat) (faultError : Bool) :
    DataConnection × Bool :=
  if c.state = .KConnected then
    if c.output = [] then
      (c.took chunk (if faultError then [] else chunk.drop nwrote),
        decide (0 < nwrote ∧ chunk.length - nwrote = 0) && c.writeCompleteCallback)
    else
      (c.took chunk (c.output ++ chunk), false)
  else
    (c, false)

/-- The kernel takes bytes of the output, and whether a notification is queued. -/
def handleWrite (c : DataConnection) (count : Nat) : DataConnection × Bool :=
  if c.output ≠ [] ∧ 0 < count then
    let rest := c.output.drop count
    ({ c with output := rest }, decide (rest = []) && c.writeCompleteCallback)
  else
    (c, false)

def shutdown (c : DataConnection) : DataConnection :=
  if c.state = .KConnected then { c with state := .KDisconnecting } else c

def forceClose (c : DataConnection) : DataConnection :=
  if c.Open then { c with state := .KDisconnecting } else c

def close (c : DataConnection) : DataConnection := { c with state := .KDisconnected }

/-! ## Agreement with the connection in its loop thread -/

/-- The reduced connection shows what the session depends on. -/
structure Agrees (c : DataConnection) (conn : TcpConnection) : Prop where
  state : c.state = conn.state
  output : c.output = conn.outputBuffer
  callback : c.writeCompleteCallback = conn.writeCompleteCallback

/-- The number of notifications that the connection has queued. -/
def notifications (conn : TcpConnection) : Nat := conn.functors.count .writeComplete

/-- The connection keeps its state and callback, has this output, and has queued this many
more notifications. -/
structure Continues (conn final : TcpConnection) (output : List UInt8) (more : Nat) : Prop where
  state : final.state = conn.state
  output : final.outputBuffer = output
  callback : final.writeCompleteCallback = conn.writeCompleteCallback
  notified : notifications final = notifications conn + more

section Agreement

variable {c : DataConnection} {conn sent final : TcpConnection} {message : List UInt8}
  {result : WriteResult}

theorem Agrees.open_iff (agrees : c.Agrees conn) : c.Open ↔ conn.Open := by
  rw [Open, TcpConnection.Open, agrees.state]

theorem bufferRest_continues {rest : List UInt8} (done : conn.bufferRest rest = some final) :
    Continues conn final (conn.outputBuffer ++ rest) 0 := by
  -- The warning about the size of the output is not a notification.
  have warned (size : Nat) :
      notifications (conn.queueInLoop (.highWaterMark size)) = notifications conn := by
    simp [notifications, TcpConnection.queueInLoop]
  simp only [TcpConnection.bufferRest] at done
  split_ifs at done
  · cases done
    exact ⟨rfl, rfl, rfl, warned _⟩
  · obtain ⟨_, _, made⟩ := Option.bind_eq_some_iff.mp done
    cases made
    exact ⟨rfl, rfl, rfl, warned _⟩
  · cases done
    exact ⟨rfl, rfl, rfl, rfl⟩
  · obtain ⟨_, _, made⟩ := Option.bind_eq_some_iff.mp done
    cases made
    exact ⟨rfl, rfl, rfl, rfl⟩

/-- What `sendInLoop` does after the direct write. -/
theorem rest_continues {before : TcpConnection} {nwrote : Nat} {faultError : Bool}
    (done : (if !faultError ∧ 0 < message.length - nwrote then do
        let buffered ← sent.bufferRest (message.drop nwrote)
        return buffered.offered before message result false
      else
        return sent.offered before message result
          (decide (0 < message.length - nwrote)) : Option TcpConnection) = some final) :
    Continues sent final
      (sent.outputBuffer ++ if faultError then [] else message.drop nwrote) 0 := by
  split at done
  case isTrue left =>
    obtain ⟨buffered, buffering, made⟩ := Option.bind_eq_some_iff.mp done
    have sound : faultError = false := by simpa using left.1
    have continues := bufferRest_continues buffering
    cases made
    refine ⟨continues.state, ?_, continues.callback, continues.notified⟩
    rw [sound]
    exact continues.output
  case isFalse complete =>
    cases done
    refine ⟨rfl, ?_, rfl, rfl⟩
    cases faultError with
    | true => simp [TcpConnection.offered]
    | false =>
      have all : message.length ≤ nwrote := by simpa [Nat.sub_eq_zero_iff_le] using complete
      simp [TcpConnection.offered, List.drop_eq_nil_of_le all]

/-- The direct write leaves the output alone. It queues a notification exactly if it took at
least one byte and nothing is left. -/
theorem directWrite_continues (conn : TcpConnection) (fits : result.Fits message) (logged : Nat) :
    ∃ sent nwrote faultError,
      conn.directWrite message result logged = (sent, nwrote, faultError) ∧
      nwrote ≤ message.length ∧ (faultError = true → nwrote = 0) ∧
      Continues conn sent conn.outputBuffer
        (decide (0 < nwrote ∧ message.length - nwrote = 0) &&
          conn.writeCompleteCallback).toNat := by
  unfold TcpConnection.directWrite
  by_cases positive : 0 < result.count
  · have bound : result.count.toNat ≤ message.length := TcpConnection.count_le_of_fits fits
    have wrote : 0 < result.count.toNat := by omega
    simp only [positive, if_true]
    by_cases complete : message.length - result.count.toNat = 0 ∧ conn.writeCompleteCallback
    · refine ⟨_, _, _, if_pos complete, bound, nofun, rfl, rfl, rfl, ?_⟩
      simp [wrote, complete, notifications, TcpConnection.queueInLoop, TcpConnection.kernelWrite]
    · refine ⟨_, _, _, if_neg complete, bound, nofun, rfl, rfl, rfl, ?_⟩
      have unnotified :
          (decide (0 < result.count.toNat ∧ message.length - result.count.toNat = 0) &&
          conn.writeCompleteCallback) = false := by
        simpa [wrote] using complete
      rw [unnotified]
      rfl
  · simp only [positive, if_false]
    split
    · exact ⟨_, _, _, rfl, Nat.zero_le _, fun _ => rfl, rfl, rfl, rfl, rfl⟩
    · exact ⟨_, _, _, rfl, Nat.zero_le _, fun _ => rfl, rfl, rfl, rfl, rfl⟩

/-- A chunk is sent as the connection in its loop thread sends it, for some result of the
direct write. -/
theorem send_agrees (agrees : c.Agrees conn) (ready : conn.Ready) (fits : result.Fits message)
    {logged : Nat} (done : conn.send message result logged = some final) :
    ∃ nwrote faultError, nwrote ≤ message.length ∧ (faultError = true → nwrote = 0) ∧
      (c.send message nwrote faultError).1.Agrees final ∧
      notifications final =
        notifications conn + (c.send message nwrote faultError).2.toNat := by
  by_cases connected : conn.state = .KConnected
  · rw [TcpConnection.send, if_pos connected, TcpConnection.sendInLoop,
      if_neg (by simp [connected])] at done
    have here : c.state = .KConnected := agrees.state.trans connected
    by_cases empty : conn.outputBuffer = []
    · obtain ⟨sent, nwrote, faultError, direct, bound, sound, continues⟩ :=
        directWrite_continues conn fits logged
      have idle : conn.channel.isWriting = false := by simpa [empty] using ready.writing
      simp only [idle, empty, direct, Bool.not_false, List.length_nil, and_self, if_true] at done
      obtain ⟨_, _, rest⟩ := Option.bind_eq_some_iff.mp done
      have finished := rest_continues rest
      have given : c.send message nwrote faultError =
          (c.took message (if faultError then [] else message.drop nwrote),
            decide (0 < nwrote ∧ message.length - nwrote = 0) && c.writeCompleteCallback) := by
        rw [send, if_pos here, if_pos (agrees.output.trans empty)]
      refine ⟨nwrote, faultError, bound, sound, ?_, ?_⟩
      · rw [given]
        refine ⟨agrees.state.trans (finished.state.trans continues.state).symm, ?_,
          agrees.callback.trans (finished.callback.trans continues.callback).symm⟩
        rw [finished.output, continues.output, empty]
        rfl
      · rw [given, finished.notified, continues.notified, agrees.callback, Nat.add_zero]
    · have writing : conn.channel.isWriting = true := ready.writing.mpr empty
      simp only [writing, Bool.not_true, Bool.false_eq_true, false_and, if_false] at done
      obtain ⟨_, _, rest⟩ := Option.bind_eq_some_iff.mp done
      have finished := rest_continues rest
      have given : c.send message 0 false = (c.took message (c.output ++ message), false) := by
        rw [send, if_pos here, if_neg (agrees.output ▸ empty)]
      refine ⟨0, false, Nat.zero_le _, by simp, ?_, ?_⟩
      · rw [given]
        refine ⟨agrees.state.trans finished.state.symm, ?_,
          agrees.callback.trans finished.callback.symm⟩
        rw [finished.output, ← agrees.output]
        rfl
      · rw [given, finished.notified]
        rfl
  · rw [TcpConnection.send, if_neg connected] at done
    cases done
    have here : c.state ≠ .KConnected := agrees.state ▸ connected
    exact ⟨0, false, Nat.zero_le _, by simp, by simpa [send, here] using agrees,
      by simp [send, here]⟩

theorem shutdownInLoop_continues (conn : TcpConnection) :
    Continues conn conn.shutdownInLoop conn.outputBuffer 0 := by
  unfold TcpConnection.shutdownInLoop
  split
  · exact ⟨rfl, rfl, rfl, rfl⟩
  · exact ⟨rfl, rfl, rfl, rfl⟩

theorem Continues.trans {middle : TcpConnection} {output last : List UInt8} {first second : Nat}
    (early : Continues conn middle output first) (late : Continues middle final last second) :
    Continues conn final last (first + second) :=
  ⟨late.state.trans early.state, late.output, late.callback.trans early.callback,
    by rw [late.notified, early.notified, Nat.add_assoc]⟩

/-- The end of `handleWrite` for an output that is drained. -/
theorem drained_continues {stopped : TcpConnection} {installed : Bool} (made : some (if
        (if installed then stopped.queueInLoop .writeComplete else stopped).state =
          .KDisconnecting then
        (if installed then stopped.queueInLoop .writeComplete else stopped).shutdownInLoop
      else
        (if installed then stopped.queueInLoop .writeComplete else stopped)) = some final) :
    Continues stopped final stopped.outputBuffer installed.toNat := by
  have noted : Continues stopped
      (if installed then stopped.queueInLoop .writeComplete else stopped) stopped.outputBuffer
      installed.toNat := by
    cases installed with
    | true => exact ⟨rfl, rfl, rfl, by simp [notifications, TcpConnection.queueInLoop]⟩
    | false => exact ⟨rfl, rfl, rfl, rfl⟩
  rw [← Option.some.inj made]
  generalize (if installed then stopped.queueInLoop .writeComplete else stopped) = after
    at noted ⊢
  split
  · have ended := noted.trans (shutdownInLoop_continues after)
    rwa [noted.output] at ended
  · exact noted

theorem handleWrite_continues (ready : conn.Ready) (done : conn.handleWrite result = some final) :
    ∃ count, count ≤ conn.outputBuffer.length ∧
      Continues conn final (conn.outputBuffer.drop count)
        (decide (conn.outputBuffer ≠ [] ∧ 0 < count ∧ conn.outputBuffer.drop count = []) &&
          conn.writeCompleteCallback).toNat := by
  unfold TcpConnection.handleWrite at done
  split at done
  case isTrue writing =>
    have pending : conn.outputBuffer ≠ [] := ready.writing.mp writing
    simp only at done
    split at done
    case isTrue positive =>
      obtain ⟨_, guarded, finished⟩ := Option.bind_eq_some_iff.mp done
      have bound : result.count.toNat ≤ conn.outputBuffer.length :=
        (Option.guard_eq_some' _).mp guarded
      have wrote : 0 < result.count.toNat := by omega
      refine ⟨result.count.toNat, bound, ?_⟩
      split at finished
      case isTrue drained =>
        have empty : conn.outputBuffer.drop result.count.toNat = [] :=
          List.length_eq_zero_iff.mp drained
        obtain ⟨stopped, stopping, made⟩ := Option.bind_eq_some_iff.mp finished
        obtain ⟨_, _, kept⟩ := Option.bind_eq_some_iff.mp stopping
        cases kept
        have ended := drained_continues made
        simpa [pending, wrote, empty] using (⟨ended.state, ended.output, ended.callback,
          ended.notified⟩ : Continues conn final _ _)
      case isFalse left =>
        have more : conn.outputBuffer.drop result.count.toNat ≠ [] := fun empty =>
          left (List.length_eq_zero_iff.mpr empty)
        cases finished
        exact ⟨rfl, rfl, rfl, by simp [more, notifications, TcpConnection.kernelWrite]⟩
    · cases done
      exact ⟨0, Nat.zero_le _, rfl, rfl, rfl, by simp [notifications, TcpConnection.kernelWrite]⟩
  · cases done
    exact ⟨0, Nat.zero_le _, rfl, rfl, rfl, by simp⟩

/-- The kernel takes bytes of the output as it does in the loop thread. -/
theorem handleWrite_agrees (agrees : c.Agrees conn) (ready : conn.Ready)
    (done : conn.handleWrite result = some final) :
    ∃ count, count ≤ c.output.length ∧ (c.handleWrite count).1.Agrees final ∧
      notifications final = notifications conn + (c.handleWrite count).2.toNat := by
  obtain ⟨count, bound, continues⟩ := handleWrite_continues ready done
  rw [← agrees.output, ← agrees.callback] at continues
  refine ⟨count, agrees.output ▸ bound, ?_, ?_⟩
  · unfold handleWrite
    split
    · exact ⟨agrees.state.trans continues.state.symm, continues.output.symm,
        agrees.callback.trans continues.callback.symm⟩
    case isFalse nothing =>
      have same : c.output.drop count = c.output := by
        by_cases empty : c.output = []
        · simp [empty]
        · have zero : count = 0 := by simpa [empty] using nothing
          rw [zero, List.drop_zero]
      exact ⟨agrees.state.trans continues.state.symm, (continues.output.trans same).symm,
        agrees.callback.trans continues.callback.symm⟩
  · rw [continues.notified, handleWrite]
    by_cases taking : c.output ≠ [] ∧ 0 < count
    · rw [if_pos taking]
      simp [taking]
    · rw [if_neg taking]
      simp only [← and_assoc, taking, false_and, decide_false, Bool.false_and]

theorem shutdown_agrees (agrees : c.Agrees conn) : c.shutdown.Agrees conn.shutdown := by
  unfold shutdown TcpConnection.shutdown
  rw [agrees.state]
  split
  · have continues := shutdownInLoop_continues { conn with state := .KDisconnecting }
    exact ⟨continues.state.symm, agrees.output.trans continues.output.symm,
      agrees.callback.trans continues.callback.symm⟩
  · exact agrees

theorem forceClose_agrees (agrees : c.Agrees conn) : c.forceClose.Agrees conn.forceClose := by
  unfold forceClose TcpConnection.forceClose
  by_cases opened : conn.Open
  · rw [if_pos opened, if_pos (agrees.open_iff.mpr opened)]
    exact ⟨rfl, agrees.output, agrees.callback⟩
  · rw [if_neg opened, if_neg (mt agrees.open_iff.mp opened)]
    exact agrees

theorem close_agrees (agrees : c.Agrees conn) (done : conn.beginClose = some final) :
    c.Open ∧ c.close.Agrees final := by
  obtain ⟨_, opened, rest⟩ := Option.bind_eq_some_iff.mp done
  obtain ⟨closed, disabled, made⟩ := Option.bind_eq_some_iff.mp rest
  obtain ⟨_, _, kept⟩ := Option.bind_eq_some_iff.mp disabled
  cases kept
  cases made
  exact ⟨agrees.open_iff.mpr ((Option.guard_eq_some' _).mp opened),
    rfl, agrees.output, agrees.callback⟩

end Agreement

end DataConnection

end Moban
