import Moban.Buffer
import Moban.Channel

/-!
# A connection in its loop thread

A connection owns a channel, registered with the poller of its loop, and an output buffer
for what the kernel did not accept at once. The buffers are byte queues here. Results of
system calls are arguments; `errno` is a variable of the thread and keeps its value when
a call does not fail. What it holds after a call of the logger is an argument as well.

User callbacks are recorded in the log, and what they do follows as separate steps. Two
functions call back before they are done, and each of them is in two parts. Functors that
the connection queues in its loop are kept in order.

An operation without a result has failed: an assertion does not hold, or the poller ended
the process. Thread checks, names, addresses and the user's context have no effect here.
-/

namespace Moban

/-- The state of a connection. -/
inductive StateE where
  | KDisconnected
  | KConnecting
  | KConnected
  | KDisconnecting
deriving DecidableEq

def EWOULDBLOCK : Nat := 11
def EPIPE : Nat := 32
def ECONNRESET : Nat := 104

/-- The result of writing to the descriptor. -/
inductive WriteResult where
  | wrote (count : Nat)
  | failed (errno : Nat)
deriving DecidableEq

namespace WriteResult

/-- The number returned by the call. -/
def count : WriteResult → Int
  | .wrote count => count
  | .failed _ => -1

/-- The value of `errno` after the call. -/
def errno (before : Nat) : WriteResult → Nat
  | .wrote _ => before
  | .failed errno => errno

/-- The kernel accepts no more bytes than it was offered. -/
def Fits (data : List UInt8) : WriteResult → Prop
  | .wrote count => count ≤ data.length
  | .failed _ => True

/-- The peer is gone. -/
def Broken (result : WriteResult) : Prop := result = .failed EPIPE ∨ result = .failed ECONNRESET

instance (data : List UInt8) : (result : WriteResult) → Decidable (result.Fits data)
  | .wrote count => inferInstanceAs (Decidable (count ≤ data.length))
  | .failed _ => instDecidableTrue

instance (result : WriteResult) : Decidable result.Broken := instDecidableOr

end WriteResult

/-- What a connection asks its loop to call later. -/
inductive ConnectionFunctor where
  | writeComplete
  | highWaterMark (size : Nat)
  | forceCloseInLoop
  | connnectDestroyed
deriving DecidableEq

/-- Callbacks and the shutdown of the writing side, in the order of their calls. -/
inductive ConnectionEvent where
  | connection (connected : Bool)
  | message
  | close
  | shutdownWrite
deriving DecidableEq

/-- A message given to `sendInLoop`, whether it was dropped, and whether there was a reason
to drop it: the connection was down, or the direct write found the peer gone. -/
structure Offer where
  message : List UInt8
  dropped : Bool
  excused : Bool
deriving DecidableEq

/-- A connection, its registration, and what has become of the bytes given to it. -/
structure TcpConnection where
  state : StateE
  channel : Channel
  poller : EPollPoller
  inputBuffer : List UInt8
  outputBuffer : List UInt8
  writeCompleteCallback : Bool
  highWaterMarkCallback : Bool
  highWaterMark : Nat
  errno : Nat
  functors : List ConnectionFunctor
  log : List ConnectionEvent
  accepted : List UInt8
  offers : List Offer

namespace TcpConnection

/-- A new connection for a descriptor that its poller does not know. -/
def new (fd : Nat) (poller : EPollPoller) (writeCompleteCallback highWaterMarkCallback : Bool)
    (highWaterMark : Nat) : TcpConnection where
  state := .KConnecting
  channel := Channel.new fd
  poller := poller
  inputBuffer := []
  outputBuffer := []
  writeCompleteCallback := writeCompleteCallback
  highWaterMarkCallback := highWaterMarkCallback
  highWaterMark := highWaterMark
  errno := 0
  functors := []
  log := []
  accepted := []
  offers := []

def connected (c : TcpConnection) : Bool := decide (c.state = .KConnected)

/-- The connection may still be closed. -/
def Open (c : TcpConnection) : Prop := c.state = .KConnected ∨ c.state = .KDisconnecting

instance (c : TcpConnection) : Decidable c.Open := instDecidableOr

/-- Let the channel do something with its registration. -/
def onChannel (c : TcpConnection)
    (operation : EPollPoller → Channel → Option (EPollPoller × Channel)) :
    Option TcpConnection := do
  let (poller, channel) ← operation c.poller c.channel
  return { c with poller := poller, channel := channel }

def queueInLoop (c : TcpConnection) (functor : ConnectionFunctor) : TcpConnection :=
  { c with functors := c.functors ++ [functor] }

/-- Call the user's connection callback, which sees the connection up or down. -/
def connectionCallback (c : TcpConnection) : TcpConnection :=
  { c with log := c.log ++ [.connection c.connected] }

/-- The connection is registered and reported. -/
def connectEstablished (c : TcpConnection) : Option TcpConnection := do
  guard (c.state = .KConnecting)
  let reading ← { c with state := .KConnected }.onChannel Channel.enableReading
  return reading.connectionCallback

/-! ## Sending -/

/-- The kernel takes what it accepts; only a failing call sets `errno`. -/
def kernelWrite (c : TcpConnection) (data : List UInt8) (result : WriteResult) : TcpConnection :=
  { c with accepted := c.accepted ++ data.take result.count.toNat, errno := result.errno c.errno }

/-- The direct write of `sendInLoop`: the number of bytes written and whether the peer
was found gone. The error is looked at whenever nothing was written, and once more
after logging it. -/
def directWrite (c : TcpConnection) (message : List UInt8) (result : WriteResult)
    (logged : Nat) : TcpConnection × Nat × Bool :=
  let written := c.kernelWrite message result
  if 0 < result.count then
    let nwrote := result.count.toNat
    if message.length - nwrote = 0 ∧ c.writeCompleteCallback then
      (written.queueInLoop .writeComplete, nwrote, false)
    else
      (written, nwrote, false)
  else if written.errno ≠ EWOULDBLOCK then
    ({ written with errno := logged }, 0, decide (logged = EPIPE ∨ logged = ECONNRESET))
  else
    (written, 0, false)

/-- Buffer what is left of a message and watch for writability. -/
def bufferRest (c : TcpConnection) (rest : List UInt8) : Option TcpConnection :=
  let oldLen := c.outputBuffer.length
  let warned :=
    if oldLen + rest.length ≥ c.highWaterMark ∧ oldLen < c.highWaterMark ∧
        c.highWaterMarkCallback then
      c.queueInLoop (.highWaterMark (oldLen + rest.length))
    else
      c
  let buffered := { warned with outputBuffer := warned.outputBuffer ++ rest }
  if buffered.channel.isWriting then some buffered else buffered.onChannel Channel.enableWriting

/-- There is a reason to drop this message. -/
def Excused (c : TcpConnection) (result : WriteResult) : Prop :=
  c.state = .KDisconnected ∨ (c.outputBuffer = [] ∧ result.Broken)

instance (c : TcpConnection) (result : WriteResult) : Decidable (c.Excused result) :=
  instDecidableOr

/-- Record what became of a message; `before` is the connection that was given it. -/
def offered (c before : TcpConnection) (message : List UInt8) (result : WriteResult)
    (dropped : Bool) : TcpConnection :=
  let offer : Offer :=
    { message := message, dropped := dropped, excused := decide (before.Excused result) }
  { c with offers := c.offers ++ [offer] }

/-- Write what the kernel takes at once and buffer the rest. -/
def sendInLoop (c : TcpConnection) (message : List UInt8) (result : WriteResult)
    (logged : Nat) : Option TcpConnection :=
  if c.state = .KDisconnected then
    some (c.offered c message result true)
  else do
    let (sent, nwrote, faultError) :=
      if !c.channel.isWriting ∧ c.outputBuffer.length = 0 then
        c.directWrite message result logged
      else
        (c, 0, false)
    let remaining := message.length - nwrote
    guard (remaining ≤ message.length)
    if !faultError ∧ 0 < remaining then
      let buffered ← sent.bufferRest (message.drop nwrote)
      return buffered.offered c message result false
    else
      return sent.offered c message result (decide (0 < remaining))

/-- `send` in the loop thread. -/
def send (c : TcpConnection) (message : List UInt8) (result : WriteResult) (logged : Nat) :
    Option TcpConnection :=
  if c.state = .KConnected then c.sendInLoop message result logged else some c

/-- The writing side is shut down unless output is left. -/
def shutdownInLoop (c : TcpConnection) : TcpConnection :=
  if c.channel.isWriting then c else { c with log := c.log ++ [.shutdownWrite] }

/-- Write what is buffered. With nothing left, the user is notified and a shutdown completed. -/
def handleWrite (c : TcpConnection) (result : WriteResult) : Option TcpConnection :=
  if c.channel.isWriting then
    let written := c.kernelWrite c.outputBuffer result
    if 0 < result.count then do
      -- The assertion of the buffer's `retrieve`.
      guard (result.count.toNat ≤ c.outputBuffer.length)
      let drained := { written with outputBuffer := c.outputBuffer.drop result.count.toNat }
      if drained.outputBuffer.length = 0 then
        let stopped ← drained.onChannel Channel.disableWriting
        let noted := if c.writeCompleteCallback then stopped.queueInLoop .writeComplete else stopped
        return if noted.state = .KDisconnecting then noted.shutdownInLoop else noted
      else
        return drained
    else
      some written
  else
    some c

/-! ## Closing -/

/-- `handleClose` up to and including the connection callback. -/
def beginClose (c : TcpConnection) : Option TcpConnection := do
  guard c.Open
  let closed ← { c with state := .KDisconnected }.onChannel Channel.disableAll
  return closed.connectionCallback

/-- The rest of `handleClose`. -/
def endClose (c : TcpConnection) : TcpConnection := { c with log := c.log ++ [.close] }

/-- Take the connection down and report its end. -/
def handleClose (c : TcpConnection) : Option TcpConnection := do
  let closed ← c.beginClose
  return closed.endClose

/-- `handleRead` up to the end of its user callback, and whether the connection is being
closed, so that the rest of `handleClose` is still to come. The pending error that
`handleError` fetches is only logged. -/
def beginRead (c : TcpConnection) : Readv → Option (TcpConnection × Bool)
  | .failed errno => some ({ c with errno := errno }, false)
  | .delivered bytes =>
      if bytes.length = 0 then do
        let closed ← c.beginClose
        return (closed, true)
      else
        some ({ c with inputBuffer := c.inputBuffer ++ bytes, log := c.log ++ [.message] }, false)

/-- `shutdown` in the loop thread. -/
def shutdown (c : TcpConnection) : TcpConnection :=
  if c.state = .KConnected then { c with state := .KDisconnecting }.shutdownInLoop else c

/-- An open connection is closed by a functor, later. -/
def forceClose (c : TcpConnection) : TcpConnection :=
  if c.Open then { c with state := .KDisconnecting }.queueInLoop .forceCloseInLoop else c

/-- `forceCloseInLoop` up to the end of its user callback, and whether the connection is
being closed. -/
def beginForceClose (c : TcpConnection) : Option (TcpConnection × Bool) :=
  if c.Open then do
    let closed ← c.beginClose
    return (closed, true)
  else
    some (c, false)

/-- `connnectDestroyed` up to the removal of the channel. -/
def beginDestroy (c : TcpConnection) : Option TcpConnection :=
  if c.state = .KConnected then do
    let disabled ← { c with state := .KDisconnected }.onChannel Channel.disableAll
    return disabled.connectionCallback
  else
    some c

/-- The rest of `connnectDestroyed`. -/
def endDestroy (c : TcpConnection) (loop : ActiveEvents) : Option TcpConnection :=
  c.onChannel (Channel.remove loop)

end TcpConnection

end Moban
