import Moban.FtpConnection
import Moban.Runs

/-!
# An FTP session

A session answers the commands of a control connection and sends files and listings on data
connections. A `PASV` command makes a data server with a listener of its own. A `LIST`, `NLST`
or `RETR` command begins a transfer, and the transfer starts when there is a data connection as
well. From then on chunks are produced by tasks of a disk pool, come back through functors of
the loop, and are sent; when the output is drained, the write-complete callback asks for the
next chunk.

Everything happens in the thread of one loop, apart from the tasks of the pool. The loop
alternates between reporting events and running the functors that were queued before. Functors
that are queued while it runs them wait for the next time. Servers and data connections are
numbered in the order in which they are made, and the poller reports only those it knew when it
was asked last. What system calls and the disk pool answer are arguments of a step.

A step without a result has failed: an assertion does not hold, a null pointer is used, or an
empty callback is called. The session itself outlives its control connection here, since the
callbacks of its data server and its functors share the ownership of it. Commands arrive as lines;
logging, names of connections and the bytes received on data connections have no effect.
-/

namespace Moban

open Runs

/-! ## Replies and commands -/

/-- What the session sends on the control connection. -/
inductive Reply where
  | ready
  | passwordRequired
  | loginFirst
  | loginSuccessful
  | system
  | currentDirectory
  | typeSet
  | pleaseLogin
  | notImplemented
  | enteringPassive (ipNetEndian : BitVec 32) (portNetEndian : BitVec 16)
  | passiveTimedOut
  | usePasvFirst
  | noFileName
  | invalidPath
  | noSuchFile
  | directoryListing
  | openingBinary
  | failedToOpen
  | failedToList
  | readError
  | localError
  | transferAborted
  | listComplete
  | transferComplete
  | bye
deriving DecidableEq

namespace Reply

/-- The byte of a number in network order that is stored first, second, and so on. -/
def byteAt {w : Nat} (number : BitVec w) (index : Nat) : String :=
  toString ((number >>> (8 * index)).toNat % 256)

/-- The address and the port, byte by byte. -/
def pasvReply (ipNetEndian : BitVec 32) (portNetEndian : BitVec 16) : String :=
  "227 Entering Passive Mode (" ++ byteAt ipNetEndian 0 ++ "," ++ byteAt ipNetEndian 1 ++ "," ++
    byteAt ipNetEndian 2 ++ "," ++ byteAt ipNetEndian 3 ++ "," ++ byteAt portNetEndian 0 ++ "," ++
    byteAt portNetEndian 1 ++ ")"

/-- The text of a reply, without the end of the line. -/
def text : Reply → String
  | .ready => "220 miniftpd ready"
  | .passwordRequired => "331 password required"
  | .loginFirst => "503 login with USER first"
  | .loginSuccessful => "230 login successful"
  | .system => "215 UNIX Type: L8"
  | .currentDirectory => "257 \"/\" is the current directory"
  | .typeSet => "200 type set to I"
  | .pleaseLogin => "530 please login with USER and PASS"
  | .notImplemented => "502 command not implemented"
  | .enteringPassive ipNetEndian portNetEndian => pasvReply ipNetEndian portNetEndian
  | .passiveTimedOut => "425 passive mode timed out"
  | .usePasvFirst => "425 use PASV first"
  | .noFileName => "501 no file name given"
  | .invalidPath => "550 invalid path"
  | .noSuchFile => "550 no such file"
  | .directoryListing => "150 here comes the directory listing"
  | .openingBinary => "150 opening BINARY mode data connection"
  | .failedToOpen => "550 failed to open file"
  | .failedToList => "550 failed to list directory"
  | .readError => "550 read error during transfer"
  | .localError => "451 local error in processing"
  | .transferAborted => "426 connection closed; transfer aborted"
  | .listComplete => "226 list transfer complete"
  | .transferComplete => "226 transfer complete"
  | .bye => "221 bye"

end Reply

/-- The commands that are told apart, with the arguments that matter. -/
inductive FtpCommand where
  | user
  | pass
  | syst
  | pwd
  | type
  | pasv
  | list (longNames : Bool)
  | retr (arg : List UInt8)
  | quit
  | unknown
deriving DecidableEq

namespace FtpCommand

def bytes (text : List Char) : List UInt8 := text.map fun char => UInt8.ofNat char.toNat

/-- Lower-case letters only. -/
def toupper (byte : UInt8) : UInt8 := if 97 ≤ byte ∧ byte ≤ 122 then byte - 32 else byte

/-- A line up to its first space, in upper case, and what follows that space. -/
def split (line : List UInt8) : List UInt8 × List UInt8 :=
  ((line.takeWhile (· ≠ 32)).map toupper, (line.dropWhile (· ≠ 32)).drop 1)

/-- The command that a line asks for. -/
def parse (line : List UInt8) : FtpCommand :=
  let (cmd, arg) := split line
  if cmd = bytes ['U', 'S', 'E', 'R'] then .user
  else if cmd = bytes ['P', 'A', 'S', 'S'] then .pass
  else if cmd = bytes ['S', 'Y', 'S', 'T'] then .syst
  else if cmd = bytes ['P', 'W', 'D'] ∨ cmd = bytes ['X', 'P', 'W', 'D'] then .pwd
  else if cmd = bytes ['T', 'Y', 'P', 'E'] then .type
  else if cmd = bytes ['P', 'A', 'S', 'V'] then .pasv
  else if cmd = bytes ['L', 'I', 'S', 'T'] then .list true
  else if cmd = bytes ['N', 'L', 'S', 'T'] then .list false
  else if cmd = bytes ['R', 'E', 'T', 'R'] then .retr arg
  else if cmd = bytes ['Q', 'U', 'I', 'T'] then .quit
  else .unknown

end FtpCommand

/-! ## The disk pool -/

/-- What one task reads at most. -/
def kReadChunkSize : Nat := 64 * 1024

/-- The number of names that one task looks up at most. -/
def kListBatchEntries : Nat := 64

/-- What a task of the disk pool works on. -/
inductive DiskWork where
  | pread (fd : Option Nat) (offset : Nat)
  | stat (names : List (List UInt8)) (longList : Bool)
deriving DecidableEq

/-- A task remembers which transfer it is for. -/
structure DiskTask where
  gen : Nat
  work : DiskWork
deriving DecidableEq

/-- What the system calls of a task return: the bytes read, an error, or the line made from the
result of each `stat` that succeeds. -/
inductive DiskResult where
  | read (bytes : List UInt8)
  | failed
  | stats (lines : List (Option (List UInt8)))
deriving DecidableEq

/-- The arguments of `sendChunkReady`. -/
structure Chunk where
  gen : Nat
  bytes : List UInt8
  atEof : Bool
  ioError : Bool
deriving DecidableEq

namespace DiskTask

/-- The lines of a listing, each with its end. -/
def joined (lines : List (List UInt8)) : List UInt8 := lines.flatMap (· ++ [13, 10])

/-- What a task hands back to the loop. -/
def chunk (task : DiskTask) (result : DiskResult) : Chunk :=
  match task.work, result with
  | .pread _ _, .read bytes =>
      { gen := task.gen, bytes := bytes, atEof := bytes.isEmpty, ioError := false }
  | .pread _ _, _ => { gen := task.gen, bytes := [], atEof := false, ioError := true }
  | .stat names false, _ =>
      { gen := task.gen, bytes := joined names, atEof := false, ioError := false }
  | .stat _ true, .stats lines =>
      { gen := task.gen, bytes := joined lines.reduceOption, atEof := false, ioError := false }
  | .stat _ true, _ => { gen := task.gen, bytes := [], atEof := false, ioError := false }

/-- A read returns no more than was asked for, and every name has a result. -/
def Returns : DiskTask → DiskResult → Prop
  | ⟨_, .pread _ _⟩, .read bytes => bytes.length ≤ kReadChunkSize
  | ⟨_, .pread _ _⟩, .failed => True
  | ⟨_, .stat names _⟩, .stats lines => lines.length = names.length
  | _, _ => False

instance : (task : DiskTask) → (result : DiskResult) → Decidable (task.Returns result)
  | ⟨_, .pread _ _⟩, .read bytes => inferInstanceAs (Decidable (bytes.length ≤ kReadChunkSize))
  | ⟨_, .pread _ _⟩, .failed => instDecidableTrue
  | ⟨_, .pread _ _⟩, .stats _ | ⟨_, .stat _ _⟩, .read _ | ⟨_, .stat _ _⟩, .failed =>
      instDecidableFalse
  | ⟨_, .stat _ _⟩, .stats _ => decEq _ _

end DiskTask

/-! ## The session -/

/-- How far the login has come. -/
inductive LoginState where
  | kNeedUser
  | kNeedPass
  | kLoggedIn
deriving DecidableEq

/-- What is being transferred. -/
inductive Xfer where
  | kNone
  | kList
  | kRetr
deriving DecidableEq

/-- What is called later. The closing of the data server is recorded with the server whose data
connection went down or whose transfer failed. A write-complete notification has its own copy
of the callback, or looks the callback up. -/
inductive FtpFunctor where
  | closeDataServer (server : Option Nat)
  | deleteServer (server : Nat)
  | sendChunkReady (chunk : Chunk)
  | writeComplete (conn : Nat) (bound : Bool)
  | forceCloseInLoop (conn : Nat)
deriving DecidableEq

/-- What a functor hands to the socket. -/
def FtpFunctor.bytes : FtpFunctor → List UInt8
  | .sendChunkReady chunk => chunk.bytes
  | _ => []

/-- What the system calls and the disk pool answer during a step. -/
structure FtpInput where
  ipNetEndian : BitVec 32 := 0
  portNetEndian : BitVec 16 := 0
  /-- The path names a regular file. -/
  regular : Bool := true
  /-- What `open` or `opendir` returns. -/
  opened : Option Nat := none
  /-- What `readdir` returns, up to the size of a batch. -/
  names : List (List UInt8) := []
  /-- The disk pool takes the task. -/
  submitted : Bool := true
  nwrote : Nat := 0
  faultError : Bool := false
deriving DecidableEq

/-- A session, its loop, its servers and its data connections. -/
structure FtpSession where
  ctrlConn : StateE
  state : LoginState
  dataServer : Option Nat
  dataConn : Option Nat
  xfer : Xfer
  longNameList : Bool
  xferFile : List UInt8
  xferFd : Option Nat
  nextReadOffset : Nat
  xferDone : Bool
  xferGen : Nat
  xferDir : Option Nat
  pasvTimerId : Option Nat
  /-- The timers that have not expired, each with the server it was started for. -/
  timers : List Nat
  pendingFunctors : List FtpFunctor
  /-- The functors that the loop is running. -/
  functors : Option (List FtpFunctor)
  tasks : List DiskTask
  numServers : Nat
  /-- The servers that are not deleted. -/
  servers : List Nat
  connections : List DataConnection
  /-- The numbers of servers and connections that the poller was last asked about. -/
  polledServers : Nat
  polledConnections : Nat
  /-- The replies that were sent. -/
  replies : List Reply
  /-- The number of transfers that were begun. -/
  transfers : Nat

namespace FtpSession

/-- A new session for a control connection that is up. -/
def initial : FtpSession where
  ctrlConn := .KConnected
  state := .kNeedUser
  dataServer := none
  dataConn := none
  xfer := .kNone
  longNameList := true
  xferFile := []
  xferFd := none
  nextReadOffset := 0
  xferDone := false
  xferGen := 0
  xferDir := none
  pasvTimerId := none
  timers := []
  pendingFunctors := []
  functors := none
  tasks := []
  numServers := 0
  servers := []
  connections := []
  polledServers := 0
  polledConnections := 0
  replies := [.ready]
  transfers := 0

/-! ### The loop and the connections -/

/-- The functor runs after those that are queued already. -/
def queueInLoop (s : FtpSession) (functor : FtpFunctor) : FtpSession :=
  { s with pendingFunctors := s.pendingFunctors ++ [functor] }

/-- Only the timer of the latest data server is cancelled. -/
def cancel (s : FtpSession) : FtpSession :=
  { s with timers := s.timers.filter fun timer => some timer ≠ s.pasvTimerId }

/-- Only an established control connection sends. -/
def reply (s : FtpSession) (text : Reply) : FtpSession :=
  { s with replies := if s.ctrlConn = .KConnected then s.replies ++ [text] else s.replies }

/-- Let a connection do something. -/
def onConnection (s : FtpSession) (id : Nat) (operation : DataConnection → DataConnection) :
    FtpSession :=
  { s with connections := s.connections.modify id operation }

/-- Let the data connection do something, if there is one. -/
def onData (s : FtpSession) (operation : DataConnection → DataConnection) : FtpSession :=
  { s with
    connections :=
      match s.dataConn with
      | none => s.connections
      | some id => s.connections.modify id operation }

/-- The data connection. -/
def conn? (s : FtpSession) : Option DataConnection :=
  s.dataConn.bind fun id => s.connections[id]?

/-- There is a data connection, and it is established. -/
def connected (s : FtpSession) : Bool := s.conn?.any DataConnection.connected

/-- The server that accepted the data connection. -/
def transferServer (s : FtpSession) : Option Nat := s.conn?.map DataConnection.server

/-- The connection may still be closed. -/
def isOpen (s : FtpSession) (id : Nat) : Bool := s.connections[id]?.any fun c => decide c.Open

/-- The connection is closed by a functor, later. -/
def forceClose (s : FtpSession) (id : Nat) : FtpSession :=
  { s with
    connections := s.connections.modify id DataConnection.forceClose
    pendingFunctors :=
      if s.isOpen id then s.pendingFunctors ++ [.forceCloseInLoop id] else s.pendingFunctors }

/-- The functors that `forceClose` of the data connection queues, if there is one. -/
def forceClosed (s : FtpSession) : List FtpFunctor :=
  match s.dataConn with
  | none => []
  | some id => if s.isOpen id then [.forceCloseInLoop id] else []

/-! ### The end of a transfer -/

/-- Forget the transfer, so that the tasks under way are stale. -/
def abortTransfer (s : FtpSession) : FtpSession :=
  { s with
    xfer := .kNone
    xferDone := false
    xferFile := []
    nextReadOffset := 0
    xferGen := s.xferGen + 1
    xferFd := none
    xferDir := none }.onData fun c => c.setWriteCompleteCallback false

/-- The reply that ends a transfer. -/
def endReply (s : FtpSession) : FtpSession :=
  match s.xfer with
  | .kNone => s
  | .kList => s.reply .listComplete
  | .kRetr => s.reply .transferComplete

/-- Report the end and forget the transfer. -/
def sendDataEndReply (s : FtpSession) : FtpSession := s.endReply.cancel.abortTransfer

/-- The server is deleted by a functor, later. -/
def closeDataServer (s : FtpSession) : FtpSession :=
  { s with
    dataConn := none
    dataServer := none
    pendingFunctors :=
      match s.dataServer with
      | none => s.pendingFunctors
      | some server => s.pendingFunctors ++ [.deleteServer server] }

/-- Close the data connection by force, if there is one, and then the data server. -/
def shutDownData (s : FtpSession) : FtpSession :=
  { s with
    connections := (s.onData DataConnection.forceClose).connections
    pendingFunctors :=
      s.pendingFunctors ++ s.forceClosed ++ [.closeDataServer s.transferServer] }

/-- A transfer is given up with a reply: the disk pool took no task, or a task failed. -/
def giveUp (s : FtpSession) (text : Reply) : FtpSession :=
  (s.reply text).abortTransfer.shutDownData

/-- The disk pool has taken no task. -/
def transferRejected (s : FtpSession) : FtpSession := s.giveUp .localError

/-- Everything was sent. -/
def finished (s : FtpSession) : FtpSession :=
  { s with xferDone := true }.onData DataConnection.shutdown

/-- There must be a data connection. -/
def finish (s : FtpSession) : Option FtpSession :=
  if s.dataConn.isSome then some s.finished else none

/-! ### The pump -/

/-- The notification that `send` on the data connection queues. -/
def notified (s : FtpSession) (bytes : List UInt8) (input : FtpInput) : List FtpFunctor :=
  match s.dataConn, s.conn? with
  | some id, some c =>
      if (c.send bytes input.nwrote input.faultError).2 then [.writeComplete id true] else []
  | _, _ => []

/-- `send` on the data connection. -/
def sendData (s : FtpSession) (bytes : List UInt8) (input : FtpInput) : FtpSession :=
  { s with
    connections := (s.onData fun c => (c.send bytes input.nwrote input.faultError).1).connections
    pendingFunctors := s.pendingFunctors ++ s.notified bytes input }

/-- A chunk comes back from the disk pool. A stale one is ignored. -/
def sendChunkReady (s : FtpSession) (chunk : Chunk) (input : FtpInput) : Option FtpSession :=
  if chunk.gen ≠ s.xferGen ∨ s.xfer = .kNone then
    some s
  else if chunk.ioError then
    some (s.giveUp (if s.xfer = .kRetr then .readError else .failedToList))
  else if chunk.bytes = [] ∧ chunk.atEof then
    s.finish
  else if !s.connected then
    some s
  else if chunk.atEof then
    (s.sendData chunk.bytes input).finish
  else
    some (s.sendData chunk.bytes input)

/-- Hand a task to the disk pool. -/
def submit (s : FtpSession) (work : DiskWork) (input : FtpInput) : FtpSession :=
  if input.submitted then { s with tasks := s.tasks ++ [{ gen := s.xferGen, work := work }] }
  else s.transferRejected

/-- The offset is advanced by the size that is asked for. -/
def requestRead (s : FtpSession) (input : FtpInput) : FtpSession :=
  { s with nextReadOffset := s.nextReadOffset + kReadChunkSize }.submit
    (.pread s.xferFd s.nextReadOffset) input

/-- Names are read from the open directory. -/
def requestNames (s : FtpSession) (input : FtpInput) : Option FtpSession :=
  match s.xferDir with
  | none => none
  | some _ =>
      if input.names = [] then
        s.sendChunkReady { gen := s.xferGen, bytes := [], atEof := true, ioError := false } input
      else
        some (s.submit (.stat input.names s.longNameList) input)

/-- Nothing is requested without an established data connection. -/
def requestNextChunk (s : FtpSession) (input : FtpInput) : Option FtpSession :=
  if !s.connected then some s
  else
    match s.xfer with
    | .kNone => some s
    | .kRetr => some (s.requestRead input)
    | .kList => s.requestNames input

/-- The file or the directory is opened. -/
def openHandle (s : FtpSession) (input : FtpInput) : FtpSession :=
  { s with
    xferFd := if s.xfer = .kRetr then input.opened else s.xferFd
    xferDir := if s.xfer = .kRetr then s.xferDir else input.opened }

/-- The file or the directory could not be opened. -/
def refuse (s : FtpSession) : FtpSession :=
  (s.reply (if s.xfer = .kRetr then .failedToOpen else .failedToList)).shutDownData

/-- The transfer starts once it has both a command and a data connection. -/
def tryStartTransfer (s : FtpSession) (input : FtpInput) : Option FtpSession :=
  if !s.connected ∨ s.xfer = .kNone then some s
  else if input.opened = none then some (s.openHandle input).refuse
  else (s.openHandle input).requestNextChunk input

/-! ### Data connections -/

/-- A server has accepted a connection. -/
def addConnection (s : FtpSession) (server : Nat) : FtpSession :=
  { s with connections := s.connections ++ [DataConnection.new server] }

/-- The new connection becomes the data connection. -/
def takeConnection (s : FtpSession) (id : Nat) : FtpSession :=
  { s with dataConn := some id }.onConnection id fun c => c.setWriteCompleteCallback true

/-- `handleDataConnected` for a connection that is up. -/
def handleDataUp (s : FtpSession) (id : Nat) (input : FtpInput) : Option FtpSession :=
  if s.dataConn.isSome then some (s.forceClose id)
  else (s.takeConnection id).tryStartTransfer input

/-- The end of the transfer that a lost connection brings about. -/
def endTransfer (s : FtpSession) : FtpSession :=
  if s.xfer ≠ .kNone ∧ s.xferDone = false then s.abortTransfer.reply .transferAborted
  else s.sendDataEndReply

/-- `handleDataConnected` for a connection of the given server that is down. -/
def handleDataDown (s : FtpSession) (server : Nat) : FtpSession :=
  s.endTransfer.queueInLoop (.closeDataServer (some server))

/-- A connection of the given server is closed. -/
def lose (s : FtpSession) (id server : Nat) : FtpSession :=
  (s.onConnection id DataConnection.close).handleDataDown server

/-- `handleClose` of a data connection. -/
def handleClose (s : FtpSession) (id : Nat) : Option FtpSession := do
  let c ← s.connections[id]?
  guard c.Open
  return s.lose id c.server

/-- A connection that was closed meanwhile is left alone. -/
def forceCloseInLoop (s : FtpSession) (id : Nat) : Option FtpSession := do
  let c ← s.connections[id]?
  if c.Open then s.handleClose id else some s

/-- The destructor of a server tears its connections down. One that is being closed is still
watched, so that its removal fails. What is called for one connection does not depend on which
connection it is, nor does their order matter. -/
def destroyConnections (s : FtpSession) (server : Nat) : List Nat → Option FtpSession
  | [] => some s
  | id :: rest => do
      let c ← s.connections[id]?
      if c.server ≠ server ∨ c.state = .KDisconnected then s.destroyConnections server rest
      else if c.state = .KConnected then (s.lose id server).destroyConnections server rest
      else none

/-- The listener of a server is closed. -/
def unlisten (s : FtpSession) (server : Nat) : FtpSession :=
  { s with servers := s.servers.filter (· ≠ server) }

/-- The destructor of a data server. -/
def deleteServer (s : FtpSession) (server : Nat) : Option FtpSession :=
  (s.unlisten server).destroyConnections server (List.range s.connections.length)

/-- The write-complete callback. -/
def writeCompleteCallback (s : FtpSession) (input : FtpInput) : Option FtpSession :=
  if s.xfer ≠ .kNone then s.requestNextChunk input else some s

/-- Calling a callback that was cleared throws. -/
def writeComplete (s : FtpSession) (id : Nat) (bound : Bool) (input : FtpInput) :
    Option FtpSession := do
  let c ← s.connections[id]?
  guard (bound = true ∨ c.writeCompleteCallback = true)
  s.writeCompleteCallback input

/-- The kernel takes bytes of the output of a connection. -/
def drain (s : FtpSession) (id count : Nat) (c : DataConnection) : FtpSession :=
  { s with
    connections := s.connections.set id (c.handleWrite count).1
    pendingFunctors :=
      if (c.handleWrite count).2 then s.pendingFunctors ++ [.writeComplete id false]
      else s.pendingFunctors }

/-- A connection becomes writable. -/
def handleWrite (s : FtpSession) (id : Nat) (count : Nat) : Option FtpSession := do
  let c ← s.connections[id]?
  return s.drain id count c

/-! ### Commands -/

/-- Do something for a user who is logged in. -/
def requireLogin (s : FtpSession) (action : FtpSession → Option FtpSession) : Option FtpSession :=
  if s.state = .kLoggedIn then action s else some (s.reply .pleaseLogin)

/-- Any name is accepted, at any time. -/
def cmdUser (s : FtpSession) : FtpSession := { s with state := .kNeedPass }.reply .passwordRequired

/-- Any password is accepted, after a name. -/
def cmdPass (s : FtpSession) : FtpSession :=
  if s.state ≠ .kNeedPass then s.reply .loginFirst
  else { s with state := .kLoggedIn }.reply .loginSuccessful

/-- A new data server with its timer. -/
def listen (s : FtpSession) : FtpSession :=
  { s with
    dataServer := some s.numServers
    numServers := s.numServers + 1
    servers := s.servers ++ [s.numServers]
    pasvTimerId := some s.numServers
    timers := s.timers ++ [s.numServers] }

/-- An earlier data server is closed, and its timer is left running. -/
def cmdPasv (s : FtpSession) (input : FtpInput) : FtpSession :=
  let closed := if s.dataServer.isSome then s.closeDataServer else s
  closed.listen.reply (.enteringPassive input.ipNetEndian input.portNetEndian)

/-- A new transfer invalidates all tasks that are under way. -/
def beginList (s : FtpSession) (longNames : Bool) : FtpSession :=
  { s with
    xferGen := s.xferGen + 1
    xfer := .kList
    longNameList := longNames
    transfers := s.transfers + 1 }

/-- The offset starts at zero, too. -/
def beginRetr (s : FtpSession) (fullPath : List UInt8) : FtpSession :=
  { s with
    xferGen := s.xferGen + 1
    xfer := .kRetr
    xferFile := fullPath
    nextReadOffset := 0
    xferDone := false
    transfers := s.transfers + 1 }

/-- The directory is opened when the data connection is there. -/
def cmdList (s : FtpSession) (longNames : Bool) (input : FtpInput) : Option FtpSession :=
  if s.dataServer = none then some (s.reply .usePasvFirst)
  else ((s.beginList longNames).cancel.reply .directoryListing).tryStartTransfer input

/-- The argument is refused as a path: it contains two dots in a row or begins with a slash. -/
def InvalidPath (arg : List UInt8) : Prop := [46, 46] <:+: arg ∨ arg.head? = some 47

instance (arg : List UInt8) : Decidable (InvalidPath arg) := instDecidableOr

/-- The checks come first; the file is opened when the data connection is there. -/
def cmdRetr (s : FtpSession) (arg : List UInt8) (input : FtpInput) : Option FtpSession :=
  if s.dataServer = none then some (s.reply .usePasvFirst)
  else if arg = [] then some (s.reply .noFileName)
  else if InvalidPath arg then some (s.reply .invalidPath)
  else if input.regular = false then some (s.reply .noSuchFile)
  else ((s.beginRetr ([46, 47] ++ arg)).cancel.reply .openingBinary).tryStartTransfer input

/-- `shutdown` of the control connection. -/
def ctrlShutdown (s : FtpSession) : FtpSession :=
  { s with ctrlConn := if s.ctrlConn = .KConnected then .KDisconnecting else s.ctrlConn }

/-- The control connection is shut down, and the transfer goes on. -/
def cmdQuit (s : FtpSession) : FtpSession := (s.reply .bye).ctrlShutdown

/-- Most commands need a login. -/
def execute (s : FtpSession) (command : FtpCommand) (input : FtpInput) : Option FtpSession :=
  match command with
  | .user => some s.cmdUser
  | .pass => some s.cmdPass
  | .syst => some (s.reply .system)
  | .pwd => s.requireLogin fun s => some (s.reply .currentDirectory)
  | .type => s.requireLogin fun s => some (s.reply .typeSet)
  | .pasv => s.requireLogin fun s => some (s.cmdPasv input)
  | .list longNames => s.requireLogin fun s => s.cmdList longNames input
  | .retr arg => s.requireLogin fun s => s.cmdRetr arg input
  | .quit => some s.cmdQuit
  | .unknown => some (s.reply .notImplemented)

/-- A line is parsed and obeyed. -/
def handleCommand (s : FtpSession) (line : List UInt8) (input : FtpInput) : Option FtpSession :=
  s.execute (FtpCommand.parse line) input

/-! ### The other events -/

/-- A data server accepts a connection. -/
def accept (s : FtpSession) (server : Nat) (input : FtpInput) : Option FtpSession :=
  (s.addConnection server).handleDataUp s.connections.length input

/-- A timer expires. The port is given up if it is unused. -/
def pasvTimeout (s : FtpSession) (timer : Nat) : FtpSession :=
  let expired := { s with timers := s.timers.filter (· ≠ timer) }
  if s.dataServer.isSome ∧ s.xfer = .kNone ∧ s.dataConn = none then
    (expired.reply .passiveTimedOut).closeDataServer
  else
    expired

/-- `forceClose` of the control connection, which is then closed by a functor. -/
def ctrlForceClose (s : FtpSession) : FtpSession :=
  { s with ctrlConn := if s.ctrlConn = .KDisconnected then .KDisconnected else .KDisconnecting }

/-- The control connection is closed. -/
def ctrlClose (s : FtpSession) : FtpSession := { s with ctrlConn := .KDisconnected }

/-- A task is done, and its chunk is handed back to the loop. -/
def finishTask (s : FtpSession) (index : Nat) (chunk : Chunk) : FtpSession :=
  { s with
    tasks := s.tasks.eraseIdx index
    pendingFunctors := s.pendingFunctors ++ [.sendChunkReady chunk] }

/-- A thread of the disk pool has finished a task. -/
def taskDone (s : FtpSession) (index : Nat) (result : DiskResult) : Option FtpSession := do
  let task ← s.tasks[index]?
  return s.finishTask index (task.chunk result)

/-! ### Runs -/

/-- What each functor does. -/
def call (s : FtpSession) (functor : FtpFunctor) (input : FtpInput) : Option FtpSession :=
  match functor with
  | .closeDataServer _ => some s.closeDataServer
  | .deleteServer server => s.deleteServer server
  | .sendChunkReady chunk => s.sendChunkReady chunk input
  | .writeComplete id bound => s.writeComplete id bound input
  | .forceCloseInLoop id => s.forceCloseInLoop id

/-- `doPendingFunctors` takes all functors that are queued. -/
def beginFunctors (s : FtpSession) : FtpSession :=
  { s with functors := some s.pendingFunctors, pendingFunctors := [] }

/-- The loop has taken a functor out of those it is running. -/
def remaining (s : FtpSession) (rest : List FtpFunctor) : FtpSession :=
  { s with functors := some rest }

/-- The next functor of the batch is called. -/
def runFunctor (s : FtpSession) (input : FtpInput) : Option FtpSession :=
  match s.functors with
  | some (functor :: rest) => (s.remaining rest).call functor input
  | _ => some s

/-- The poller is asked again. -/
def endFunctors (s : FtpSession) : FtpSession :=
  { s with
    functors := none
    polledServers := s.numServers
    polledConnections := s.connections.length }

/-- One event of the loop, or one end of a task. -/
inductive Label where
  | command (line : List UInt8) (input : FtpInput)
  | accept (server : Nat) (input : FtpInput)
  | dataClosed (conn : Nat)
  | dataWritable (conn : Nat) (count : Nat)
  | timeout (timer : Nat)
  | ctrlForceClose
  | ctrlClosed
  | taskDone (index : Nat) (result : DiskResult)
  | beginFunctors
  | runFunctor (input : FtpInput)
  | endFunctors
deriving DecidableEq

def step (s : FtpSession) : Label → Option FtpSession
  | .command line input => s.handleCommand line input
  | .accept server input => s.accept server input
  | .dataClosed id => s.handleClose id
  | .dataWritable id count => s.handleWrite id count
  | .timeout timer => some (s.pasvTimeout timer)
  | .ctrlForceClose => some s.ctrlForceClose
  | .ctrlClosed => some s.ctrlClose
  | .taskDone index result => s.taskDone index result
  | .beginFunctors => some s.beginFunctors
  | .runFunctor input => s.runFunctor input
  | .endFunctors => some s.endFunctors

/-- What the functor that the loop runs next hands to the socket. -/
def offered (s : FtpSession) : List UInt8 :=
  match s.functors with
  | some (functor :: _) => functor.bytes
  | _ => []

/-- The answers of the system calls of a step are possible. -/
def Answers (s : FtpSession) (input : FtpInput) : Prop :=
  input.names.length ≤ kListBatchEntries ∧ (input.faultError = true → input.nwrote = 0) ∧
    input.nwrote ≤ s.offered.length

instance (s : FtpSession) (input : FtpInput) : Decidable (s.Answers input) := instDecidableAnd

/-- The loop reports events while it runs no functors, and only about what its poller knows.
Tasks may be done at any time, and the control connection is closed by an event or by a
functor. -/
def Enabled (s : FtpSession) : Label → Prop
  | .command _ input => s.functors = none ∧ s.ctrlConn ≠ .KDisconnected ∧ s.Answers input
  | .accept server input =>
      s.functors = none ∧ server ∈ s.servers ∧ server < s.polledServers ∧ s.Answers input
  | .dataClosed id => s.functors = none ∧ id < s.polledConnections ∧ s.isOpen id = true
  | .dataWritable id count =>
      s.functors = none ∧ id < s.polledConnections ∧
        ∃ c ∈ s.connections[id]?, c.Open ∧ c.output ≠ [] ∧ count ≤ c.output.length
  | .timeout timer => s.functors = none ∧ timer ∈ s.timers
  | .ctrlForceClose => s.functors = none ∧ s.ctrlConn ≠ .KDisconnected
  | .ctrlClosed => s.ctrlConn ≠ .KDisconnected
  | .taskDone index result => ∃ task ∈ s.tasks[index]?, task.Returns result
  | .beginFunctors => s.functors = none
  | .runFunctor input => (∃ batch ∈ s.functors, batch ≠ []) ∧ s.Answers input
  | .endFunctors => s.functors = some []

instance (s : FtpSession) : DecidablePred s.Enabled
  | .command .. | .accept .. | .dataClosed _ | .dataWritable .. | .timeout _ | .ctrlForceClose
  | .runFunctor _ => instDecidableAnd
  | .ctrlClosed => instDecidableNot
  | .taskDone .. => inferInstanceAs (Decidable (∃ _ ∈ _, _))
  | .beginFunctors | .endFunctors => decEq _ _

def system : System FtpSession Label where
  step := step
  enabled := Enabled

instance (s : FtpSession) (label : Label) : Decidable (system.enabled s label) :=
  inferInstanceAs (Decidable (s.Enabled label))

/-! ### The beginning of a session -/

/-- A line with a command. -/
def commandLine (text : List Char) (input : FtpInput) : Label :=
  .command (FtpCommand.bytes text) input

/-- The user logs in and asks for a listener, which the poller then knows. -/
def listened (rest : List Label) : List Label :=
  commandLine ['U', 'S', 'E', 'R', ' ', 'a'] {} :: commandLine ['p', 'a', 's', 's'] {} ::
    commandLine ['P', 'A', 'S', 'V'] {} :: .beginFunctors :: .endFunctors :: rest

/-- A file is asked for, and opened under this number when the data connection is accepted. -/
def sendingFile (fd : Nat) (rest : List Label) : List Label :=
  listened
    (commandLine ['R', 'E', 'T', 'R', ' ', 'f'] {} :: .accept 0 { opened := some fd } :: rest)

/-- A file is asked for, its data connection is lost, and a new listener is asked for. -/
def lostMeanwhile (rest : List Label) : List Label :=
  sendingFile 5 (.beginFunctors :: .endFunctors :: .dataClosed 0 :: .beginFunctors ::
    .runFunctor {} :: .endFunctors :: commandLine ['P', 'A', 'S', 'V'] {} :: .beginFunctors ::
    .runFunctor {} :: .endFunctors :: rest)

end FtpSession

end Moban
