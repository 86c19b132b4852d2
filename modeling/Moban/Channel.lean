import Mathlib

/-!
# Channels and their poller

A channel holds the events its owner wants for one descriptor and the events a poll has
reported. The poller keeps a table of descriptors and mirrors the wanted events in the
kernel's interest set, adding, changing or deleting entries according to what it
remembers in the channel.

Channels of one poller have distinct descriptors, so a descriptor stands for its channel.
An operation without a result has failed: an assertion does not hold, or the kernel
refuses an entry, which ends the process. A refused deletion is only logged.
-/

namespace Moban

/-! ## Event masks -/

/-- There is data to read. -/
def POLLIN : BitVec 32 := 0x001
/-- There is urgent data to read. -/
def POLLPRI : BitVec 32 := 0x002
/-- Writing would not block. -/
def POLLOUT : BitVec 32 := 0x004
/-- The descriptor has an error. -/
def POLLERR : BitVec 32 := 0x008
/-- Both directions are shut down. -/
def POLLHUP : BitVec 32 := 0x010
/-- The descriptor is not open. -/
def POLLNVAL : BitVec 32 := 0x020
/-- The peer writes no more. -/
def POLLRDHUP : BitVec 32 := 0x2000

/-- Some of these events are in the mask. -/
def reports (mask events : BitVec 32) : Bool := decide (mask &&& events ≠ 0)

/-- What the poller remembers about a channel. -/
inductive Index where
  | KNew
  | KAdded
  | KDeleted
deriving DecidableEq

/-- The wanted and the reported events of a descriptor. -/
structure Channel where
  fd : Nat
  events : BitVec 32
  revents : BitVec 32
  index : Index
deriving DecidableEq

/-- The table of the poller and the kernel's interest set. -/
structure EPollPoller where
  channels : Nat → Bool
  interest : Nat → Option (BitVec 32)

/-- The event batch that the loop is handling. -/
structure ActiveEvents where
  eventHandling : Bool
  currentActiveChannel : Option Nat
  activeChannels : List Nat
deriving DecidableEq

/-- What `epoll_ctl` is asked for. -/
inductive Operation where
  | EPOLL_CTL_ADD
  | EPOLL_CTL_MOD
  | EPOLL_CTL_DEL
deriving DecidableEq

namespace EPollPoller

/-- Nothing is registered. -/
def initial : EPollPoller where
  channels := fun _ => false
  interest := fun _ => none

/-- The kernel refuses to add a present entry and to change or delete an absent one. -/
def update (p : EPollPoller) (operation : Operation) (c : Channel) : Option EPollPoller :=
  let set (entry : Option (BitVec 32)) : EPollPoller :=
    { p with interest := Function.update p.interest c.fd entry }
  match operation, p.interest c.fd with
  | .EPOLL_CTL_ADD, none => some (set (some c.events))
  | .EPOLL_CTL_ADD, some _ => none
  | .EPOLL_CTL_MOD, some _ => some (set (some c.events))
  | .EPOLL_CTL_MOD, none => none
  | .EPOLL_CTL_DEL, some _ => some (set none)
  | .EPOLL_CTL_DEL, none => some p

end EPollPoller

namespace Channel

/-- No event is wanted. -/
def KNoneEvent : BitVec 32 := 0
/-- The events that a reader wants. -/
def KReadEvent : BitVec 32 := POLLIN ||| POLLPRI
/-- The event that a writer wants. -/
def KWriteEvent : BitVec 32 := POLLOUT

/-- A channel that the poller has not seen. -/
def new (fd : Nat) : Channel where
  fd := fd
  events := 0
  revents := 0
  index := .KNew

/-- The owner wants no event. -/
def isNoneEvent (c : Channel) : Bool := decide (c.events = KNoneEvent)

/-- The owner wants to write. -/
def isWriting (c : Channel) : Bool := decide (c.events &&& KWriteEvent ≠ 0)

end Channel

namespace EPollPoller

open Channel

/-- Tell the kernel what the owner wants. The entry of a channel without events is deleted. -/
def updateChannel (p : EPollPoller) (c : Channel) : Option (EPollPoller × Channel) :=
  match c.index with
  | .KNew => do
      guard (p.channels c.fd = false)
      let added := { c with index := .KAdded }
      let updated ← { p with channels := Function.update p.channels c.fd true }.update
        .EPOLL_CTL_ADD added
      return (updated, added)
  | .KDeleted => do
      guard (p.channels c.fd = true)
      let added := { c with index := .KAdded }
      let updated ← p.update .EPOLL_CTL_ADD added
      return (updated, added)
  | .KAdded =>
      if c.isNoneEvent then do
        let updated ← p.update .EPOLL_CTL_DEL c
        return (updated, { c with index := .KDeleted })
      else do
        let updated ← p.update .EPOLL_CTL_MOD c
        return (updated, c)

/-- Forget the channel, and delete its entry if it has one. -/
def removeChannel (p : EPollPoller) (c : Channel) : Option (EPollPoller × Channel) := do
  let erased : EPollPoller := { p with channels := Function.update p.channels c.fd false }
  let removed ← if c.index = .KAdded then erased.update .EPOLL_CTL_DEL c else some erased
  return (removed, { c with index := .KNew })

end EPollPoller

namespace ActiveEvents

/-- A channel that is still listed in the batch being handled can only be removed while
it is the current one. -/
def Removable (loop : ActiveEvents) (fd : Nat) : Prop :=
  loop.eventHandling = true →
    loop.currentActiveChannel = some fd ∨ fd ∉ loop.activeChannels

instance (loop : ActiveEvents) (fd : Nat) : Decidable (loop.Removable fd) := instDecidableForall

def removeChannel (loop : ActiveEvents) (p : EPollPoller) (c : Channel) :
    Option (EPollPoller × Channel) := do
  guard (loop.Removable c.fd)
  p.removeChannel c

end ActiveEvents

namespace Channel

/-! ## Operations of the owner -/

/-- The owner wants to read as well. -/
def enableReading (p : EPollPoller) (c : Channel) : Option (EPollPoller × Channel) :=
  p.updateChannel { c with events := c.events ||| KReadEvent }

/-- The owner wants to write as well. -/
def enableWriting (p : EPollPoller) (c : Channel) : Option (EPollPoller × Channel) :=
  p.updateChannel { c with events := c.events ||| KWriteEvent }

/-- The owner no longer wants to write. -/
def disableWriting (p : EPollPoller) (c : Channel) : Option (EPollPoller × Channel) :=
  p.updateChannel { c with events := c.events &&& ~~~KWriteEvent }

/-- The owner wants nothing any more. -/
def disableAll (p : EPollPoller) (c : Channel) : Option (EPollPoller × Channel) :=
  p.updateChannel { c with events := KNoneEvent }

/-- The owner must have disabled all events. -/
def remove (loop : ActiveEvents) (p : EPollPoller) (c : Channel) :
    Option (EPollPoller × Channel) := do
  guard (c.isNoneEvent = true)
  loop.removeChannel p c

/-! ## Dispatch -/

/-- The callbacks of a channel. -/
inductive Callback where
  | close
  | error
  | read
  | write
deriving DecidableEq

/-- The callbacks that `handleEventWithGuard` calls for the reported events, in order. A
hang-up is a close only if there is nothing to read. -/
def callbacks (revents : BitVec 32) : List Callback :=
  (if reports revents POLLHUP && !reports revents POLLIN then [.close] else []) ++
  (if reports revents (POLLERR ||| POLLNVAL) then [.error] else []) ++
  (if reports revents (POLLIN ||| POLLPRI ||| POLLRDHUP) then [.read] else []) ++
  (if reports revents POLLOUT then [.write] else [])

end Channel

end Moban
