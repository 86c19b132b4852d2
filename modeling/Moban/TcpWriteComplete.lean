import Moban.TcpLifecycle

/-!
# Write-complete notifications

A connection notifies its user when the output is drained. The notification is queued in the
loop, and the user may replace the callback, also by an empty one, before it is called. The
two places that queue the notification differ: `sendInLoop` binds a copy of the callback, and
`handleWrite` queues a functor that looks the callback up when it is called. The second one
calls the right callback exactly as long as nobody replaces it in between.

The connection and its loop are those of the lifecycle, where a callback is only present or
absent. Here it has an identity, and each queued notification is recorded with the callback
that was installed when the output was drained.
-/

namespace Moban

open Channel Runs

/-! ## Queued functors -/

namespace TcpConnection

/-- The connection has queued more functors, notifications only if there is a callback. -/
structure Queues (c next : TcpConnection) : Prop where
  callback : next.writeCompleteCallback = c.writeCompleteCallback
  functors : ∃ more, next.functors = c.functors ++ more ∧
    (.writeComplete ∈ more → c.writeCompleteCallback = true)

section Queues

variable {c next : TcpConnection}

theorem Queues.of_eq (callback : next.writeCompleteCallback = c.writeCompleteCallback)
    (functors : next.functors = c.functors) : c.Queues next :=
  ⟨callback, [], by simp [functors], nofun⟩

theorem Queues.trans {middle : TcpConnection} (first : c.Queues middle)
    (second : middle.Queues next) : c.Queues next := by
  obtain ⟨more, grown, allowed⟩ := first.functors
  obtain ⟨later, further, permitted⟩ := second.functors
  refine ⟨second.callback.trans first.callback, more ++ later, ?_, ?_⟩
  · rw [further, grown, List.append_assoc]
  · intro notified
    rcases List.mem_append.mp notified with early | late
    · exact allowed early
    · exact first.callback ▸ permitted late

theorem queueInLoop_queues {functor : ConnectionFunctor}
    (allowed : functor = .writeComplete → c.writeCompleteCallback = true) :
    c.Queues (c.queueInLoop functor) :=
  ⟨rfl, [functor], rfl, fun notified => allowed (List.mem_singleton.mp notified).symm⟩

theorem onChannel_same {operation : EPollPoller → Channel → Option (EPollPoller × Channel)}
    (done : c.onChannel operation = some next) :
    next.writeCompleteCallback = c.writeCompleteCallback ∧ next.functors = c.functors := by
  obtain ⟨⟨poller, channel⟩, _, result⟩ := Option.bind_eq_some_iff.mp done
  cases result
  exact ⟨rfl, rfl⟩

theorem directWrite_queues (message : List UInt8) (result : WriteResult) (logged : Nat) :
    c.Queues (c.directWrite message result logged).1 := by
  unfold directWrite
  simp only
  split
  · split
    case isTrue complete => exact ⟨rfl, [.writeComplete], rfl, fun _ => complete.2⟩
    · exact .of_eq rfl rfl
  · split
    · exact .of_eq rfl rfl
    · exact .of_eq rfl rfl

theorem bufferRest_queues {rest : List UInt8} (done : c.bufferRest rest = some next) :
    c.Queues next := by
  have warned : c.Queues
      (c.queueInLoop (.highWaterMark (c.outputBuffer.length + rest.length))) :=
    queueInLoop_queues nofun
  simp only [bufferRest] at done
  split_ifs at done
  · cases done
    exact ⟨warned.callback, warned.functors⟩
  · obtain ⟨callback, functors⟩ := onChannel_same done
    exact warned.trans (.of_eq callback functors)
  · cases done
    exact .of_eq rfl rfl
  · obtain ⟨callback, functors⟩ := onChannel_same done
    exact .of_eq callback functors

theorem sendInLoop_queues {message : List UInt8} {result : WriteResult} {logged : Nat}
    (done : c.sendInLoop message result logged = some next) : c.Queues next := by
  obtain ⟨sent, passed, _, direct, buffered, rfl⟩ := sendInLoop_inv done
  have queues : c.Queues sent := by
    rcases direct with rfl | rfl
    · exact .of_eq rfl rfl
    · exact directWrite_queues message result logged
  rcases buffered with rfl | ⟨_, buffering⟩
  · exact queues.trans (.of_eq rfl rfl)
  · exact (queues.trans (bufferRest_queues buffering)).trans (.of_eq rfl rfl)

theorem shutdownInLoop_queues (c : TcpConnection) : c.Queues c.shutdownInLoop := by
  unfold shutdownInLoop
  split
  · exact .of_eq rfl rfl
  · exact .of_eq rfl rfl

theorem handleWrite_queues {result : WriteResult} (done : c.handleWrite result = some next) :
    c.Queues next := by
  have ended {noted : TcpConnection} (noting : c.Queues noted) :
      c.Queues (if noted.state = .KDisconnecting then noted.shutdownInLoop else noted) := by
    split
    · exact noting.trans (shutdownInLoop_queues noted)
    · exact noting
  unfold handleWrite at done
  simp only at done
  split at done
  · split at done
    · obtain ⟨_, _, finished⟩ := Option.bind_eq_some_iff.mp done
      split at finished
      · obtain ⟨stopped, stopping, made⟩ := Option.bind_eq_some_iff.mp finished
        obtain ⟨callback, functors⟩ := onChannel_same stopping
        have idle : c.Queues stopped := .of_eq callback functors
        have noted : c.Queues (if c.writeCompleteCallback then stopped.queueInLoop .writeComplete
            else stopped) := by
          split
          case isTrue set => exact idle.trans (queueInLoop_queues fun _ => idle.callback.trans set)
          · exact idle
        cases made
        exact ended noted
      · cases finished
        exact .of_eq rfl rfl
    · cases done
      exact .of_eq rfl rfl
  · cases done
    exact .of_eq rfl rfl

/-- A connection that is taken down queues nothing. -/
theorem disconnect_same (done : (do
      let disabled ← { c with state := .KDisconnected }.onChannel Channel.disableAll
      return disabled.connectionCallback) = some next) :
    next.writeCompleteCallback = c.writeCompleteCallback ∧ next.functors = c.functors := by
  obtain ⟨disabled, disabling, made⟩ := Option.bind_eq_some_iff.mp done
  cases made
  have same := onChannel_same disabling
  exact same

theorem beginClose_same (done : c.beginClose = some next) :
    next.writeCompleteCallback = c.writeCompleteCallback ∧ next.functors = c.functors := by
  obtain ⟨_, _, disconnecting⟩ := Option.bind_eq_some_iff.mp done
  exact disconnect_same disconnecting

theorem beginRead_queues {readv : Readv} {closing : Bool}
    (done : c.beginRead readv = some (next, closing)) : c.Queues next := by
  cases readv with
  | failed errno =>
    cases done
    exact .of_eq rfl rfl
  | delivered bytes =>
    simp only [beginRead] at done
    split at done
    · obtain ⟨closed, closes, made⟩ := Option.bind_eq_some_iff.mp done
      cases made
      obtain ⟨callback, functors⟩ := beginClose_same closes
      exact .of_eq callback functors
    · cases done
      exact .of_eq rfl rfl

theorem userCall_queues {call : UserCall} (done : c.userCall call = some next) : c.Queues next := by
  cases call with
  | send message result logged =>
    simp only [userCall, send] at done
    split at done
    · exact sendInLoop_queues done
    · cases done
      exact .of_eq rfl rfl
  | shutdown =>
    cases done
    unfold shutdown
    split
    · have shut := shutdownInLoop_queues { c with state := .KDisconnecting }
      exact ⟨shut.callback, shut.functors⟩
    · exact .of_eq rfl rfl
  | forceClose =>
    cases done
    unfold forceClose
    split
    · exact ⟨rfl, [.forceCloseInLoop], rfl, by simp⟩
    · exact .of_eq rfl rfl
  | retrieve count =>
    cases done
    exact .of_eq rfl rfl

end Queues

end TcpConnection

namespace Lifecycle

variable {s next : Lifecycle}

/-- Every step but the call of a functor only adds functors. -/
theorem step_queues {label : Label} (done : s.step label = some next)
    (other : label ≠ .runFunctor) : s.conn.Queues next.conn := by
  cases label with
  | poll active revents =>
    cases done
    exact .of_eq rfl rfl
  | turn =>
    simp only [step, turn] at done
    split at done
    · cases done
    · cases done
      exact .of_eq rfl rfl
  | callback readv result =>
    simp only [step, callback] at done
    split at done
    case h_1 callback rest outer calls =>
      cases callback with
      | close =>
        obtain ⟨closed, closes, made⟩ := Option.bind_eq_some_iff.mp done
        cases made
        obtain ⟨callback, functors⟩ := TcpConnection.beginClose_same closes
        exact .of_eq callback functors
      | error =>
        cases done
        exact .of_eq rfl rfl
      | read =>
        obtain ⟨⟨read, closing⟩, reads, made⟩ := Option.bind_eq_some_iff.mp done
        cases made
        exact TcpConnection.beginRead_queues reads
      | write =>
        obtain ⟨written, writes, made⟩ := Option.bind_eq_some_iff.mp done
        cases made
        exact TcpConnection.handleWrite_queues writes
    · cases done
  | endCallbacks =>
    simp only [step, endCallbacks] at done
    split at done
    · cases done
      exact .of_eq rfl rfl
    · cases done
  | endEvents =>
    cases done
    exact .of_eq rfl rfl
  | closeCallback =>
    simp only [step, closeCallback] at done
    split at done
    · cases done
      exact .of_eq rfl rfl
    · cases done
  | removeConnectionInLoop =>
    obtain ⟨_, _, made⟩ := Option.bind_eq_some_iff.mp done
    cases made
    exact TcpConnection.queueInLoop_queues nofun
  | runFunctor => exact absurd rfl other
  | finishDestroy =>
    simp only [step, finishDestroy] at done
    split at done
    · obtain ⟨destroyed, destroys, made⟩ := Option.bind_eq_some_iff.mp done
      cases made
      obtain ⟨callback, functors⟩ := TcpConnection.onChannel_same destroys
      exact .of_eq callback functors
    · cases done
  | user call =>
    obtain ⟨used, uses, made⟩ := Option.bind_eq_some_iff.mp done
    cases made
    exact TcpConnection.userCall_queues uses

/-- The call of a functor takes it out of the queue and adds none. -/
theorem runFunctor_functors (done : s.runFunctor = some next) :
    ∃ functor, s.conn.functors = functor :: next.conn.functors ∧
      next.conn.writeCompleteCallback = s.conn.writeCompleteCallback := by
  unfold runFunctor at done
  split at done
  · cases done
  case h_2 functor rest functors =>
    refine ⟨functor, ?_⟩
    rw [functors]
    cases functor with
    | writeComplete | highWaterMark size =>
      cases done
      exact ⟨rfl, rfl⟩
    | forceCloseInLoop =>
      obtain ⟨⟨closed, closing⟩, closes, made⟩ := Option.bind_eq_some_iff.mp done
      cases made
      unfold TcpConnection.beginForceClose at closes
      split at closes
      · obtain ⟨begun, begins, made⟩ := Option.bind_eq_some_iff.mp closes
        cases made
        obtain ⟨callback, same⟩ := TcpConnection.beginClose_same begins
        exact ⟨congrArg _ same.symm, callback⟩
      · cases closes
        exact ⟨rfl, rfl⟩
    | connnectDestroyed =>
      obtain ⟨begun, begins, made⟩ := Option.bind_eq_some_iff.mp done
      cases made
      unfold TcpConnection.beginDestroy at begins
      split at begins
      · obtain ⟨callback, same⟩ := TcpConnection.disconnect_same begins
        exact ⟨congrArg _ same.symm, callback⟩
      · cases begins
        exact ⟨rfl, rfl⟩

end Lifecycle

/-! ## Notifications -/

/-- A queued notification. -/
structure Notification (C : Type) where
  /-- The copy that `sendInLoop` has bound. The functor of `handleWrite` has none and looks the
  callback up. -/
  bound : Option C
  /-- The callback that was installed when the output was drained. -/
  installed : C
deriving DecidableEq

/-- A connection in its loop with the identity of its callback, which may be empty, and the
notifications that are queued, in order. -/
structure Notifying (C : Type) where
  life : Lifecycle
  writeCompleteCallback : Option C
  pending : List (Notification C)

namespace Notifying

variable {C : Type}

/-- A connection whose establishment was just reported. -/
def established (conn : TcpConnection) (writeCompleteCallback : Option C) : Notifying C where
  life := .established conn
  writeCompleteCallback := writeCompleteCallback
  pending := []

/-- The notifications among the queued functors. -/
def queued (life : Lifecycle) : Nat := life.conn.functors.count .writeComplete

/-- The notifications that a step has queued, with a copy of the callback or without. -/
def notes (s : Notifying C) (next : Lifecycle) (bind : Bool) : List (Notification C) :=
  match s.writeCompleteCallback with
  | none => []
  | some callback => List.replicate (queued next - queued s.life)
      { bound := if bind then some callback else none, installed := callback }

/-- The callback that a notification calls; calling an empty one throws. -/
def called (s : Notifying C) (notification : Notification C) : Option C :=
  match notification.bound with
  | some copy => some copy
  | none => s.writeCompleteCallback

inductive Label (C : Type) where
  | life (label : Lifecycle.Label)
  /-- The functor of a `send` in another thread. -/
  | sendInLoop (message : List UInt8) (result : WriteResult) (logged : Nat)
  | setWriteCompleteCallback (callback : Option C)
deriving DecidableEq

/-- The next functor is a notification. -/
def Notifies (s : Notifying C) : Prop :=
  s.life.conn.functors.head? = some .writeComplete

instance (s : Notifying C) : Decidable s.Notifies := decEq _ _

/-- The notifications after a step of the connection in its loop. Among those steps, the calls
of user code send, and the others that drain the output handle writability. -/
def pendingAfter (s : Notifying C) (label : Lifecycle.Label) (next : Lifecycle) :
    List (Notification C) :=
  match label with
  | .runFunctor => if s.Notifies then s.pending.tail else s.pending
  | .user _ => s.pending ++ s.notes next true
  | _ => s.pending ++ s.notes next false

def setWriteCompleteCallback (s : Notifying C) (callback : Option C) : Notifying C :=
  { s with
    life := { s.life with conn := { s.life.conn with writeCompleteCallback := callback.isSome } }
    writeCompleteCallback := callback }

/-- A message that another thread has sent. -/
def sendInLoop (s : Notifying C) (message : List UInt8) (result : WriteResult) (logged : Nat) :
    Option (Notifying C) := do
  let sent ← s.life.conn.sendInLoop message result logged
  let next := { s.life with conn := sent }
  return { s with life := next, pending := s.pending ++ s.notes next true }

def step (s : Notifying C) : Label C → Option (Notifying C)
  | .life label => do
      let next ← s.life.step label
      return { s with life := next, pending := s.pendingAfter label next }
  | .sendInLoop message result logged => s.sendInLoop message result logged
  | .setWriteCompleteCallback callback => some (s.setWriteCompleteCallback callback)

/-- Messages of other threads are sent when functors are called. -/
def Enabled (s : Notifying C) : Label C → Prop
  | .life label => s.life.Enabled label
  | .sendInLoop message result _ =>
      s.life.loop.eventHandling = false ∧ s.life.calls = [] ∧ result.Fits message
  | .setWriteCompleteCallback _ => True

instance (s : Notifying C) : (label : Label C) → Decidable (s.Enabled label)
  | .life label => inferInstanceAs (Decidable (s.life.Enabled label))
  | .sendInLoop .. => instDecidableAnd
  | .setWriteCompleteCallback _ => instDecidableTrue

def system : System (Notifying C) (Label C) where
  step := step
  enabled := Enabled

instance (s : Notifying C) (label : Label C) : Decidable (system.enabled s label) :=
  inferInstanceAs (Decidable (s.Enabled label))

/-- The condition on a step: the callback is not replaced while a notification is queued that
will look it up. -/
def Stable (s : Notifying C) : Label C → Prop
  | .setWriteCompleteCallback callback =>
      (∀ notification ∈ s.pending, notification.bound ≠ none) ∨
        callback = s.writeCompleteCallback
  | _ => True

/-- A notification that is called calls the callback that was installed when the output was
drained. -/
def Calls (s : Notifying C) : Label C → Prop
  | .life .runFunctor => s.Notifies → ∃ notification rest, s.pending = notification :: rest ∧
      s.called notification = some notification.installed
  | _ => True

/-- The recorded notifications are those of the queue. A copy is that of the installed
callback, and a notification without a copy finds the installed callback. -/
structure Faithful (s : Notifying C) : Prop where
  callback : s.life.conn.writeCompleteCallback = s.writeCompleteCallback.isSome
  pending : s.pending.length = queued s.life
  copied : ∀ notification ∈ s.pending, ∀ copy ∈ notification.bound, copy = notification.installed
  found : ∀ notification ∈ s.pending, notification.bound = none →
    s.writeCompleteCallback = some notification.installed

section Steps

variable {s next : Notifying C}

/-- The functors of a step that calls none. -/
theorem Faithful.queue (faithful : s.Faithful) {life : Lifecycle}
    (queues : s.life.conn.Queues life.conn) (bind : Bool) :
    Faithful { s with life := life, pending := s.pending ++ s.notes life bind } := by
  obtain ⟨more, grown, allowed⟩ := queues.functors
  have count : queued life = queued s.life + more.count .writeComplete := by simp [queued, grown]
  have noted : ∀ notification ∈ s.notes life bind,
      s.writeCompleteCallback = some notification.installed ∧
        ∀ copy ∈ notification.bound, copy = notification.installed := by
    intro notification member
    unfold notes at member
    split at member
    · cases member
    case h_2 callback set =>
      obtain ⟨_, rfl⟩ := List.mem_replicate.mp member
      refine ⟨set, ?_⟩
      intro copy bound
      cases bind <;> cases bound
      rfl
  refine ⟨queues.callback.trans faithful.callback, ?_, ?_, ?_⟩
  · rw [List.length_append, faithful.pending, count]
    unfold notes
    split
    case h_1 empty =>
      have absent : .writeComplete ∉ more := by
        intro present
        have set := faithful.callback.symm.trans (allowed present)
        simp [empty] at set
      rw [List.count_eq_zero.mpr absent]
      rfl
    · rw [List.length_replicate, count]
      omega
  · intro notification member
    rcases List.mem_append.mp member with old | new
    · exact faithful.copied notification old
    · exact (noted notification new).2
  · intro notification member unbound
    rcases List.mem_append.mp member with old | new
    · exact faithful.found notification old unbound
    · exact (noted notification new).1

/-- The call of a functor. -/
theorem Faithful.run (faithful : s.Faithful) {life : Lifecycle}
    (done : s.life.runFunctor = some life) :
    Faithful { s with
      life := life, pending := if s.Notifies then s.pending.tail else s.pending } := by
  obtain ⟨functor, functors, callback⟩ := Lifecycle.runFunctor_functors done
  have kept : ∀ notification ∈ (if s.Notifies then s.pending.tail else s.pending),
      notification ∈ s.pending := by
    intro notification member
    split at member
    · exact List.mem_of_mem_tail member
    · exact member
  refine ⟨callback.trans faithful.callback, ?_, ?_, ?_⟩
  · have pending := faithful.pending
    simp only [queued, functors, List.count_cons] at pending
    by_cases notifies : functor = .writeComplete
    · have first : s.Notifies := by simp [Notifies, functors, notifies]
      rw [if_pos first, List.length_tail, pending]
      simp [notifies, queued]
    · have other : ¬ s.Notifies := by simp [Notifies, functors, notifies]
      rw [if_neg other, pending]
      simp [notifies, queued]
  · exact fun notification member => faithful.copied notification (kept notification member)
  · exact fun notification member => faithful.found notification (kept notification member)

theorem step_faithful (s : Notifying C) (label : Label C) (next : Notifying C)
    (faithful : s.Faithful) (condition : s.Enabled label ∧ s.Stable label)
    (done : s.step label = some next) : next.Faithful := by
  cases label with
  | life label =>
    obtain ⟨life, stepped, made⟩ := Option.bind_eq_some_iff.mp done
    cases made
    cases label with
    | runFunctor => exact faithful.run stepped
    | user call => exact faithful.queue (Lifecycle.step_queues stepped nofun) true
    | poll | turn | callback | endCallbacks | endEvents | closeCallback | removeConnectionInLoop
    | finishDestroy => exact faithful.queue (Lifecycle.step_queues stepped nofun) false
  | sendInLoop message result logged =>
    obtain ⟨sent, sends, made⟩ := Option.bind_eq_some_iff.mp done
    cases made
    exact faithful.queue (TcpConnection.sendInLoop_queues sends) true
  | setWriteCompleteCallback callback =>
    cases done
    refine ⟨rfl, faithful.pending, faithful.copied, ?_⟩
    intro notification member unbound
    rcases condition.2 with bound | same
    · exact absurd unbound (bound notification member)
    · exact same.trans (faithful.found notification member unbound)

/-- A notification that is called is the first of the recorded ones. -/
theorem Faithful.calls (faithful : s.Faithful) (label : Label C) : s.Calls label := by
  unfold Calls
  split
  · intro notifies
    obtain ⟨rest, functors⟩ : ∃ rest, s.life.conn.functors = .writeComplete :: rest :=
      List.head?_eq_some_iff.mp notifies
    have pending := faithful.pending
    simp only [queued, functors, List.count_cons_self] at pending
    obtain ⟨notification, others, recorded⟩ :=
      List.exists_cons_of_length_pos (by omega : 0 < s.pending.length)
    have member : notification ∈ s.pending := recorded ▸ List.mem_cons_self
    refine ⟨notification, others, recorded, ?_⟩
    unfold called
    split
    case h_1 copy bound => exact congrArg some (faithful.copied notification member copy bound)
    case h_2 unbound => exact faithful.found notification member unbound
  · trivial

end Steps

/-- In every run in which the callback is not replaced while a notification that will look it
up is queued, every notification calls the callback that was installed when the output was
drained.

Proof: the recorded notifications are those of the queue, and each of them has a copy of the
installed callback or will find it. -/
theorem notifications_call (fd : Nat) (poller : EPollPoller) (callback : Option C)
    (highWaterMarkCallback : Bool) (highWaterMark : Nat) (start : TcpConnection)
    (up : (TcpConnection.new fd poller callback.isSome highWaterMarkCallback
      highWaterMark).connectEstablished = some start)
    (labels : List (Label C)) (valid : system.Valid (established start callback) labels)
    (stable : system.Along Stable (established start callback) labels) :
    system.Along Calls (established start callback) labels := by
  have initial : (established start callback).Faithful := by
    obtain ⟨reading, enabling, made⟩ := Option.bind_eq_some_iff.mp up
    cases made
    obtain ⟨same, functors⟩ := TcpConnection.onChannel_same enabling
    refine ⟨same, ?_, nofun, nofun⟩
    show 0 = List.count _ reading.functors
    rw [functors]
    rfl
  exact System.along_invariant Faithful step_faithful
    (fun s label faithful _ => faithful.calls label) _ labels initial
    ((System.along_and _ _ _ _).mpr ⟨valid, stable⟩)

instance [DecidableEq C] (s : Notifying C) : (label : Label C) → Decidable (s.Stable label)
  | .setWriteCompleteCallback _ => instDecidableOr
  | .life _ | .sendInLoop .. => instDecidableTrue

/-- The rest of a message is written when the descriptor is writable, and this happens next. -/
def drained (rest : List (Label Nat)) : List (Label Nat) :=
  .life (.user (.send [1, 2] (.wrote 1) 0)) :: .life (.poll [7] POLLOUT) :: .life .turn ::
    .life (.callback (.delivered []) (.wrote 1)) :: .life .endCallbacks :: .life .endEvents :: rest

/-- The notification is called, and after it the callback is replaced. A message that is
written at once is then notified with the copy, although the callback is removed before. -/
def replacedInTime : List (Label Nat) :=
  drained [.life .runFunctor, .setWriteCompleteCallback (some 2),
    .life (.user (.send [3] (.wrote 1) 0)), .setWriteCompleteCallback none, .life .runFunctor]

/-- Each notification calls the callback of its time. -/
theorem notifications_call_replaced : system.Along Calls
    (established (TcpConnection.established 7 EPollPoller.initial true false 64) (some 1))
    replacedInTime :=
  notifications_call 7 EPollPoller.initial (some 1) false 64 _
    (TcpConnection.connectEstablished_exact rfl rfl) replacedInTime (by decide) (by decide)

/-- The callback is replaced before the notification is called: by an empty one, so that the
call throws, and by another one, which is called in its place. -/
theorem replaced_before_call : ∃ empty other,
      system.Valid
        (established (TcpConnection.established 7 EPollPoller.initial true false 64) (some 1))
        (drained [.setWriteCompleteCallback none, .life .runFunctor]) ∧
      system.run
        (established (TcpConnection.established 7 EPollPoller.initial true false 64) (some 1))
        (drained [.setWriteCompleteCallback none]) = some empty ∧
      empty.Notifies ∧ empty.pending = [{ bound := none, installed := 1 }] ∧
      empty.called { bound := none, installed := 1 } = none ∧
      system.Valid
        (established (TcpConnection.established 7 EPollPoller.initial true false 64) (some 1))
        (drained [.setWriteCompleteCallback (some 2), .life .runFunctor]) ∧
      system.run
        (established (TcpConnection.established 7 EPollPoller.initial true false 64) (some 1))
        (drained [.setWriteCompleteCallback (some 2)]) = some other ∧
      other.Notifies ∧ other.pending = [{ bound := none, installed := 1 }] ∧
      other.called { bound := none, installed := 1 } = some 2 :=
  ⟨_, _, by decide, rfl, by decide, rfl, rfl, by decide, rfl, by decide, rfl, rfl⟩

end Notifying

end Moban
