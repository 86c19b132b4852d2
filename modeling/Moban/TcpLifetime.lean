import Moban.TcpLifecycle

/-!
# What a connection reports over its life

A connection is open until it is closed once, by the end of the stream, a hang-up or the
queued forced close. The close reports that it is down, and what is left of the turn of
its channel is still called. A hang-up without readable data but with urgent data closes
the connection and then reads from it: unless the read fails, the user gets a message of a
connection that is down, or the second close fails its assertion. No other mask, read
result or order of calls does harm.
-/

namespace Moban

open Channel Runs

namespace TcpConnection

/-- An operation that leaves an open connection open and a closed one closed. -/
structure Continues (c next : TcpConnection) : Prop where
  spares : c.Spares next
  registered : (c.Ready ∧ next.Ready) ∨ (c.Closed ∧ next.Closed)

/-- After the user was told that the connection is down, no message is reported. -/
def Orderly (log : List ConnectionEvent) : Prop :=
  ∀ before after, log = before ++ .connection false :: after → .message ∉ after

section Reports

variable {log : List ConnectionEvent} {event : ConnectionEvent}

theorem orderly_snoc : Orderly (log ++ [event]) ↔
      Orderly log ∧ (event = .message → .connection false ∉ log) := by
  constructor
  · intro orderly
    constructor
    · intro before after split later
      refine orderly before (after ++ [event]) ?_ (List.mem_append_left _ later)
      rw [split, List.append_assoc, List.cons_append]
    · rintro rfl down
      obtain ⟨before, after, split⟩ := List.append_of_mem down
      refine orderly before (after ++ [.message]) ?_ (List.mem_append_right _ List.mem_cons_self)
      rw [split, List.append_assoc, List.cons_append]
  · rintro ⟨orderly, up⟩ before after split later
    rcases List.eq_nil_or_concat after with rfl | ⟨earlier, last, rfl⟩
    · cases later
    · -- The last report is the appended one.
      have parts : log ++ [event] = (before ++ .connection false :: earlier) ++ [last] := by
        rw [split, List.concat_eq_append, List.append_assoc, List.cons_append]
      obtain ⟨same, final⟩ := List.append_inj' parts rfl
      cases final
      rw [List.concat_eq_append, List.mem_append, List.mem_singleton] at later
      rcases later with early | rfl
      · exact orderly before earlier same early
      · exact up rfl (same ▸ List.mem_append_right _ List.mem_cons_self)

theorem orderly_nil : Orderly [] := by simp [Orderly]

/-- Reports other than messages do not matter. -/
theorem orderly_append {reports : List ConnectionEvent} (quiet : .message ∉ reports) :
    Orderly (log ++ reports) ↔ Orderly log := by
  induction reports generalizing log with
  | nil => rw [List.append_nil]
  | cons report rest ih =>
    rw [List.mem_cons, not_or] at quiet
    rw [List.append_cons, ih quiet.2, orderly_snoc]
    exact and_iff_left fun message => absurd message.symm quiet.1

end Reports

section Operations

variable {c next : TcpConnection}

theorem Spares.count (spares : c.Spares next) {event : ConnectionEvent}
    (other : event ≠ .shutdownWrite) : next.log.count event = c.log.count event := by
  obtain ⟨count, logged⟩ := spares.log
  rw [logged, List.count_append, List.count_replicate]
  simp [other.symm]

theorem Spares.orderly (spares : c.Spares next) : Orderly next.log ↔ Orderly c.log := by
  obtain ⟨count, logged⟩ := spares.log
  rw [logged]
  exact orderly_append (fun message => nomatch List.eq_of_mem_replicate message)

theorem Moved.continues (ready : c.Ready) (moved : c.Moved next) : c.Continues next :=
  ⟨moved.spares, .inl ⟨ready, moved.ready⟩⟩

/-- An operation that has nothing to do with the state, the registration and the output. -/
theorem Continues.of_eq (registered : c.Ready ∨ c.Closed) (spares : c.Spares next)
    (state : next.state = c.state) (channel : next.channel = c.channel)
    (poller : next.poller = c.poller) (output : next.outputBuffer = c.outputBuffer) :
    c.Continues next := by
  refine ⟨spares, registered.imp (fun ready => ⟨ready, ?_⟩)
    (fun closed => ⟨closed, closed.congr state channel poller⟩)⟩
  apply ready.congr _ channel poller output
  rw [Open, state]
  exact ready.opened

theorem Continues.refl (registered : c.Ready ∨ c.Closed) : c.Continues c :=
  .of_eq registered (.of_eq rfl rfl rfl) rfl rfl rfl rfl

theorem userCall_continues (registered : c.Ready ∨ c.Closed) {call : UserCall}
    (fits : call.Fits) : ∃ next, c.userCall call = some next ∧ c.Continues next := by
  cases call with
  | send message result logged =>
    rcases registered with ready | closed
    · rw [userCall, send]
      split
      · obtain ⟨next, sent, took⟩ := sendInLoop_took ready fits logged
        exact ⟨next, sent, took.spares, .inl ⟨ready, took.ready⟩⟩
      · exact ⟨c, rfl, .refl (.inl ready)⟩
    · exact ⟨c, send_closed closed logged, .refl (.inr closed)⟩
  | shutdown =>
    refine ⟨c.shutdown, rfl, ?_⟩
    rcases registered with ready | closed
    · exact (shutdown_moved ready).continues ready
    · rw [shutdown_closed closed]
      exact .refl (.inr closed)
  | forceClose =>
    refine ⟨c.forceClose, rfl, ?_⟩
    rcases registered with ready | closed
    · exact (forceClose_moved ready).continues ready
    · rw [forceClose_closed closed]
      exact .refl (.inr closed)
  | retrieve count => exact ⟨_, rfl, .of_eq registered (.of_eq rfl rfl rfl) rfl rfl rfl rfl⟩

theorem handleWrite_continues (registered : c.Ready ∨ c.Closed) {result : WriteResult}
    (fits : result.Fits c.outputBuffer) :
    ∃ next, c.handleWrite result = some next ∧ c.Continues next := by
  rcases registered with ready | closed
  · obtain ⟨next, handled, moved⟩ := handleWrite_moved ready fits
    exact ⟨next, handled, moved.continues ready⟩
  · exact ⟨c, handleWrite_closed closed, .refl (.inr closed)⟩

end Operations

end TcpConnection

namespace Lifecycle

open TcpConnection

/-- A read of a connection that was just closed fails. -/
def Sound (s : Lifecycle) : Label → Prop
  | .callback readv _ =>
      s.nextCallback = some .read → s.conn.state = .KDisconnected → readv.count < 0
  | _ => True

instance (s : Lifecycle) : (label : Label) → Decidable (s.Sound label)
  | .callback .. => instDecidableForall
  | .poll .. | .turn | .endCallbacks | .endEvents | .closeCallback | .removeConnectionInLoop
  | .runFunctor | .finishDestroy | .user _ => instDecidableTrue

/-- What every step keeps, sound or not. -/
structure Living (s : Lifecycle) : Prop where
  ups : s.conn.log.count (.connection true) = 1
  /-- The connection is open, or it was reported once that it is down. -/
  downs : (s.conn.Ready ∧ s.conn.log.count (.connection false) = 0) ∨
    (s.conn.Closed ∧ s.conn.log.count (.connection false) = 1)
  /-- A close that was begun is ended once. -/
  closes : s.conn.log.count .close + s.calls.count .closing =
    s.conn.log.count (.connection false)
  /-- The server is asked once for every close, and the connection leaves its map then. -/
  removals : s.removing + (if s.connections then 0 else 1) = s.conn.log.count .close
  destroyable : .connnectDestroyed ∈ s.conn.functors → s.conn.Closed
  batch : s.loop.eventHandling = false → s.waiting = []
  once : s.waiting.count s.fd ≤ 1
  /-- Nothing happens to the connection before the turn of its channel. -/
  listed : s.fd ∈ s.waiting → s.conn.Ready ∧ s.calls = []
  /-- A turn calls the close callback first or not at all. -/
  frames : ∀ rest, .callbacks rest ∈ s.calls →
    .close ∉ rest.tail ∧ (.close ∈ rest → s.conn.Ready ∧ s.calls = [.callbacks rest])
  destroying : .destroying ∈ s.calls → s.loop.eventHandling = false ∧ s.conn.Closed

section Invariant

variable {s : Lifecycle} {rest : List Callback}

theorem Living.registered (living : s.Living) : s.conn.Ready ∨ s.conn.Closed :=
  living.downs.imp And.left And.left

theorem Living.up (living : s.Living) (ready : s.conn.Ready) :
    s.conn.log.count (.connection false) = 0 := by
  rcases living.downs with ⟨_, notDown⟩ | ⟨closed, _⟩
  · exact notDown
  · exact absurd closed.down ready.up

theorem Living.down (living : s.Living) (closed : s.conn.Closed) :
    s.conn.log.count (.connection false) = 1 := by
  rcases living.downs with ⟨ready, _⟩ | ⟨_, one⟩
  · exact absurd closed.down ready.up
  · exact one

/-- While the same calls are in progress, an open connection stays open and a closed one
closed, and neither is reported. -/
theorem Living.keep (living : s.Living) {next : TcpConnection}
    (registered : (s.conn.Ready ∧ next.Ready) ∨ (s.conn.Closed ∧ next.Closed))
    (sameFd : next.channel.fd = s.conn.channel.fd)
    (connections : ∀ up, next.log.count (.connection up) = s.conn.log.count (.connection up))
    (closes : next.log.count .close = s.conn.log.count .close)
    (functors : .connnectDestroyed ∈ next.functors → .connnectDestroyed ∈ s.conn.functors) :
    Living { s with conn := next } := by
  have ready (before : s.conn.Ready) : next.Ready := by
    rcases registered with ⟨_, after⟩ | ⟨closed, _⟩
    · exact after
    · exact absurd closed.down before.up
  have closed (before : s.conn.Closed) : next.Closed := by
    rcases registered with ⟨ready, _⟩ | ⟨_, after⟩
    · exact absurd before.down ready.up
    · exact after
  constructor
  all_goals simp only [fd, sameFd, connections, closes]
  · exact living.ups
  · exact living.downs.imp (And.imp_left ready) (And.imp_left closed)
  · exact living.closes
  · exact living.removals
  · exact fun queued => closed (living.destroyable (functors queued))
  · exact living.batch
  · exact living.once
  · exact fun member => (living.listed member).imp_left ready
  · intro rest member
    exact (living.frames rest member).imp_right fun close calls => (close calls).imp_left ready
  · exact fun member => (living.destroying member).imp_right closed

/-- An operation that neither closes nor destroys. -/
theorem Living.continue (living : s.Living) {next : TcpConnection}
    (continues : s.conn.Continues next) : Living { s with conn := next } :=
  living.keep continues.registered continues.spares.fd
    (fun _ => continues.spares.count nofun) (continues.spares.count nofun)
    continues.spares.functors

/-- A message is reported to the user. -/
theorem Living.message (living : s.Living) (bytes : List UInt8) :
    Living { s with conn := { s.conn with
      inputBuffer := s.conn.inputBuffer ++ bytes, log := s.conn.log ++ [.message] } } := by
  refine living.keep ?_ rfl ?_ ?_ id
  · exact living.registered.imp (fun ready => ⟨ready, ready.congr ready.opened rfl rfl rfl⟩)
      (fun closed => ⟨closed, closed.congr rfl rfl rfl⟩)
  · simp
  · simp

/-- While a call is in progress, the channel does not wait for its turn. -/
theorem Living.busy (living : s.Living) (calls : s.calls ≠ []) : s.fd ∉ s.waiting :=
  fun member => calls (living.listed member).2

/-- Only the innermost call can have a close callback left. -/
theorem Living.outer (living : s.Living) {frame : Frame} {outer : List Frame}
    (calls : s.calls = frame :: outer) (member : .callbacks rest ∈ outer) : .close ∉ rest := by
  intro close
  have inCalls : .callbacks rest ∈ s.calls := calls ▸ List.mem_cons_of_mem _ member
  have only := ((living.frames rest inCalls).2 close).2
  rw [calls] at only
  injection only with _ noMore
  rw [noMore] at member
  cases member

/-- Calls return, and no close callback is left. -/
theorem Living.recall (living : s.Living) {calls : List Frame} (busy : s.fd ∉ s.waiting)
    (closing : calls.count .closing = s.calls.count .closing)
    (begun : ∀ rest, .callbacks rest ∈ calls → .close ∉ rest)
    (destroying : .destroying ∈ calls → .destroying ∈ s.calls) :
    Living { s with calls := calls } where
  ups := living.ups
  downs := living.downs
  closes := by
    rw [closing]
    exact living.closes
  removals := living.removals
  destroyable := living.destroyable
  batch := living.batch
  once := living.once
  listed := fun member => absurd member busy
  frames := fun rest member =>
    ⟨fun close => begun rest member (List.mem_of_mem_tail close),
      fun close => absurd close (begun rest member)⟩
  destroying := fun member => living.destroying (destroying member)

/-- An open connection begins to close when no close callback is left. -/
theorem Living.close (living : s.Living) (ready : s.conn.Ready) (busy : s.fd ∉ s.waiting)
    (begun : ∀ rest, .callbacks rest ∈ s.calls → .close ∉ rest) :
    Living { s with conn := s.conn.down, calls := .closing :: s.calls } := by
  have up := living.up ready
  have closes := living.closes
  constructor
  · simp only [TcpConnection.down, List.count_append, living.ups]
    rfl
  · refine .inr ⟨down_closed _, ?_⟩
    simp only [TcpConnection.down, List.count_append, up]
    rfl
  · have unclosed : [ConnectionEvent.connection false].count .close = 0 := rfl
    have one : [ConnectionEvent.connection false].count (.connection false) = 1 := rfl
    rw [TcpConnection.down, List.count_append, List.count_append, unclosed, one,
      List.count_cons_self]
    omega
  · simp only [TcpConnection.down, List.count_append]
    exact living.removals
  · exact fun _ => down_closed _
  · exact living.batch
  · exact living.once
  · exact fun member => absurd member busy
  · intro rest member
    have inner : .callbacks rest ∈ s.calls := by simpa using member
    exact ⟨fun close => begun rest inner (List.mem_of_mem_tail close),
      fun close => absurd close (begun rest inner)⟩
  · intro member
    have inner : .destroying ∈ s.calls := by simpa using member
    exact absurd (living.destroying inner).2.down ready.up

/-- A queued destruction begins. -/
theorem Living.destroy (living : s.Living) (closed : s.conn.Closed) (calls : s.calls = [])
    (idle : s.loop.eventHandling = false) : Living { s with calls := .destroying :: s.calls } where
  ups := living.ups
  downs := living.downs
  closes := by
    have other : Frame.destroying ≠ .closing := nofun
    rw [List.count_cons_of_ne other]
    exact living.closes
  removals := living.removals
  destroyable := living.destroyable
  batch := living.batch
  once := living.once
  listed := fun member => by
    rw [fd, living.batch idle] at member
    cases member
  frames := fun rest member => by
    simp [calls] at member
  destroying := fun _ => ⟨idle, closed⟩

/-- The close callback is called first. -/
theorem callbacks_close (revents : BitVec 32) : .close ∉ (Channel.callbacks revents).tail := by
  rw [Channel.callbacks]
  split_ifs
  all_goals decide

/-- A channel that is reported was watched. -/
theorem Deliverable.ready {c : TcpConnection} {revents : BitVec 32}
    (registered : c.Ready ∨ c.Closed) (delivered : c.Deliverable revents) : c.Ready := by
  apply registered.resolve_right
  intro closed
  rw [TcpConnection.Deliverable, closed.unwatched.interest] at delivered
  exact delivered

theorem poll_living (living : s.Living) {active : List Nat} {revents : BitVec 32}
    (enabled : s.Enabled (.poll active revents)) : (s.poll active revents).Living := by
  obtain ⟨idle, calls, once, delivered⟩ := enabled
  have reported (revents : BitVec 32) : s.conn.Continues
      { s.conn with channel := { s.conn.channel with revents := revents } } := by
    refine ⟨.of_eq rfl rfl rfl, living.registered.imp (fun ready => ⟨ready, ?_⟩)
      (fun closed => ⟨closed, ?_⟩)⟩
    · obtain ⟨opened, ⟨index, table, interest, events⟩, writing⟩ := ready
      exact ⟨opened, ⟨index, table, interest, events⟩, writing⟩
    · obtain ⟨down, index, interest, events⟩ := closed
      exact ⟨down, index, interest, events⟩
  obtain ⟨ups, downs, closes, removals, destroyable, _, _, _, frames, destroying⟩ :=
    living.continue (reported (if s.fd ∈ active then revents else s.conn.channel.revents))
  refine ⟨ups, downs, closes, removals, destroyable, nofun, once, fun member => ⟨?_, calls⟩,
    frames, fun member => ?_⟩
  · have ready := Deliverable.ready living.registered (delivered member)
    exact (downs.resolve_right (fun closed => closed.1.not_open ready.opened)).1
  · rw [poll, calls] at member
    cases member

theorem turn_living (living : s.Living) (enabled : s.Enabled .turn) :
    ∃ next, s.turn = some next ∧ next.Living ∧ next.conn = s.conn := by
  obtain ⟨calls, more⟩ := enabled
  obtain ⟨current, rest, waiting⟩ := List.exists_cons_of_ne_nil more
  have once := living.once
  rw [waiting] at once
  rw [turn, waiting]
  refine ⟨_, rfl, ?_, rfl⟩
  have batched : s.loop.eventHandling ≠ false := fun idle => more (living.batch idle)
  by_cases own : current = s.fd
  · -- The turn of the channel itself, which is not listed again.
    rw [if_pos own]
    have noneLeft : rest.count s.fd = 0 := by
      rw [own, List.count_cons_self] at once
      omega
    have absent : s.fd ∉ rest := List.count_eq_zero.mp noneLeft
    have ready := (living.listed (by simp [waiting, own])).1
    have closes := living.closes
    rw [calls] at closes
    refine ⟨living.ups, living.downs, closes, living.removals, living.destroyable,
      fun idle => absurd idle batched, ?_, fun member => absurd member absent, ?_, ?_⟩
    · exact Nat.le_trans (Nat.le_of_eq noneLeft) (Nat.zero_le 1)
    · intro left member
      rw [List.mem_singleton] at member
      cases member
      exact ⟨callbacks_close _, fun _ => ⟨ready, rfl⟩⟩
    · intro member
      simp at member
  · rw [if_neg own]
    have closes := living.closes
    rw [calls] at closes
    refine ⟨living.ups, living.downs, closes, living.removals, living.destroyable,
      fun idle => absurd idle batched, ?_, fun member => ⟨?_, rfl⟩, nofun, nofun⟩
    · rw [List.count_cons_of_ne own] at once
      exact once
    · exact (living.listed (waiting ▸ List.mem_cons_of_mem _ member)).1

/-- What a step does to the property and to the invariant. -/
def Decided (s : Lifecycle) (label : Label) : Prop :=
  (s.step label = none ∧ ¬ s.Sound label) ∨
  ∃ next, s.step label = some next ∧ next.Living ∧
    (Orderly next.conn.log ↔ Orderly s.conn.log ∧ s.Sound label)

/-- A sound step that reports no message. -/
theorem decided_quiet {label : Label} {next : Lifecycle} (sound : s.Sound label)
    (stepped : s.step label = some next) (living : next.Living)
    (orderly : Orderly next.conn.log ↔ Orderly s.conn.log) : s.Decided label :=
  .inr ⟨next, stepped, living, by rw [orderly, and_iff_left sound]⟩

theorem down_orderly (c : TcpConnection) : Orderly c.down.log ↔ Orderly c.log :=
  orderly_append (by decide)

/-- The callbacks that are left when one is called. -/
theorem Living.called (living : s.Living) {next : Callback}
    {outer : List Frame} (calls : s.calls = .callbacks (next :: rest) :: outer) :
    Living { s with calls := .callbacks rest :: outer } ∧
      ∀ left, .callbacks left ∈ .callbacks rest :: outer → .close ∉ left := by
  have begun : ∀ left, .callbacks left ∈ .callbacks rest :: outer → .close ∉ left := by
    intro left member
    rcases List.mem_cons.mp member with same | later
    · cases same
      exact (living.frames (next :: rest) (calls ▸ List.mem_cons_self)).1
    · exact living.outer calls later
  refine ⟨living.recall (living.busy (by simp [calls])) ?_ begun ?_, begun⟩
  · have left : Frame.callbacks rest ≠ .closing := nofun
    have called : Frame.callbacks (next :: rest) ≠ .closing := nofun
    rw [calls, List.count_cons_of_ne left, List.count_cons_of_ne called]
  · intro member
    have inner : .destroying ∈ outer := by simpa using member
    exact calls ▸ List.mem_cons_of_mem _ inner

/-- An open connection is closed in the middle of its turn. -/
theorem Living.closeCalled (living : s.Living) (ready : s.conn.Ready) {next : Callback}
    {outer : List Frame} (calls : s.calls = .callbacks (next :: rest) :: outer) :
    (s.returned (.callbacks rest :: outer) (s.conn.down, true)).Living := by
  obtain ⟨called, begun⟩ := living.called calls
  exact called.close ready (living.busy (by simp [calls])) begun

/-- A callback that leaves the connection open or closed as it was. -/
theorem Living.continueCalled (living : s.Living) {conn : TcpConnection}
    (continues : s.conn.Continues conn) {next : Callback}
    {outer : List Frame} (calls : s.calls = .callbacks (next :: rest) :: outer) :
    (s.returned (.callbacks rest :: outer) (conn, false)).Living :=
  (living.called calls).1.continue continues

theorem beginClose_closed {c : TcpConnection} (closed : c.Closed) : c.beginClose = none := by
  simp [beginClose, closed.not_open, failure]

/-- A read closes the connection, reports a message or fails; only the last is sound for a
connection that is closed already. -/
theorem read_decided (living : s.Living) {outer : List Frame}
    (calls : s.calls = .callbacks (.read :: rest) :: outer) (readv : Readv)
    (result : WriteResult) : s.Decided (.callback readv result) := by
  have called : s.nextCallback = some .read := by rw [nextCallback, calls]
  have soundOpen (ready : s.conn.Ready) : s.Sound (.callback readv result) :=
    fun _ down => absurd down ready.up
  cases readv with
  | failed errno =>
    have unchanged : s.conn.Continues { s.conn with errno := errno } :=
      .of_eq living.registered (.of_eq rfl rfl rfl) rfl rfl rfl rfl
    refine decided_quiet (fun _ _ => ?_) ?_ (living.continueCalled unchanged calls) Iff.rfl
    · exact Int.negSucc_lt_zero 0
    · simp [step, callback, calls, beginRead]
  | delivered bytes =>
    have unsound (closed : s.conn.Closed) : ¬ s.Sound (.callback (.delivered bytes) result) :=
      fun sound => absurd (sound called closed.down) (Int.not_lt.mpr (Int.natCast_nonneg _))
    by_cases finished : bytes.length = 0
    · rcases living.registered with ready | closed
      · refine decided_quiet (soundOpen ready) ?_ (living.closeCalled ready calls) (down_orderly _)
        simp [step, callback, calls, beginRead, finished, beginClose_exact ready]
      · refine .inl ⟨?_, unsound closed⟩
        simp [step, callback, calls, beginRead, finished, beginClose_closed closed]
    · refine .inr ⟨s.returned (.callbacks rest :: outer) ({ s.conn with
        inputBuffer := s.conn.inputBuffer ++ bytes, log := s.conn.log ++ [.message] }, false),
        ?_, (living.called calls).1.message bytes, ?_⟩
      · simp [step, callback, calls, beginRead, finished]
      · rw [returned, orderly_snoc, ← List.count_eq_zero]
        rcases living.registered with ready | closed
        · simp [living.up ready, soundOpen ready]
        · simp [living.down closed, unsound closed]

theorem callback_decided (living : s.Living) {readv : Readv} {result : WriteResult}
    (enabled : s.Enabled (.callback readv result)) : s.Decided (.callback readv result) := by
  obtain ⟨pending, fits⟩ := enabled
  obtain ⟨next, rest, outer, calls⟩ :
      ∃ next rest outer, s.calls = .callbacks (next :: rest) :: outer := by
    rw [nextCallback] at pending
    split at pending
    case h_1 next rest outer calls => exact ⟨next, rest, outer, calls⟩
    case h_2 => exact absurd rfl pending
  have called : s.nextCallback = some next := by rw [nextCallback, calls]
  cases next with
  | close =>
    have ready := ((living.frames _ (calls ▸ List.mem_cons_self)).2 List.mem_cons_self).1
    refine decided_quiet (fun read => ?_) ?_ (living.closeCalled ready calls) (down_orderly _)
    · cases called.symm.trans read
    · simp [step, callback, calls, beginClose_exact ready]
  | error =>
    have unchanged : s.conn.Continues s.conn := .refl living.registered
    refine decided_quiet (fun read => ?_) ?_ (living.continueCalled unchanged calls) Iff.rfl
    · cases called.symm.trans read
    · simp [step, callback, calls]
  | write =>
    obtain ⟨conn, handled, continues⟩ := handleWrite_continues living.registered fits
    refine decided_quiet (fun read => ?_) ?_ (living.continueCalled continues calls)
      continues.spares.orderly
    · cases called.symm.trans read
    · simp [step, callback, calls, handled]
  | read => exact read_decided living calls readv result

theorem endCallbacks_decided (living : s.Living) (enabled : s.Enabled .endCallbacks) :
    s.Decided .endCallbacks := by
  obtain ⟨outer, calls⟩ := List.head?_eq_some_iff.mp enabled
  refine decided_quiet trivial ?_ (living.recall (living.busy (by simp [calls])) ?_
    (fun rest => living.outer calls) (fun member => ?_)) Iff.rfl
  · simp [step, endCallbacks, calls]
  · have other : Frame.callbacks [] ≠ .closing := nofun
    rw [calls, List.count_cons_of_ne other]
  · exact calls ▸ List.mem_cons_of_mem _ member

theorem endEvents_decided (living : s.Living) (enabled : s.Enabled .endEvents) :
    s.Decided .endEvents := by
  obtain ⟨calls, waiting⟩ := enabled
  refine decided_quiet trivial rfl ?_ Iff.rfl
  exact ⟨living.ups, living.downs, living.closes, living.removals, living.destroyable,
    fun _ => waiting, living.once, living.listed, living.frames,
    fun member => (living.destroying member).imp_left fun _ => rfl⟩

/-- A close ends and the server is asked to remove the connection. -/
theorem Living.ended (living : s.Living) {outer : List Frame}
    (calls : s.calls = .closing :: outer) :
    Living { s with conn := s.conn.endClose, calls := outer, removing := s.removing + 1 } := by
  have busy := living.busy (by simp [calls])
  have connections (up : Bool) : s.conn.endClose.log.count (.connection up) =
      s.conn.log.count (.connection up) := by
    simp [endClose]
  have close : s.conn.endClose.log.count .close = s.conn.log.count .close + 1 := by simp [endClose]
  have begun : s.conn.log.count .close + (outer.count .closing + 1) =
      s.conn.log.count (.connection false) := by
    rw [← List.count_cons_self, ← calls]
    exact living.closes
  have closed : s.conn.Closed := by
    rcases living.downs with ⟨_, notDown⟩ | ⟨closed, _⟩
    · omega
    · exact closed
  have stays : s.conn.endClose.Closed := closed.congr rfl rfl rfl
  constructor
  all_goals simp only [connections, close]
  · exact living.ups
  · exact .inr ⟨stays, living.down closed⟩
  · omega
  · have removals := living.removals
    omega
  · exact fun _ => stays
  · exact living.batch
  · exact living.once
  · exact fun member => absurd member busy
  · intro rest member
    exact ⟨fun last => living.outer calls member (List.mem_of_mem_tail last),
      fun first => absurd first (living.outer calls member)⟩
  · intro member
    exact ⟨(living.destroying (calls ▸ List.mem_cons_of_mem _ member)).1, stays⟩

theorem closeCallback_decided (living : s.Living) (enabled : s.Enabled .closeCallback) :
    s.Decided .closeCallback := by
  obtain ⟨outer, calls⟩ := List.head?_eq_some_iff.mp enabled
  refine decided_quiet trivial ?_ (living.ended calls) (orderly_append (by decide))
  simp [step, closeCallback, calls]

/-- The connection is in the map of its server when the server is asked to remove it.

Proof: it was closed once, so the server was asked once. -/
theorem removeConnectionInLoop_decided (living : s.Living)
    (enabled : s.Enabled .removeConnectionInLoop) : s.Decided .removeConnectionInLoop := by
  have asked : 0 < s.removing := enabled
  have removals := living.removals
  have closes := living.closes
  have closed : s.conn.Closed := by
    rcases living.downs with ⟨_, notDown⟩ | ⟨closed, _⟩
    · omega
    · exact closed
  have once := living.down closed
  have present : s.connections = true := by
    by_contra absent
    rw [if_neg absent] at removals
    omega
  have stays : (s.conn.queueInLoop .connnectDestroyed).Closed := closed.congr rfl rfl rfl
  have up (ready : s.conn.Ready) : False := ready.up closed.down
  have removed : Living { s with
      conn := s.conn.queueInLoop .connnectDestroyed
      connections := false
      removing := s.removing - 1 } := by
    refine ⟨living.ups, .inr ⟨stays, once⟩, closes, ?_, fun _ => stays, living.batch, living.once,
      fun member => (up (living.listed member).1).elim, fun rest member => ?_,
      fun member => (living.destroying member).imp_right fun _ => stays⟩
    · rw [if_pos present] at removals
      rw [if_neg Bool.false_ne_true, Nat.sub_add_cancel asked]
      exact removals
    · exact (living.frames rest member).imp_right fun close member => (up (close member).1).elim
  refine decided_quiet trivial ?_ removed Iff.rfl
  simp [step, removeConnectionInLoop, present]

/-- A functor that was called has left the queue. -/
theorem popped_continues (living : s.Living) {functor : ConnectionFunctor}
    {rest : List ConnectionFunctor} (functors : s.conn.functors = functor :: rest) :
    s.conn.Continues { s.conn with functors := rest } := by
  refine .of_eq living.registered ⟨rfl, ⟨0, ?_⟩, fun queued => ?_⟩ rfl rfl rfl rfl
  · rw [List.replicate_zero, List.append_nil]
  · exact functors ▸ List.mem_cons_of_mem _ queued

theorem runFunctor_decided (living : s.Living) (enabled : s.Enabled .runFunctor) :
    s.Decided .runFunctor := by
  obtain ⟨idle, calls, queued⟩ := enabled
  obtain ⟨functor, rest, functors⟩ := List.exists_cons_of_ne_nil queued
  have popped := living.continue (popped_continues living functors)
  cases functor with
  | writeComplete =>
    refine decided_quiet trivial ?_ popped Iff.rfl
    simp [step, runFunctor, functors, returned]
  | highWaterMark size =>
    refine decided_quiet trivial ?_ popped Iff.rfl
    simp [step, runFunctor, functors, returned]
  | forceCloseInLoop =>
    rcases popped.registered with ready | closed
    · have quiet : ∀ left, .callbacks left ∈ s.calls → .close ∉ left := by
        simp [calls]
      have absent : s.fd ∉ s.waiting := by simp [living.batch idle]
      refine decided_quiet trivial ?_ (popped.close ready absent quiet) (down_orderly _)
      have opened : Open { s.conn with functors := rest } := ready.opened
      simp [step, runFunctor, functors, returned, beginForceClose, opened, beginClose_exact ready]
    · refine decided_quiet trivial ?_ popped Iff.rfl
      have shut : ¬ Open { s.conn with functors := rest } := closed.not_open
      simp [step, runFunctor, functors, returned, beginForceClose, shut]
  | connnectDestroyed =>
    have closed : s.conn.Closed := living.destroyable (functors ▸ List.mem_cons_self)
    have stays : Closed { s.conn with functors := rest } := closed.congr rfl rfl rfl
    refine decided_quiet trivial ?_ (popped.destroy stays calls idle) Iff.rfl
    simp [step, runFunctor, functors, beginDestroy, closed.down]

theorem finishDestroy_decided (living : s.Living) (enabled : s.Enabled .finishDestroy) :
    s.Decided .finishDestroy := by
  obtain ⟨outer, calls⟩ := List.head?_eq_some_iff.mp enabled
  obtain ⟨idle, closed⟩ := living.destroying (calls ▸ List.mem_cons_self)
  have removable : s.loop.Removable s.conn.channel.fd := by
    intro handling
    cases idle.symm.trans handling
  have continues : s.conn.Continues s.conn.unregister :=
    ⟨.of_eq rfl rfl rfl, .inr ⟨closed, unregister_closed closed⟩⟩
  have returned : Living { s with calls := outer } := by
    apply living.recall (living.busy (by simp [calls]))
    · have other : Frame.destroying ≠ .closing := nofun
      rw [calls, List.count_cons_of_ne other]
    · exact fun rest => living.outer calls
    · exact fun member => calls ▸ List.mem_cons_of_mem _ member
  refine decided_quiet trivial ?_ (returned.continue continues) Iff.rfl
  simp [step, finishDestroy, calls, endDestroy, remove_exact closed.unwatched removable]

theorem step_decided (s : Lifecycle) (label : Label) (living : s.Living)
    (enabled : s.Enabled label) : s.Decided label := by
  cases label with
  | poll active revents => exact decided_quiet trivial rfl (poll_living living enabled) Iff.rfl
  | turn =>
    obtain ⟨next, turned, nextLiving, same⟩ := turn_living living enabled
    exact decided_quiet trivial turned nextLiving (by rw [same])
  | callback readv result => exact callback_decided living enabled
  | endCallbacks => exact endCallbacks_decided living enabled
  | endEvents => exact endEvents_decided living enabled
  | closeCallback => exact closeCallback_decided living enabled
  | removeConnectionInLoop => exact removeConnectionInLoop_decided living enabled
  | runFunctor => exact runFunctor_decided living enabled
  | finishDestroy => exact finishDestroy_decided living enabled
  | user call =>
    obtain ⟨next, used, continues⟩ := userCall_continues living.registered enabled
    refine decided_quiet trivial ?_ (living.continue continues) continues.spares.orderly
    simp [step, used]

end Invariant

theorem established_living (fd : Nat) (poller : EPollPoller)
    (writeCompleteCallback highWaterMarkCallback : Bool) (highWaterMark : Nat) :
    Living (established (TcpConnection.established fd poller writeCompleteCallback
      highWaterMarkCallback highWaterMark)) where
  ups := rfl
  downs := .inl ⟨established_ready, rfl⟩
  closes := rfl
  removals := rfl
  destroyable := nofun
  batch := fun _ => rfl
  once := Nat.zero_le 1
  listed := nofun
  frames := nofun
  destroying := nofun

theorem step_living (s : Lifecycle) (label : Label) (next : Lifecycle) (living : s.Living)
    (enabled : s.Enabled label) (stepped : s.step label = some next) : next.Living := by
  rcases step_decided s label living enabled with ⟨failed, _⟩ | ⟨other, same, nextLiving, _⟩
  · cases stepped.symm.trans failed
  · cases stepped.symm.trans same
    exact nextLiving

/-- What the reports of a whole life look like. -/
structure Reported (log : List ConnectionEvent) : Prop where
  ups : log.count (.connection true) = 1
  downs : log.count (.connection false) ≤ 1
  closes : log.count .close ≤ 1
  orderly : Orderly log

theorem Living.reported_iff {s : Lifecycle} (living : s.Living) :
    Reported s.conn.log ↔ Orderly s.conn.log := by
  refine ⟨Reported.orderly, fun orderly => ?_⟩
  have downs : s.conn.log.count (.connection false) ≤ 1 := by
    rcases living.downs with ⟨_, notDown⟩ | ⟨_, one⟩
    · exact notDown ▸ Nat.zero_le 1
    · exact Nat.le_of_eq one
  have closes := living.closes
  exact ⟨living.ups, downs, by omega, orderly⟩

theorem step_reported (s : Lifecycle) (label : Label) (living : s.Living)
    (enabled : s.Enabled label) :
    (s.step label = none ∧ ¬ s.Sound label) ∨
    ∃ next, s.step label = some next ∧ next.Living ∧
      (Reported next.conn.log ↔ Reported s.conn.log ∧ s.Sound label) := by
  rcases step_decided s label living enabled with failed | ⟨next, stepped, nextLiving, decided⟩
  · exact .inl failed
  · refine .inr ⟨next, stepped, nextLiving, ?_⟩
    rw [nextLiving.reported_iff, living.reported_iff]
    exact decided

/-- A life succeeds with the right reports exactly if no read of a connection that was just
closed returns data or the end of the stream.

Proof: a step keeps the invariant whatever a read returns, as long as the assertion of the
close holds. A close begins once, since the channel is not watched afterwards and a forced
close looks at the state; the only callbacks left are those of the same turn. Of these,
a read that returns data reports a message, and one that returns nothing closes again. -/
theorem life_reported_iff (fd : Nat) (poller : EPollPoller)
    (writeCompleteCallback highWaterMarkCallback : Bool) (highWaterMark : Nat)
    (unknown : poller.channels fd = false) (absent : poller.interest fd = none)
    (start : TcpConnection) (connected : (new fd poller writeCompleteCallback highWaterMarkCallback
      highWaterMark).connectEstablished = some start)
    (labels : List Label) (valid : system.Valid (established start) labels) :
    (∃ final, system.run (established start) labels = some final ∧ Reported final.conn.log) ↔
      system.Along Sound (established start) labels := by
  cases (connectEstablished_exact unknown absent).symm.trans connected
  have initial := established_living fd poller writeCompleteCallback highWaterMarkCallback
    highWaterMark
  have decided := System.run_decides Living (fun s => Reported s.conn.log) step_reported _ labels
    initial valid
  have orderly : Orderly ([] ++ [.connection true]) :=
    (orderly_append (by decide)).mpr orderly_nil
  rw [decided]
  exact and_iff_right (initial.reported_iff.mpr orderly)

/-- A hang-up with urgent data closes the connection; the read that follows fails, and the
forced close that was queued before finds the connection closed. -/
theorem life_reported_iff_hangup :
    ∃ final, system.run (established (TcpConnection.established 7 EPollPoller.initial true true 64))
        [.user (.send [1, 2, 3] (.wrote 1) 0), .user .forceClose,
          .poll [3, 7] (POLLHUP ||| POLLPRI ||| POLLOUT), .turn, .turn,
          .callback (.failed 0) (.wrote 0), .user (.send [4] (.wrote 0) 0), .closeCallback,
          .removeConnectionInLoop, .callback (.failed ECONNRESET) (.wrote 0),
          .callback (.failed 0) (.wrote 0), .endCallbacks, .endEvents, .runFunctor, .runFunctor,
          .finishDestroy] = some final ∧ Reported final.conn.log :=
  (life_reported_iff 7 EPollPoller.initial true true 64 rfl rfl
    (TcpConnection.established 7 EPollPoller.initial true true 64)
    (connectEstablished_exact rfl rfl) _ (by decide)).mpr (by decide)

/-- A hang-up with urgent data closes the connection, and the same turn reads from it. -/
def hangup (read : Readv) : List Label :=
  [.poll [7] (POLLHUP ||| POLLPRI), .turn, .callback (.failed 0) (.wrote 0), .closeCallback,
    .callback read (.wrote 0)]

/-- The read reports a message of a connection that is down, or closes it again and fails the
assertion. -/
theorem hangup_reads_closed_connection :
    ∃ start final, (new 7 EPollPoller.initial true true 64).connectEstablished = some start ∧
      system.Valid (established start) (hangup (.delivered [65])) ∧
      system.run (established start) (hangup (.delivered [65])) = some final ∧
      final.conn.log = [.connection true, .connection false, .close, .message] ∧
      ¬ Reported final.conn.log ∧
      system.Valid (established start) (hangup (.delivered [])) ∧
      system.run (established start) (hangup (.delivered [])) = none := by
  refine ⟨TcpConnection.established 7 EPollPoller.initial true true 64, _,
    connectEstablished_exact rfl rfl, by decide, rfl, by decide, fun reported => ?_, by decide, rfl⟩
  exact reported.orderly [.connection true] [.close, .message] rfl (by decide)

end Lifecycle

end Moban
