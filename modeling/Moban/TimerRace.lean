import Moban.TimerThreads

/-!
# Cancelling a timer that another thread added

The functor that adds a timer is queued before the call of `addTimer` returns, so a
cancel that goes through the queue stands behind it. A cancel made in the loop thread
does not go through the queue. It is final if the timer has been added by then and no
call of it is pending; the queue order then takes care of every other cancel.
-/

namespace Moban

open OrderedSets Runs Function

namespace TimerThreads

/-! ## The queue of functors -/

/-- The addresses that a functor will add. -/
def addition : TimerFunctor → Option Nat
  | .addTimerInLoop address => some address
  | _ => none

/-- The addresses that queued functors will add, in order. -/
def additions (backlog : List TimerFunctor) : List Nat := backlog.filterMap addition

theorem mem_additions (backlog : List TimerFunctor) (address : Nat) :
    address ∈ additions backlog ↔ .addTimerInLoop address ∈ backlog := by
  constructor
  · intro member
    obtain ⟨functor, queued, same⟩ := List.mem_filterMap.mp member
    cases functor with
    | addTimerInLoop other =>
      cases same
      exact queued
    | cancelInLoop handle => cases same
    | other => cases same
  · intro queued
    exact List.mem_filterMap.mpr ⟨_, queued, rfl⟩

/-- If the timer of this number still waits to be added, a queued functor will add it. -/
def Submitted (queue : TimerQueue) (backlog : List TimerFunctor) (sequence : Int) : Prop :=
  ∀ address ∈ queue.posted, queue.owns sequence address = true →
    .addTimerInLoop address ∈ backlog

/-- How the timers waiting to be added, the queued functors, the calls of `addTimer` in
progress and the returned handles belong together. -/
structure Tracks (queue : TimerQueue) (backlog : List TimerFunctor)
    (adding : Nat → Option Adding) (handles : List Handle) : Prop where
  once : (additions backlog).Nodup
  posted : ∀ address, .addTimerInLoop address ∈ backlog → address ∈ queue.posted
  unposted : ∀ thread call, adding thread = some call → call.posted = false →
    call.address ∈ queue.posted ∧ .addTimerInLoop call.address ∉ backlog
  apart : ∀ thread other call second, adding thread = some call → adding other = some second →
    call.posted = false → second.posted = false → call.address = second.address → thread = other
  called : ∀ thread call, adding thread = some call → call.sequence ≤ queue.numCreated ∧
    (∀ address, queue.owns call.sequence address = true → address = call.address) ∧
    (call.posted = true → Submitted queue backlog call.sequence)
  returned : ∀ handle ∈ handles, handle.sequence ≤ queue.numCreated ∧
    (∀ address, queue.owns handle.sequence address = true →
      handle.id = ⟨address, handle.sequence⟩) ∧
    Submitted queue backlog handle.sequence
  requested : ∀ handle, .cancelInLoop handle ∈ backlog → handle ∈ handles
  ordered : ∀ before handle after, backlog = before ++ .cancelInLoop handle :: after →
    Submitted queue before handle.sequence

variable {sequence expiration : Int} {interval : Interval} {functor : TimerFunctor}

section Tracking

variable {queue next : TimerQueue} {backlog rest : List TimerFunctor}
  {adding : Nat → Option Adding} {handles : List Handle} {thread address : Nat}

theorem Submitted.more (submitted : Submitted queue backlog sequence)
    (more : List TimerFunctor) : Submitted queue (backlog ++ more) sequence :=
  fun address member owned => List.mem_append_left _ (submitted address member owned)

/-- What has to be shown when the timer queue changes and functors at the front of the
backlog are taken out: known numbers keep their timers, and a timer of a known number
that still waits is still submitted. -/
theorem Tracks.change (tracks : Tracks queue backlog adding handles)
    (front : List TimerFunctor) (taken : backlog = front ++ rest) (once : (additions rest).Nodup)
    (posted : ∀ other, .addTimerInLoop other ∈ rest → other ∈ next.posted)
    (unposted : ∀ thread call, adding thread = some call → call.posted = false →
      call.address ∈ next.posted ∧ .addTimerInLoop call.address ∉ rest)
    (created : queue.numCreated ≤ next.numCreated)
    (owned : ∀ sequence ≤ queue.numCreated, ∀ other, next.owns sequence other = true →
      queue.owns sequence other = true)
    (submitted : ∀ functors, ∀ sequence ≤ queue.numCreated,
      Submitted queue (front ++ functors) sequence → Submitted next functors sequence) :
    Tracks next rest adding handles := by
  subst taken
  have requested : ∀ handle, .cancelInLoop handle ∈ rest → handle ∈ handles :=
    fun handle queued => tracks.requested handle (List.mem_append_right _ queued)
  refine ⟨once, posted, unposted, tracks.apart, ?_, ?_, requested, ?_⟩
  · intro thread call progress
    obtain ⟨numbered, owner, queued⟩ := tracks.called thread call progress
    exact ⟨Int.le_trans numbered created, fun other owns => owner other (owned _ numbered _ owns),
      fun done => submitted _ _ numbered (queued done)⟩
  · intro handle member
    obtain ⟨numbered, owner, queued⟩ := tracks.returned handle member
    exact ⟨Int.le_trans numbered created, fun other owns => owner other (owned _ numbered _ owns),
      submitted _ _ numbered queued⟩
  · intro before handle after split
    have member := requested handle (split ▸ List.mem_append_right _ List.mem_cons_self)
    apply submitted _ _ (tracks.returned handle member).1
    apply tracks.ordered (front ++ before) handle after
    rw [split, List.append_assoc]

/-- A step that creates and adds nothing changes none of this. -/
theorem Tracks.calm (tracks : Tracks queue backlog adding handles)
    (calm : TimerQueue.Calm queue next) : Tracks next backlog adding handles := by
  apply tracks.change [] rfl tracks.once
  · rw [calm.posted]
    exact tracks.posted
  · rw [calm.posted]
    exact tracks.unposted
  · exact le_of_eq calm.created.symm
  · exact fun sequence _ other => calm.owned sequence other
  · intro functors sequence _ holds other member owned
    exact holds other (calm.posted ▸ member) (calm.owned _ _ owned)

/-- A new timer carries a number that no call and no handle knows yet. -/
theorem owns_newTimer (known : sequence ≤ queue.numCreated) {other : Nat}
    (owned : (queue.newTimer address expiration interval).owns sequence other = true) :
    queue.owns sequence other = true := by
  obtain ⟨timer, live, number⟩ := (TimerQueue.owns_iff _ _ _).mp owned
  simp only [TimerQueue.newTimer, update_apply] at live
  split at live
  · cases live
    simp only at number
    omega
  · exact (TimerQueue.owns_iff _ _ _).mpr ⟨timer, live, number⟩

theorem Tracks.create (tracks : Tracks queue backlog adding handles)
    (free : queue.heap address = none) (expiration : Int) (interval : Interval) :
    Tracks (queue.newTimer address expiration interval) backlog adding handles := by
  apply tracks.change [] rfl tracks.once
  · intro other queued
    exact List.mem_cons_of_mem _ (tracks.posted other queued)
  · intro thread call progress waits
    obtain ⟨member, unqueued⟩ := tracks.unposted thread call progress waits
    exact ⟨List.mem_cons_of_mem _ member, unqueued⟩
  · simp only [TimerQueue.newTimer]
    omega
  · exact fun sequence known other => owns_newTimer known
  · intro functors sequence known holds other member owned
    have before := owns_newTimer known owned
    refine holds other ?_ before
    rcases List.mem_cons.mp member with rfl | old
    · obtain ⟨timer, live, _⟩ := (TimerQueue.owns_iff _ _ _).mp before
      cases free.symm.trans live
    · exact old

/-- A functor goes to the end of the queue: a cancel with a known handle, or the addition
of a timer that waits for it and that no call in progress is still to queue. -/
theorem Tracks.extend (tracks : Tracks queue backlog adding handles)
    (request : ∀ handle, functor = .cancelInLoop handle → handle ∈ handles)
    (fresh : ∀ other, functor = .addTimerInLoop other → other ∈ queue.posted ∧
      .addTimerInLoop other ∉ backlog)
    (unposted : ∀ thread call, adding thread = some call → call.posted = false →
      functor ≠ .addTimerInLoop call.address) :
    Tracks queue (backlog ++ [functor]) adding handles := by
  refine ⟨?_, ?_, ?_, tracks.apart, ?_, ?_, ?_, ?_⟩
  · have appended : additions (backlog ++ [functor]) =
        additions backlog ++ (addition functor).toList := by
      cases functor <;> simp [additions, addition]
    rw [appended]
    refine List.nodup_append.mpr ⟨tracks.once, by cases functor <;> simp [addition], ?_⟩
    rintro first member second same rfl
    cases functor with
    | addTimerInLoop other =>
      cases List.mem_singleton.mp same
      exact (fresh _ rfl).2 ((mem_additions _ _).mp member)
    | cancelInLoop handle => cases same
    | other => cases same
  · intro other queued
    rcases List.mem_append.mp queued with old | new
    · exact tracks.posted other old
    · exact (fresh other (List.mem_singleton.mp new).symm).1
  · intro thread call progress waits
    obtain ⟨member, unqueued⟩ := tracks.unposted thread call progress waits
    refine ⟨member, ?_⟩
    intro queued
    rcases List.mem_append.mp queued with old | new
    · exact unqueued old
    · exact unposted thread call progress waits (List.mem_singleton.mp new).symm
  · intro thread call progress
    obtain ⟨numbered, owner, queued⟩ := tracks.called thread call progress
    exact ⟨numbered, owner, fun posted => (queued posted).more _⟩
  · intro handle member
    obtain ⟨numbered, owner, queued⟩ := tracks.returned handle member
    exact ⟨numbered, owner, queued.more _⟩
  · intro handle queued
    rcases List.mem_append.mp queued with old | new
    · exact tracks.requested handle old
    · exact request handle (List.mem_singleton.mp new).symm
  · intro before handle after split
    rcases List.eq_nil_or_concat after with rfl | ⟨shorter, last, rfl⟩
    · obtain ⟨rfl, same⟩ := List.append_inj' split rfl
      have known := request handle (List.singleton_inj.mp same)
      exact (tracks.returned handle known).2.2
    · have regrouped : backlog ++ [functor] =
          (before ++ .cancelInLoop handle :: shorter) ++ [last] := by
        rw [split]
        simp
      exact tracks.ordered before handle shorter (List.append_inj' regrouped rfl).1

/-- A call in progress may be given up. -/
theorem Tracks.forget (tracks : Tracks queue backlog adding handles) (thread : Nat) :
    Tracks queue backlog (update adding thread none) handles := by
  have still : ∀ other call, update adding thread none other = some call →
      adding other = some call := by
    intro other call progress
    rw [update_apply] at progress
    split at progress
    · cases progress
    · exact progress
  exact ⟨tracks.once, tracks.posted,
    fun other call progress => tracks.unposted other call (still other call progress),
    fun first second call later left right => tracks.apart first second call later
      (still first call left) (still second later right),
    fun other call progress => tracks.called other call (still other call progress),
    tracks.returned, tracks.requested, tracks.ordered⟩

/-- A thread begins a call, or proceeds in it. -/
theorem Tracks.record (tracks : Tracks queue backlog adding handles) (thread : Nat) (call : Adding)
    (waits : call.posted = false →
      (call.address ∈ queue.posted ∧ .addTimerInLoop call.address ∉ backlog) ∧
        ∀ other second, adding other = some second → second.posted = false →
          second.address ≠ call.address)
    (progress : call.sequence ≤ queue.numCreated ∧
      (∀ address, queue.owns call.sequence address = true → address = call.address) ∧
      (call.posted = true → Submitted queue backlog call.sequence)) :
    Tracks queue backlog (update adding thread (some call)) handles := by
  refine ⟨tracks.once, tracks.posted, ?_, ?_, ?_, tracks.returned, tracks.requested,
    tracks.ordered⟩
  · intro other found position
    rw [update_apply] at position
    split at position
    · cases position
      exact fun unposted => (waits unposted).1
    · exact tracks.unposted other found position
  · intro first second left right atFirst atSecond waitsLeft waitsRight same
    rw [update_apply] at atFirst atSecond
    split at atFirst <;> split at atSecond
    case isTrue.isTrue one two => exact one.trans two.symm
    · cases atFirst
      exact absurd same.symm ((waits waitsLeft).2 second right atSecond waitsRight)
    · cases atSecond
      exact absurd same ((waits waitsRight).2 first left atFirst waitsLeft)
    · exact tracks.apart first second left right atFirst atSecond waitsLeft waitsRight same
  · intro other found position
    rw [update_apply] at position
    split at position
    · cases position
      exact progress
    · exact tracks.called other found position

/-- A returned identifier joins the handles. -/
theorem Tracks.handle (tracks : Tracks queue backlog adding handles) {handle : Handle}
    (known : handle.sequence ≤ queue.numCreated ∧
      (∀ address, queue.owns handle.sequence address = true →
        handle.id = ⟨address, handle.sequence⟩) ∧
      Submitted queue backlog handle.sequence) :
    Tracks queue backlog adding (handle :: handles) := by
  refine ⟨tracks.once, tracks.posted, tracks.unposted, tracks.apart, tracks.called, ?_, ?_,
    tracks.ordered⟩
  · intro other member
    rcases List.mem_cons.mp member with rfl | old
    · exact known
    · exact tracks.returned other old
  · intro other queued
    exact List.mem_cons_of_mem _ (tracks.requested other queued)

/-- One timer has been added and is no longer waiting for that. -/
structure Added (address : Nat) (queue next : TimerQueue) : Prop where
  posted : ∀ other, other ∈ next.posted ↔ other ≠ address ∧ other ∈ queue.posted
  created : next.numCreated = queue.numCreated
  owned : ∀ sequence other, next.owns sequence other = queue.owns sequence other

theorem addTimerInLoop_added (invariant : TimerQueue.Invariant queue)
    (posted : address ∈ queue.posted) {clock : Readings}
    (done : queue.addTimerInLoop address clock = some next) : Added address queue next := by
  obtain ⟨timer, _, exact, _⟩ :=
    TimerQueue.addTimerInLoop_invariant invariant posted clock
  have nodup : queue.posted.Nodup :=
    invariant.shape.nodup.sublist (List.sublist_append_left _ _)
  cases exact.symm.trans done
  split <;> exact ⟨fun _ => nodup.mem_erase_iff, rfl, fun _ _ => rfl⟩

theorem Submitted.added {functors : List TimerFunctor}
    (submitted : Submitted queue functors sequence) (added : Added address queue next) :
    ∀ other ∈ next.posted, next.owns sequence other = true →
      other ≠ address ∧ .addTimerInLoop other ∈ functors := by
  intro other member owned
  obtain ⟨different, old⟩ := (added.posted other).mp member
  exact ⟨different, submitted other old (added.owned _ _ ▸ owned)⟩

/-- Adding the timer whose functor is next in the queue takes that functor out. -/
theorem Tracks.addNext (tracks : Tracks queue (.addTimerInLoop address :: rest) adding handles)
    (added : Added address queue next) : Tracks next rest adding handles := by
  have once : address ∉ additions rest ∧ (additions rest).Nodup :=
    List.nodup_cons.mp tracks.once
  apply tracks.change [.addTimerInLoop address] rfl once.2
  · intro other queued
    refine (added.posted other).mpr ⟨?_, tracks.posted other (List.mem_cons_of_mem _ queued)⟩
    rintro rfl
    exact once.1 ((mem_additions _ _).mpr queued)
  · intro thread call progress waits
    obtain ⟨member, unqueued⟩ := tracks.unposted thread call progress waits
    refine ⟨(added.posted _).mpr ⟨?_, member⟩, ?_⟩
    · intro same
      exact unqueued (same ▸ List.mem_cons_self)
    · exact fun queued => unqueued (List.mem_cons_of_mem _ queued)
  · exact le_of_eq added.created.symm
  · exact fun sequence _ other owned => added.owned _ _ ▸ owned
  · intro functors sequence _ holds other member owned
    obtain ⟨different, queued⟩ := holds.added added other member owned
    rcases List.mem_cons.mp queued with same | later
    · cases same
      exact absurd rfl different
    · exact later

/-- Adding a timer that no functor is to add leaves the queue of functors alone. -/
theorem Tracks.addHere (tracks : Tracks queue backlog adding handles)
    (added : Added address queue next) (unqueued : .addTimerInLoop address ∉ backlog)
    (unclaimed : ∀ thread call, adding thread = some call → call.posted = false →
      call.address ≠ address) : Tracks next backlog adding handles := by
  apply tracks.change [] rfl tracks.once
  · intro other queued
    refine (added.posted other).mpr ⟨?_, tracks.posted other queued⟩
    rintro rfl
    exact unqueued queued
  · intro thread call progress waits
    obtain ⟨member, absent⟩ := tracks.unposted thread call progress waits
    exact ⟨(added.posted _).mpr ⟨unclaimed thread call progress waits, member⟩, absent⟩
  · exact le_of_eq added.created.symm
  · exact fun sequence _ other owned => added.owned _ _ ▸ owned
  · intro functors sequence _ holds other member owned
    exact (holds.added added other member owned).2

/-- A functor that adds nothing may be taken out of the queue. -/
theorem Tracks.pop (tracks : Tracks queue (functor :: rest) adding handles)
    (notAdd : ∀ other, functor ≠ .addTimerInLoop other) : Tracks queue rest adding handles := by
  have once : (additions rest).Nodup := by
    have all := tracks.once
    cases functor with
    | addTimerInLoop other => exact absurd rfl (notAdd other)
    | cancelInLoop handle => exact all
    | other => exact all
  apply tracks.change [functor] rfl once
  · intro other queued
    exact tracks.posted other (List.mem_cons_of_mem _ queued)
  · intro thread call progress waits
    obtain ⟨member, unqueued⟩ := tracks.unposted thread call progress waits
    exact ⟨member, fun queued => unqueued (List.mem_cons_of_mem _ queued)⟩
  · exact Int.le_refl _
  · exact fun sequence _ other owned => owned
  · intro functors sequence _ holds other member owned
    rcases List.mem_cons.mp (holds other member owned) with same | later
    · exact absurd same.symm (notAdd other)
    · exact later

end Tracking

/-! ## Runs -/

/-- Timers whose calls are settled: they have been cancelled, and no call is pending. -/
def Settled (queue : TimerQueue) (cancelled : List Int) : Prop :=
  ∀ sequence ∈ cancelled,
    TimerQueue.Doomed sequence (TimerEvent.runs queue.log sequence) queue

/-- No step of the timer queue calls a settled timer. -/
theorem Settled.step {queue next : TimerQueue} {cancelled : List Int}
    (settled : Settled queue cancelled) (label : TimerQueue.Label)
    (invariant : TimerQueue.Invariant queue) (enabled : queue.Enabled label)
    (stepped : queue.step label = some next) :
    Settled next cancelled ∧ ∀ sequence ∈ cancelled,
      TimerEvent.runs next.log sequence = TimerEvent.runs queue.log sequence := by
  have same : ∀ sequence ∈ cancelled,
      TimerEvent.runs next.log sequence = TimerEvent.runs queue.log sequence := by
    intro sequence member
    have doomed := TimerQueue.step_doomed invariant enabled (settled sequence member) stepped
    have counted := doomed.counted
    have longer := TimerQueue.step_log label invariant enabled stepped
    have grown := TimerEvent.runs_mono longer sequence
    omega
  refine ⟨?_, same⟩
  intro sequence member
  rw [same sequence member]
  exact TimerQueue.step_doomed invariant enabled (settled sequence member) stepped

/-- What holds between any two steps, if cancels in the loop thread are made in time. -/
structure Linked (s : TimerThreads) : Prop where
  positioned : EventLoop.Positioned s.loop
  invariant : TimerQueue.Invariant s.queue
  inside : s.queue.dispatch ≠ none → s.loop.phase.eventful = true
  tracks : Tracks s.queue s.loop.backlog s.adding s.handles
  settled : Settled s.queue s.cancelled

/-- The state after a step, with the timers that were settled before it. -/
def Follows (s next : TimerThreads) : Prop :=
  Linked next ∧ ∀ sequence ∈ s.cancelled, sequence ∈ next.cancelled ∧
    TimerEvent.runs next.queue.log sequence = TimerEvent.runs s.queue.log sequence

theorem initial_linked : Linked initial := by
  refine ⟨EventLoop.initial_positioned, TimerQueue.initial_invariant, nofun, ?_, nofun⟩
  refine ⟨List.nodup_nil, nofun, nofun, nofun, nofun, ?_, nofun, ?_⟩
  · intro handle member
    cases List.mem_singleton.mp member
    exact ⟨le_refl _, nofun, nofun⟩
  · intro before handle after split
    have empty : ([] : List TimerFunctor) = before ++ .cancelInLoop handle :: after := split
    simp at empty

section Steps

variable {s next : TimerThreads}

/-- An address that the allocator returns is not waiting to be added. -/
theorem Linked.fresh (linked : Linked s) {address : Nat} (free : s.queue.heap address = none) :
    address ∉ s.queue.posted := by
  intro member
  have outside := List.mem_append_left (s.queue.batch.map Entry.timer) member
  obtain ⟨⟨timer, live⟩, _⟩ := (linked.invariant.shape.places address).mp outside
  cases free.symm.trans live

/-- The newest number belongs to the newest timer. -/
theorem Linked.newest (linked : Linked s) {address other : Nat}

    (owned : (s.queue.newTimer address expiration interval).owns
      (s.queue.newTimer address expiration interval).numCreated other = true) :
    other = address := by
  obtain ⟨timer, live, number⟩ := (TimerQueue.owns_iff _ _ _).mp owned
  simp only [TimerQueue.newTimer, update_apply] at live number
  split at live
  · assumption
  · have known := (linked.invariant.numbering.numbered live).2
    omega

/-- A step of the timer queue that creates and adds nothing, inside an event callback. -/
theorem onQueue_linked (linked : Linked s) (label : TimerQueue.Label)
    (enabled : s.queue.Enabled label) (eventful : s.loop.phase.eventful = true)
    (calm : ∀ queue, s.queue.step label = some queue → TimerQueue.Calm s.queue queue) :
    ∃ next, s.onQueue label = some next ∧ Follows s next := by
  obtain ⟨queue, stepped, kept⟩ := TimerQueue.step_invariant s.queue label linked.invariant enabled
  obtain ⟨settled, same⟩ := linked.settled.step label linked.invariant enabled stepped
  refine ⟨{ s with queue := queue }, ?_, ?_, ?_⟩
  · simp [onQueue, stepped]
  · exact ⟨linked.positioned, kept, fun _ => eventful, linked.tracks.calm (calm queue stepped),
      settled⟩
  · exact fun sequence member => ⟨member, same sequence member⟩

theorem allocate_linked (linked : Linked s) {thread address : Nat}
    (enabled : s.Enabled (.allocate thread address expiration interval)) :
    Follows s (s.allocate thread address expiration interval) := by
  obtain ⟨_, _, free, below⟩ := enabled
  have fresh := linked.fresh free
  have created := linked.tracks.create free expiration interval
  obtain ⟨settled, same⟩ := linked.settled.step (.newTimer address expiration interval)
    linked.invariant ⟨free, below⟩ rfl
  refine ⟨⟨linked.positioned,
    TimerQueue.newTimer_invariant linked.invariant free below expiration interval,
    linked.inside, ?_, settled⟩, fun sequence member => ⟨member, same sequence member⟩⟩
  apply created.record
  · intro _
    refine ⟨⟨List.mem_cons_self, ?_⟩, ?_⟩
    · exact fun queued => fresh (linked.tracks.posted address queued)
    · rintro other second progress waits rfl
      exact fresh (linked.tracks.unposted other second progress waits).1
  · exact ⟨le_refl _, fun other owned => linked.newest owned, nofun⟩

/-- A functor is queued and nothing else happens to the timers. -/
theorem queueInLoop_linked (linked : Linked s) {caller : Caller}
    (may : s.loop.MayCall caller) {adding : Nat → Option Adding}
    (tracks : Tracks s.queue (s.loop.backlog ++ [functor]) adding s.handles) :
    Follows s { s with loop := s.loop.queueInLoop caller functor, adding := adding } := by
  obtain ⟨_, stepped, positioned⟩ :=
    EventLoop.step_positioned s.loop (.queueInLoop caller functor) linked.positioned may
  cases stepped
  refine ⟨⟨positioned, linked.invariant, linked.inside, ?_, linked.settled⟩,
    fun sequence member => ⟨member, rfl⟩⟩
  rw [EventLoop.queueInLoop_backlog]
  exact tracks

/-- The call in progress, from the form in which a step asks for it. -/
theorem isAdding_inv {thread : Nat} {posted : Bool} (found : s.isAdding thread posted = true) :
    ∃ call, s.adding thread = some call ∧ call.posted = posted := by
  unfold isAdding at found
  split at found
  · cases found
  case h_2 call progress => exact ⟨call, progress, eq_of_beq found⟩

theorem post_linked (linked : Linked s) {thread : Nat} (enabled : s.Enabled (.post thread)) :
    ∃ next, s.post thread = some next ∧ Follows s next := by
  obtain ⟨may, found⟩ := enabled
  obtain ⟨call, progress, waits⟩ := isAdding_inv found
  obtain ⟨member, unqueued⟩ := linked.tracks.unposted thread call progress waits
  obtain ⟨numbered, owner, _⟩ := linked.tracks.called thread call progress
  have extended : Tracks s.queue (s.loop.backlog ++ [.addTimerInLoop call.address])
      (update s.adding thread none) s.handles := by
    apply (linked.tracks.forget thread).extend
    · intro handle same
      cases same
    · intro other same
      cases same
      exact ⟨member, unqueued⟩
    · intro other second later waiting same
      rw [update_apply] at later
      split at later
      · cases later
      case isFalse different =>
        have shared := TimerFunctor.addTimerInLoop.inj same
        exact different (linked.tracks.apart other thread second call later progress waiting waits
          shared.symm)
  have proceeded := extended.record thread { call with posted := true } nofun
    ⟨numbered, owner, fun _ other _ owned =>
      owner other owned ▸ List.mem_append_right _ (List.mem_singleton.mpr rfl)⟩
  rw [update_idem] at proceeded
  refine ⟨{ s with
    loop := s.loop.queueInLoop (.thread thread) (.addTimerInLoop call.address)
    adding := update s.adding thread (some { call with posted := true }) }, ?_, ?_⟩
  · simp [post, progress]
  · exact queueInLoop_linked linked may proceeded

theorem returnId_linked (linked : Linked s) {thread : Nat}
    (enabled : s.Enabled (.returnId thread sequence)) :
    ∃ next, s.returnId thread sequence = some next ∧ Follows s next := by
  obtain ⟨_, found, reads⟩ := enabled
  obtain ⟨call, progress, posted⟩ := isAdding_inv found
  obtain ⟨numbered, owner, submitted⟩ := linked.tracks.called thread call progress
  refine ⟨{ s with
    adding := update s.adding thread none
    handles :=
      { id := { timer := call.address, sequence := sequence }, sequence := call.sequence } ::
        s.handles }, by simp [returnId, progress],
    ⟨linked.positioned, linked.invariant, linked.inside, ?_, linked.settled⟩,
    fun _ member => ⟨member, rfl⟩⟩
  apply (linked.tracks.forget thread).handle
  refine ⟨numbered, ?_, submitted posted⟩
  intro address owned
  obtain ⟨timer, live, number⟩ := (TimerQueue.owns_iff _ _ _).mp owned
  have place := owner address owned
  have read := reads call progress timer (place ▸ live)
  rw [← number, ← read, place]

/-- A timer added by the loop thread itself passes through no queue. -/
theorem addTimer_linked (linked : Linked s) {address : Nat} {clock : Readings}
    (enabled : s.Enabled (.addTimer address expiration interval clock)) :
    ∃ next, s.addTimer address expiration interval clock = some next ∧ Follows s next := by
  obtain ⟨_, free, below⟩ := enabled
  have fresh := linked.fresh free
  have created := linked.tracks.create free expiration interval
  have invariant :=
    TimerQueue.newTimer_invariant linked.invariant free below expiration interval
  obtain ⟨settled, same⟩ := linked.settled.step (.newTimer address expiration interval)
    linked.invariant ⟨free, below⟩ rfl
  have posted : address ∈ (s.queue.newTimer address expiration interval).posted :=
    List.mem_cons_self
  obtain ⟨queue, stepped, kept⟩ :=
    TimerQueue.step_invariant _ (.addTimerInLoop address clock) invariant posted
  obtain ⟨later, equal⟩ := settled.step (.addTimerInLoop address clock) invariant posted stepped
  have added := addTimerInLoop_added invariant posted stepped
  have unqueued : .addTimerInLoop address ∉ s.loop.backlog :=
    fun queued => fresh (linked.tracks.posted address queued)
  have here := created.addHere added unqueued (by
    rintro thread call progress waits rfl
    exact fresh (linked.tracks.unposted thread call progress waits).1)
  have owned : queue.owns (s.queue.newTimer address expiration interval).numCreated address =
      true := by
    rw [added.owned]
    simp [TimerQueue.owns, TimerQueue.newTimer]
  obtain ⟨timer, live, number⟩ := (TimerQueue.owns_iff _ _ _).mp owned
  have done : (s.queue.newTimer address expiration interval).addTimerInLoop address clock =
      some queue := stepped
  refine ⟨{ s with
    queue := queue
    handles :=
      { id := { timer := address, sequence := timer.sequence }
        sequence := (s.queue.newTimer address expiration interval).numCreated } ::
        s.handles }, by simp [addTimer, done, live],
    ⟨linked.positioned, kept, ?_, ?_, later⟩,
    fun sequence member => ⟨member, (equal sequence member).trans (same sequence member)⟩⟩
  · obtain ⟨_, _, exact, _⟩ := TimerQueue.addTimerInLoop_invariant invariant posted clock
    cases exact.symm.trans done
    intro running
    apply linked.inside
    split at running <;> exact running
  · apply here.handle
    refine ⟨le_of_eq added.created.symm, ?_, ?_⟩
    · intro other owns
      rw [added.owned] at owns
      rw [linked.newest owns, number]
    · intro other member owns
      rw [added.owned] at owns
      exact absurd (linked.newest owns) ((added.posted other).mp member).1

/-- The cancel of a timer that has been added and has no call pending settles it. -/
theorem cancelInLoop_linked (linked : Linked s) {handle : Handle} {loop : EventLoop TimerFunctor}
    (known : handle ∈ s.handles)
    (added : ∀ address ∈ s.queue.posted, s.queue.owns handle.sequence address ≠ true)
    (nothing : s.queue.pendingCalls handle.sequence = 0) (positioned : EventLoop.Positioned loop)
    (inside : s.queue.dispatch ≠ none → loop.phase.eventful = true)
    (tracks : Tracks s.queue loop.backlog s.adding s.handles) :
    ∃ next, { s with loop := loop }.cancelInLoop handle = some next ∧ Follows s next := by
  obtain ⟨numbered, owner, _⟩ := linked.tracks.returned handle known
  obtain ⟨queue, cancelled, kept⟩ :=
    TimerQueue.cancelInLoop_invariant linked.invariant handle.id
  obtain ⟨settled, same⟩ := linked.settled.step (.cancelInLoop handle.id) linked.invariant
    trivial cancelled
  have doomed : TimerQueue.Doomed handle.sequence
      (TimerEvent.runs s.queue.log handle.sequence) queue := by
    by_cases alive : ∃ address, s.queue.owns handle.sequence address = true
    · obtain ⟨address, owned⟩ := alive
      have identified := owner address owned
      have number : handle.id.sequence = handle.sequence := by rw [identified]
      have below : handle.id.sequence ≤ s.queue.numCreated := number ▸ numbered
      have owners : ∀ other timer, s.queue.heap other = some timer →
          timer.sequence = handle.id.sequence → other = handle.id.timer ∧
            other ∉ s.queue.posted := by
        intro other timer live sequence
        have owns := (TimerQueue.owns_iff _ _ _).mpr ⟨timer, live, number ▸ sequence⟩
        refine ⟨?_, fun member => added other member owns⟩
        rw [owner other owns]
      have exactly := TimerQueue.cancelInLoop_dooms linked.invariant below owners cancelled
      rw [number, nothing] at exactly
      exact exactly
    · have dead : TimerQueue.Doomed handle.sequence
          (TimerEvent.runs s.queue.log handle.sequence) s.queue := by
        refine ⟨numbered, ?_, by rw [nothing]; rfl⟩
        intro address timer live number
        exact absurd ⟨address, (TimerQueue.owns_iff _ _ _).mpr ⟨timer, live, number⟩⟩ alive
      exact TimerQueue.cancelInLoop_doomed linked.invariant dead cancelled
  have calm := TimerQueue.cancelInLoop_calm linked.invariant cancelled
  refine ⟨{ s with
    loop := loop
    queue := queue
    cancelled := handle.sequence :: s.cancelled }, by simp [cancelInLoop, cancelled],
    ⟨positioned, kept, ?_, tracks.calm calm, ?_⟩,
    fun sequence member => ⟨List.mem_cons_of_mem _ member, same sequence member⟩⟩
  · rw [TimerQueue.cancelInLoop_dispatch linked.invariant cancelled]
    exact inside
  · intro sequence member
    rcases List.mem_cons.mp member with rfl | old
    · have counted := doomed.counted
      have grown := TimerEvent.runs_mono
        (TimerQueue.step_log (.cancelInLoop handle.id) linked.invariant trivial cancelled)
        handle.sequence
      have equal : TimerEvent.runs queue.log handle.sequence =
          TimerEvent.runs s.queue.log handle.sequence := by omega
      rw [equal]
      exact doomed
    · exact settled sequence old

/-- The condition on a cancel in the loop thread: its timer does not wait to be added any
more, and the dispatch in progress is not still to call it. -/
def Timely (s : TimerThreads) : Label → Prop
  | .cancel .loop handle =>
      s.queue.posted.any (s.queue.owns handle.sequence) = false ∧
        s.queue.pendingCalls handle.sequence = 0
  | _ => True

theorem cancel_linked (linked : Linked s) {caller : Caller} {handle : Handle}
    (enabled : s.Enabled (.cancel caller handle)) (timely : s.Timely (.cancel caller handle)) :
    ∃ next, s.cancel caller handle = some next ∧ Follows s next := by
  obtain ⟨may, unoccupied, known⟩ := enabled
  cases caller with
  | loop =>
    obtain ⟨added, nothing⟩ := timely
    apply cancelInLoop_linked linked known _ nothing linked.positioned linked.inside linked.tracks
    intro address member
    exact List.any_eq_false.mp added address member
  | thread identifier =>
    refine ⟨_, rfl, queueInLoop_linked linked may ?_⟩
    apply linked.tracks.extend
    · intro other same
      cases same
      exact known
    · intro other same
      cases same
    · intro thread call _ _ same
      cases same

/-- Functors are called outside the timer dispatch. -/
theorem Linked.idle (linked : Linked s) (quiet : s.loop.phase.eventful = false) :
    s.queue.dispatch = none := by
  by_contra running
  rw [linked.inside running] at quiet
  cases quiet

theorem runFunctor_linked (linked : Linked s) {clock : Readings}
    (enabled : s.Enabled (.runFunctor clock)) :
    ∃ next, s.runFunctor clock = some next ∧ Follows s next := by
  obtain ⟨_, stepped, positioned⟩ :=
    EventLoop.step_positioned s.loop .runFunctor linked.positioned enabled
  cases stepped
  obtain ⟨task, head, backlog⟩ := EventLoop.runFunctor_backlog enabled.2
  have quiet : s.loop.phase.eventful = false := by
    cases phase : s.loop.phase <;> simp_all [Phase.functors, Phase.eventful]
  have idle := linked.idle quiet
  have tracks := linked.tracks
  rw [backlog] at tracks
  cases functor : task.functor with
  | addTimerInLoop address =>
    rw [functor] at tracks
    have posted := tracks.posted address List.mem_cons_self
    obtain ⟨queue, added, kept⟩ :=
      TimerQueue.step_invariant s.queue (.addTimerInLoop address clock) linked.invariant posted
    obtain ⟨settled, same⟩ := linked.settled.step (.addTimerInLoop address clock)
      linked.invariant posted added
    have done : s.queue.addTimerInLoop address clock = some queue := added
    refine ⟨{ s with loop := s.loop.runFunctor, queue := queue },
      by simp [runFunctor, head, functor, done],
      ⟨positioned, kept, ?_,
        tracks.addNext (addTimerInLoop_added linked.invariant posted done), settled⟩,
      fun sequence member => ⟨member, same sequence member⟩⟩
    obtain ⟨_, _, exact, _⟩ :=
      TimerQueue.addTimerInLoop_invariant linked.invariant posted clock
    cases exact.symm.trans done
    intro running
    refine absurd idle ?_
    split at running <;> exact running
  | cancelInLoop handle =>
    rw [functor] at tracks
    have known := tracks.requested handle List.mem_cons_self
    have ordered := tracks.ordered [] handle _ rfl
    have nothing : s.queue.pendingCalls handle.sequence = 0 :=
      TimerQueue.pendingCalls_idle _ (by simp [TimerQueue.waiting, idle])
    obtain ⟨next, cancelled, follows⟩ := cancelInLoop_linked linked known
      (fun address member owned => absurd (ordered address member owned) List.not_mem_nil)
      nothing positioned (fun running => absurd idle running) (tracks.pop (by simp))
    refine ⟨next, ?_, follows⟩
    simpa [runFunctor, head, functor] using cancelled
  | other =>
    rw [functor] at tracks
    exact ⟨{ s with loop := s.loop.runFunctor }, by simp [runFunctor, head, functor],
      ⟨positioned, linked.invariant, fun running => absurd idle running,
        tracks.pop (by simp), linked.settled⟩, fun sequence member => ⟨member, rfl⟩⟩

/-- Only two steps of the loop leave event handling or read the wakeup channel in it. -/
theorem step_eventful {loop after : EventLoop TimerFunctor}
    {label : EventLoop.Label TimerFunctor} (enabled : loop.Enabled label)
    (stepped : loop.step label = some after) (eventful : loop.phase.eventful = true)
    (stays : label ≠ .handleWakeup ∧ label ≠ .beginFunctors) : after.phase.eventful = true := by
  have inside : ∀ phase, loop.phase = phase → phase.eventful = true := by
    rintro phase rfl
    exact eventful
  cases label with
  | queueInLoop caller functor =>
    cases stepped
    exact eventful
  | quit caller =>
    cases stepped
    exact eventful
  | complete caller =>
    obtain ⟨_, _, _, exact, _⟩ := EventLoop.complete_frame loop caller
    cases (congrArg some exact).symm.trans stepped
    exact eventful
  | handleWakeup => exact absurd rfl stays.1
  | beginFunctors => exact absurd rfl stays.2
  | loop => cases inside _ enabled.2
  | test => cases inside _ enabled
  | poll ready => cases inside _ enabled.1
  | swapFunctors => cases inside _ enabled
  | runFunctor =>
    obtain ⟨_, batch⟩ := enabled
    cases phase : loop.phase <;> simp_all [EventLoop.hasFunctor, Phase.eventful]
  | endFunctors => cases inside _ enabled.2
  | destroyFunctors => cases inside _ enabled.2

theorem loop_linked (linked : Linked s) {label : EventLoop.Label TimerFunctor}
    (enabled : s.Enabled (.loop label)) :
    ∃ next, s.step (.loop label) = some next ∧ Follows s next := by
  obtain ⟨admitted, passes⟩ := enabled
  obtain ⟨loop, stepped, positioned⟩ :=
    EventLoop.step_positioned s.loop label linked.positioned admitted
  have done : s.step (.loop label) = some { s with loop := loop } := by simp [step, stepped]
  refine ⟨_, done, ⟨positioned, linked.invariant, ?_, ?_, linked.settled⟩,
    fun sequence member => ⟨member, rfl⟩⟩
  · intro running
    apply step_eventful admitted stepped (linked.inside running)
    constructor
    · rintro rfl
      exact running passes
    · rintro rfl
      exact running passes
  · by_cases queueing : ∃ caller functor, label = .queueInLoop caller functor
    · obtain ⟨caller, functor, rfl⟩ := queueing
      cases stepped
      cases passes.1
      rw [EventLoop.queueInLoop_backlog]
      apply linked.tracks.extend
      · intro other same
        cases same
      · intro other same
        cases same
      · intro thread call _ _ same
        cases same
    · rw [EventLoop.step_backlog admitted stepped]
      · exact linked.tracks
      · intro caller functor same
        exact queueing ⟨caller, functor, same⟩
      · rintro rfl
        exact passes

/-- Every admitted step that meets the condition succeeds and calls no settled timer. -/
theorem step_linked (s : TimerThreads) (label : Label) (linked : Linked s)
    (enabled : s.Enabled label) (timely : s.Timely label) :
    ∃ next, s.step label = some next ∧ Follows s next := by
  cases label with
  | allocate thread address expiration interval => exact ⟨_, rfl, allocate_linked linked enabled⟩
  | post thread => exact post_linked linked enabled
  | returnId thread sequence => exact returnId_linked linked enabled
  | addTimer address expiration interval clock => exact addTimer_linked linked enabled
  | cancel caller handle => exact cancel_linked linked enabled timely
  | handleRead now readAt =>
    apply onQueue_linked linked (.handleRead now readAt) enabled.2 enabled.1.2
    intro queue begun
    obtain ⟨_, same, _, beginning⟩ :=
      TimerQueue.handleRead_invariant linked.invariant enabled.2 now readAt
    cases same.symm.trans begun
    refine ⟨beginning.posted, beginning.created, ?_⟩
    intro sequence address owned
    simpa only [TimerQueue.owns, beginning.heap] using owned
  | runNext =>
    apply onQueue_linked linked .runNext enabled.2 enabled.1.2
    intro queue called
    obtain ⟨_, _, _, _, _, _, _, exact, _⟩ :=
      TimerQueue.runNext_invariant linked.invariant enabled.2
    cases exact.symm.trans called
    exact ⟨rfl, rfl, fun _ _ owned => owned⟩
  | finishRead clock =>
    apply onQueue_linked linked (.finishRead clock) enabled.2 enabled.1.2
    intro queue finished
    obtain ⟨dispatch, found⟩ := Option.ne_none_iff_exists'.mp enabled.2.1
    exact TimerQueue.finishRead_calm linked.invariant found enabled.2.2 finished
  | runFunctor clock => exact runFunctor_linked linked enabled
  | loop label => exact loop_linked linked enabled

end Steps

instance (s : TimerThreads) : (label : Label) → Decidable (s.Timely label)
  | .cancel .loop _ => instDecidableAnd
  | .cancel (.thread _) _ | .allocate .. | .post _ | .returnId .. | .addTimer ..
  | .handleRead .. | .runNext | .finishRead _ | .runFunctor _ | .loop _ => instDecidableTrue

/-- A timer that is settled is not queued. -/
theorem Linked.unqueued {s : TimerThreads} (linked : Linked s)
    (cancelled : sequence ∈ s.cancelled) (time : Int) (address : Nat) (timer : Timer)
    (queued : toLex (time, address) ∈ s.queue.timers)
    (live : s.queue.heap address = some timer) : timer.sequence ≠ sequence := by
  intro number
  obtain ⟨batched, _⟩ := (linked.settled sequence cancelled).condemned address timer live number
  have outside := List.mem_append_right s.queue.posted batched
  exact ((linked.invariant.shape.places address).mp outside).2 time queued

end TimerThreads

end Moban
