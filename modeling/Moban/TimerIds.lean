import Moban.TimerRace

/-!
# The identifier of a timer that another thread added

A call of `addTimer` in another thread queues the functor that adds the timer and reads the
sequence number afterwards, through the pointer. Until then the loop may add the timer, call it
and delete it. A repeating timer is deleted only by a cancel, which needs the identifier; a
one-shot timer is deleted at the end of the dispatch that has called it. If no dispatch ends
with a one-shot timer whose call of `addTimer` is still in progress, the timer is alive at the
read, and the identifier carries its number.
-/

namespace Moban

open OrderedSets Runs Function

/-! ## Live timers -/

namespace TimerQueue

section Owners

variable {s next : TimerQueue} {sequence : Int} {address : Nat}

/-- Settling these entries does not delete the timer: it is none of them, or it repeats and was
not cancelled. -/
def Spares (s : TimerQueue) (entries : List Entry) (sequence : Int) (address : Nat) : Prop :=
  address ∈ entries.map Entry.timer →
    (∀ timer ∈ s.heap address, timer.repeats = true) ∧
      toLex (address, sequence) ∉ s.cancelingTimers

theorem newTimer_owns (owned : s.owns sequence address = true) {other : Nat}
    (free : s.heap other = none) (expiration : Int) (interval : Interval) :
    (s.newTimer other expiration interval).owns sequence address = true := by
  obtain ⟨timer, live, number⟩ := (owns_iff _ _ _).mp owned
  have apart : address ≠ other := by
    rintro rfl
    cases free.symm.trans live
  exact (owns_iff _ _ _).mpr ⟨timer, by simpa [newTimer, apart] using live, number⟩

theorem cancelInLoop_owns (invariant : Invariant s) (owned : s.owns sequence address = true)
    {id : TimerId} (other : id.sequence ≠ sequence)
    (cancelled : s.cancelInLoop id = some next) : next.owns sequence address = true := by
  obtain ⟨timer, live, number⟩ := (owns_iff _ _ _).mp owned
  obtain ⟨object, found, same, _, done⟩ | ⟨_, _, done⟩ | ⟨_, _, done⟩ :=
    cancelInLoop_cases invariant id <;>
    cases done.symm.trans cancelled
  · have apart : address ≠ id.timer := by
      rintro rfl
      cases live.symm.trans found
      exact other (same.symm.trans number)
    refine (owns_iff _ _ _).mpr ⟨timer, ?_, number⟩
    simpa [dequeued, requested, apart] using live
  · exact owned
  · exact owned

/-- Settling one entry: a timer that is spared is restarted in its own turn. -/
theorem resetOne_owns {entry : Entry} {rest : List Entry}
    (settling : Settling s (entry :: rest)) (owned : s.owns sequence address = true)
    (spared : s.Spares (entry :: rest) sequence address) {now : Int}
    (stepped : resetOne now s entry = some next) :
    next.owns sequence address = true ∧ next.Spares rest sequence address := by
  obtain ⟨timer, live, outcome⟩ := resetOne_cases settling now
  obtain ⟨own, alive, number⟩ := (owns_iff _ _ _).mp owned
  by_cases turn : Entry.timer entry = address
  · subst turn
    cases alive.symm.trans live
    obtain ⟨repeating, uncancelled⟩ := spared List.mem_cons_self
    rcases outcome with ⟨_, _, exactly⟩ | ⟨once | cancelled, _⟩
    · cases exactly.symm.trans stepped
      have restarting : (s.restarted (Entry.timer entry) timer now).heap (Entry.timer entry) =
          some (Timer.restart timer now) := by simp [restarted, enqueued]
      refine ⟨(owns_iff _ _ _).mpr ⟨_, restarting, ?_⟩, fun _ => ⟨?_, uncancelled⟩⟩
      · rw [restart_sequence, number]
      · intro object present
        cases restarting.symm.trans present
        rw [restart_repeats]
        exact repeating timer alive
    · cases once.symm.trans (repeating timer alive)
    · exact absurd (number ▸ cancelled) uncancelled
  · have apart : address ≠ Entry.timer entry := Ne.symm turn
    have others : next.heap address = s.heap address ∧
        next.cancelingTimers = s.cancelingTimers := by
      rcases outcome with ⟨_, _, exactly⟩ | ⟨_, exactly⟩
      · cases exactly.symm.trans stepped
        simp [restarted, enqueued, apart]
      · cases exactly.symm.trans stepped
        simp [discarded, apart]
    refine ⟨(owns_iff _ _ _).mpr ⟨own, others.1.trans alive, number⟩, ?_⟩
    unfold Spares
    rw [others.1, others.2]
    exact fun waits => spared (List.mem_cons_of_mem _ waits)

theorem finishRead_owns (invariant : Invariant s) (owned : s.owns sequence address = true)
    (spared : s.Spares s.batch sequence address) {dispatch : Dispatch}
    (found : s.dispatch = some dispatch) (finished : s.waiting = []) {clock : Readings}
    (done : s.finishRead clock = some next) : next.owns sequence address = true := by
  obtain ⟨settled, folded, exact, _⟩ := finishRead_invariant invariant found finished clock
  cases exact.symm.trans done
  have batch : s.batch = dispatch.expired := by simp [batch, found]
  obtain ⟨_, same, _, live, _⟩ := settle_batch
    (fun later rest => later.owns sequence address = true ∧ later.Spares rest sequence address)
    dispatch.now
    (fun _ _ _ _ settling property stepped =>
      resetOne_owns settling property.1 property.2 stepped)
    s.called dispatch.expired (called_settling invariant found finished)
    ⟨owned, batch ▸ spared⟩
  cases folded.symm.trans same
  simpa only [owns, (rearmed_frame settled clock).1] using live

/-- A step of the queue that neither cancels this number nor ends a dispatch that deletes its
timer leaves the timer alive. -/
theorem step_owns {label : Label} (invariant : Invariant s) (enabled : s.Enabled label)
    (owned : s.owns sequence address = true)
    (other : ∀ id, label = .cancelInLoop id → id.sequence ≠ sequence)
    (spared : ∀ clock, label = .finishRead clock → s.Spares s.batch sequence address)
    (stepped : s.step label = some next) : next.owns sequence address = true := by
  cases label with
  | newTimer created expiration interval =>
    cases stepped
    exact newTimer_owns owned enabled.1 expiration interval
  | addTimerInLoop added clock =>
    obtain ⟨timer, _, exact, _⟩ := addTimerInLoop_invariant invariant enabled clock
    cases exact.symm.trans stepped
    split <;> exact owned
  | cancelInLoop id => exact cancelInLoop_owns invariant owned (other id rfl) stepped
  | handleRead now readAt =>
    obtain ⟨_, same, _, beginning⟩ := handleRead_invariant invariant enabled now readAt
    cases same.symm.trans stepped
    simpa only [owns, beginning.heap] using owned
  | runNext =>
    obtain ⟨_, _, _, _, _, _, _, exact, _⟩ := runNext_invariant invariant enabled
    cases exact.symm.trans stepped
    exact owned
  | finishRead clock =>
    obtain ⟨dispatch, found⟩ := Option.ne_none_iff_exists'.mp enabled.1
    exact finishRead_owns invariant owned (spared clock rfl) found enabled.2 stepped

/-- Only a cancel is remembered as one. -/
theorem step_canceling {label : Label} (invariant : Invariant s) (enabled : s.Enabled label)
    (stepped : s.step label = some next) {active : ActiveTimer}
    (member : active ∈ next.cancelingTimers) :
    active ∈ s.cancelingTimers ∨
      ∃ id, label = .cancelInLoop id ∧ active = toLex (id.timer, id.sequence) := by
  cases label with
  | newTimer created expiration interval =>
    cases stepped
    exact .inl member
  | addTimerInLoop added clock =>
    obtain ⟨timer, _, exact, _⟩ := addTimerInLoop_invariant invariant enabled clock
    cases exact.symm.trans stepped
    split at member <;> exact .inl member
  | cancelInLoop id =>
    obtain ⟨_, _, _, _, done⟩ | ⟨_, _, done⟩ | ⟨_, _, done⟩ :=
      cancelInLoop_cases invariant id <;>
      cases done.symm.trans stepped
    · exact .inl member
    · rcases (OrderedSet.mem_insert _ _ _).mp member with same | old
      · exact .inr ⟨id, rfl, same⟩
      · exact .inl old
    · exact .inl member
  | handleRead now readAt =>
    obtain ⟨⟨expired, taken⟩, _, result⟩ := Option.bind_eq_some_iff.mp stepped
    cases result
    exact absurd member (OrderedSet.not_mem_empty _)
  | runNext =>
    obtain ⟨_, _, _, _, _, _, _, exact, _⟩ := runNext_invariant invariant enabled
    cases exact.symm.trans stepped
    exact .inl member
  | finishRead clock =>
    obtain ⟨dispatch, found⟩ := Option.ne_none_iff_exists'.mp enabled.1
    obtain ⟨settled, folded, exact, _⟩ :=
      finishRead_invariant invariant found enabled.2 clock
    cases exact.symm.trans stepped
    obtain ⟨_, same, _, kept⟩ := settle_batch
      (fun later _ => later.cancelingTimers = s.cancelingTimers) dispatch.now
      (by
        intro before entry rest after settling kept stepped
        obtain ⟨_, _, ⟨_, _, done⟩ | ⟨_, done⟩⟩ := resetOne_cases settling dispatch.now <;>
          (cases done.symm.trans stepped; exact kept))
      s.called dispatch.expired (called_settling invariant found enabled.2) rfl
    cases folded.symm.trans same
    have rearming : (settled.rearmed clock).cancelingTimers = settled.cancelingTimers := by
      unfold rearmed
      split
      · rfl
      · split <;> rfl
    rw [rearming, kept] at member
    exact .inl member

end Owners

end TimerQueue

namespace TimerThreads

/-! ## Numbers of calls and handles -/

/-- The timer of a call in progress is alive, its number belongs to this call alone, and no
handle carries it. Handles carry the numbers of their timers, and only they are used to
cancel. -/
structure Identifying (queue : TimerQueue) (adding : Nat → Option Adding)
    (handles : List Handle) : Prop where
  live : ∀ thread call, adding thread = some call →
    queue.owns call.sequence call.address = true
  apart : ∀ thread other call second, adding thread = some call → adding other = some second →
    call.sequence = second.sequence → thread = other
  unreturned : ∀ handle ∈ handles, ∀ thread call, adding thread = some call →
    handle.sequence ≠ call.sequence
  returned : ∀ handle ∈ handles, handle.id.sequence = handle.sequence
  canceling : ∀ address sequence, toLex (address, sequence) ∈ queue.cancelingTimers →
    ∃ handle ∈ handles, handle.id.sequence = sequence

section Identifying

variable {queue next : TimerQueue} {adding : Nat → Option Adding} {handles : List Handle}
  {thread : Nat} {call : Adding}

/-- A step of the queue. A cancel comes from a handle, and a dispatch that ends deletes no
one-shot timer of a call in progress. -/
theorem Identifying.step (identifying : Identifying queue adding handles)
    (label : TimerQueue.Label) (invariant : TimerQueue.Invariant queue)
    (enabled : queue.Enabled label)
    (request : ∀ id, label = .cancelInLoop id → ∃ handle ∈ handles, handle.id = id)
    (patient : ∀ clock, label = .finishRead clock → ∀ thread call, adding thread = some call →
      call.address ∈ queue.batch.map Entry.timer →
        ∀ timer ∈ queue.heap call.address, timer.repeats = true)
    (stepped : queue.step label = some next) : Identifying next adding handles := by
  refine { identifying with live := ?_, canceling := ?_ }
  · intro thread call progress
    refine TimerQueue.step_owns invariant enabled (identifying.live thread call progress) ?_ ?_
      stepped
    · intro id same
      obtain ⟨handle, known, rfl⟩ := request id same
      rw [identifying.returned handle known]
      exact identifying.unreturned handle known thread call progress
    · intro clock same batched
      refine ⟨patient clock same thread call progress batched, ?_⟩
      intro canceling
      obtain ⟨handle, known, number⟩ := identifying.canceling _ _ canceling
      rw [identifying.returned handle known] at number
      exact identifying.unreturned handle known thread call progress number
  · intro address sequence member
    rcases TimerQueue.step_canceling invariant enabled stepped member with old | ⟨id, same, new⟩
    · exact identifying.canceling address sequence old
    · obtain ⟨handle, known, rfl⟩ := request id same
      obtain ⟨_, rfl⟩ := (TimerQueue.pair_eq _ _ _ _).mp new
      exact ⟨handle, known, rfl⟩

/-- A thread begins a call, or proceeds in it. -/
theorem Identifying.record (identifying : Identifying queue adding handles)
    (live : queue.owns call.sequence call.address = true)
    (fresh : ∀ other second, other ≠ thread → adding other = some second →
      second.sequence ≠ call.sequence)
    (unreturned : ∀ handle ∈ handles, handle.sequence ≠ call.sequence) :
    Identifying queue (update adding thread (some call)) handles := by
  have cases' : ∀ other found, update adding thread (some call) other = some found →
      other = thread ∧ found = call ∨ other ≠ thread ∧ adding other = some found := by
    intro other found progress
    rw [update_apply] at progress
    split at progress
    · exact .inl ⟨‹_›, (Option.some.inj progress).symm⟩
    · exact .inr ⟨‹_›, progress⟩
  refine { identifying with live := ?_, apart := ?_, unreturned := ?_ }
  · intro other found progress
    rcases cases' other found progress with ⟨rfl, rfl⟩ | ⟨_, old⟩
    · exact live
    · exact identifying.live other found old
  · intro first second left right atFirst atSecond same
    rcases cases' first left atFirst with ⟨rfl, rfl⟩ | ⟨away, old⟩
    · rcases cases' second right atSecond with ⟨rfl, rfl⟩ | ⟨other, older⟩
      · rfl
      · exact absurd same.symm (fresh second right other older)
    · rcases cases' second right atSecond with ⟨rfl, rfl⟩ | ⟨_, older⟩
      · exact absurd same (fresh first left away old)
      · exact identifying.apart first second left right old older same
  · intro handle known other found progress
    rcases cases' other found progress with ⟨rfl, rfl⟩ | ⟨_, old⟩
    · exact unreturned handle known
    · exact identifying.unreturned handle known other found old

/-- A handle with its true number joins the others. -/
theorem Identifying.handle (identifying : Identifying queue adding handles) {handle : Handle}
    (named : handle.id.sequence = handle.sequence)
    (fresh : ∀ thread call, adding thread = some call → handle.sequence ≠ call.sequence) :
    Identifying queue adding (handle :: handles) := by
  refine { identifying with unreturned := ?_, returned := ?_, canceling := ?_ }
  · intro other member
    rcases List.mem_cons.mp member with rfl | old
    · exact fresh
    · exact identifying.unreturned other old
  · intro other member
    rcases List.mem_cons.mp member with rfl | old
    · exact named
    · exact identifying.returned other old
  · intro address sequence member
    obtain ⟨other, known, number⟩ := identifying.canceling address sequence member
    exact ⟨other, List.mem_cons_of_mem _ known, number⟩

/-- A call returns with the number of its timer. -/
theorem Identifying.finish (identifying : Identifying queue adding handles)
    (progress : adding thread = some call) {handle : Handle}
    (named : handle.id.sequence = handle.sequence) (own : handle.sequence = call.sequence) :
    Identifying queue (update adding thread none) (handle :: handles) := by
  have still : ∀ other found, update adding thread none other = some found →
      other ≠ thread ∧ adding other = some found := by
    intro other found later
    rw [update_apply] at later
    split at later
    · cases later
    · exact ⟨‹_›, later⟩
  have forgotten : Identifying queue (update adding thread none) handles := by
    refine { identifying with live := ?_, apart := ?_, unreturned := ?_ }
    · exact fun other found later => identifying.live other found (still other found later).2
    · exact fun first second left right atFirst atSecond => identifying.apart first second left
        right (still first left atFirst).2 (still second right atSecond).2
    · exact fun handle known other found later => identifying.unreturned handle known other found
        (still other found later).2
  refine forgotten.handle named ?_
  intro other found later same
  obtain ⟨away, before⟩ := still other found later
  exact away (identifying.apart other thread found call before progress (same.symm.trans own))

end Identifying

/-! ## Runs -/

/-- The threads without the account of processed cancels, which nothing here depends on. -/
def unsettled (s : TimerThreads) : TimerThreads := { s with cancelled := [] }

section Steps

variable {s next : TimerThreads} {label : Label}

theorem step_unsettled (s : TimerThreads) (label : Label) :
    (s.unsettled.step label).map unsettled = (s.step label).map unsettled := by
  have queue : ∀ label, (s.unsettled.onQueue label).map unsettled =
      (s.onQueue label).map unsettled := by
    intro label
    simp only [onQueue, Option.bind_eq_bind, Option.map_bind]
    rfl
  have cancelling : ∀ loop handle,
      ({ s.unsettled with loop := loop }.cancelInLoop handle).map unsettled =
        ({ s with loop := loop }.cancelInLoop handle).map unsettled := by
    intro loop handle
    simp only [cancelInLoop, Option.bind_eq_bind, Option.map_bind]
    rfl
  cases label with
  | allocate thread address expiration interval => rfl
  | post thread =>
    simp only [step, post, Option.bind_eq_bind, Option.map_bind]
    rfl
  | returnId thread sequence =>
    simp only [step, returnId, Option.bind_eq_bind, Option.map_bind]
    rfl
  | addTimer address expiration interval clock =>
    simp only [step, addTimer, Option.bind_eq_bind, Option.map_bind, comp_def]
    rfl
  | cancel caller handle =>
    cases caller with
    | loop => exact cancelling s.loop handle
    | thread identifier => rfl
  | handleRead now readAt => exact queue (.handleRead now readAt)
  | runNext => exact queue .runNext
  | finishRead clock => exact queue (.finishRead clock)
  | runFunctor clock =>
    simp only [step, runFunctor, Option.bind_eq_bind, Option.map_bind]
    show s.loop.phase.functors.head?.bind _ = _
    congr 1
    funext task
    simp only [comp_apply]
    cases task.functor with
    | addTimerInLoop address =>
      simp only [Option.map_bind]
      rfl
    | cancelInLoop handle => exact cancelling _ handle
    | other => rfl
  | loop label =>
    simp only [step, Option.bind_eq_bind, Option.map_bind]
    rfl

/-- What a cancel in the loop thread leaves in place, even if it is not made in time. -/
theorem cancel_consistent (linked : Linked s) {handle : Handle}
    (done : s.cancelInLoop handle = some next) : Linked next.unsettled := by
  obtain ⟨queue, cancelled, result⟩ := Option.bind_eq_some_iff.mp done
  cases result
  obtain ⟨_, stepped, kept⟩ := TimerQueue.cancelInLoop_invariant linked.invariant handle.id
  cases stepped.symm.trans cancelled
  have calm := TimerQueue.cancelInLoop_calm linked.invariant cancelled
  refine ⟨linked.positioned, kept, ?_, linked.tracks.calm calm, nofun⟩
  show queue.dispatch ≠ none → _
  rw [TimerQueue.cancelInLoop_dispatch linked.invariant cancelled]
  exact linked.inside

theorem step_consistent (linked : Linked s.unsettled) (enabled : s.Enabled label)
    (done : s.step label = some next) : Linked next.unsettled := by
  have same := step_unsettled s label
  rw [done, Option.map_some] at same
  obtain ⟨shadow, stepped, equal⟩ := Option.map_eq_some_iff.mp same
  rw [← equal]
  by_cases timely : s.unsettled.Timely label
  · have enabled' : s.unsettled.Enabled label := by cases label <;> exact enabled
    obtain ⟨_, reached, follows, _⟩ := step_linked s.unsettled label linked enabled' timely
    cases reached.symm.trans stepped
    exact { follows with settled := nofun }
  · cases label with
    | cancel caller handle =>
      cases caller with
      | loop => exact cancel_consistent linked stepped
      | thread identifier => exact absurd trivial timely
    | _ => exact absurd trivial timely

/-- What holds between any two steps. -/
structure Identified (s : TimerThreads) : Prop where
  linked : Linked s.unsettled
  identifying : Identifying s.queue s.adding s.handles

theorem initial_identified : Identified initial := by
  refine ⟨{ initial_linked with settled := nofun }, nofun, nofun, ?_, ?_, ?_⟩
  · exact fun _ _ => nofun
  · intro handle member
    cases List.mem_singleton.mp member
    rfl
  · intro address sequence member
    exact absurd member (OrderedSet.not_mem_empty _)

/-- The condition on a step: the end of a dispatch finds no one-shot timer in the batch whose
call of `addTimer` is still in progress. -/
def Patient (s : TimerThreads) : Label → Prop
  | .finishRead _ => ∀ thread call, s.adding thread = some call →
      call.address ∈ s.queue.batch.map Entry.timer →
        ∀ timer ∈ s.queue.heap call.address, timer.repeats = true
  | _ => True

/-- What a call of `addTimer` reads: the timer at the address is alive, it is the one that the
call has created, and the number that is read is the number it was created under. -/
def Identifies (s : TimerThreads) : Label → Prop
  | .returnId thread sequence => ∃ call timer, s.adding thread = some call ∧
      s.queue.heap call.address = some timer ∧ timer.sequence = call.sequence ∧
      sequence = call.sequence ∧ .created call.address call.sequence timer.repeats ∈ s.queue.log
  | _ => True

theorem reads_own (identified : Identified s) {thread : Nat} {sequence : Int}
    (enabled : s.Enabled (.returnId thread sequence)) :
    s.Identifies (.returnId thread sequence) := by
  obtain ⟨_, found, reads⟩ := enabled
  obtain ⟨call, progress, _⟩ := isAdding_inv found
  obtain ⟨timer, live, number⟩ :=
    (TimerQueue.owns_iff _ _ _).mp (identified.identifying.live thread call progress)
  have recorded := identified.linked.invariant.numbering.recorded call.address timer live
  refine ⟨call, timer, progress, live, number, ?_, number ▸ recorded⟩
  exact (reads call progress timer live).symm.trans number

theorem onQueue_identifying (identified : Identified s) {label : TimerQueue.Label}
    (enabled : s.queue.Enabled label)
    (request : ∀ id, label = .cancelInLoop id → ∃ handle ∈ s.handles, handle.id = id)
    (patient : ∀ clock, label = .finishRead clock → s.Patient (.finishRead clock))
    (done : s.onQueue label = some next) :
    Identifying next.queue next.adding next.handles := by
  obtain ⟨queue, stepped, result⟩ := Option.bind_eq_some_iff.mp done
  cases result
  exact identified.identifying.step label identified.linked.invariant enabled request patient
    stepped

theorem cancelInLoop_identifying (identified : Identified s) {handle : Handle}
    (known : handle ∈ s.handles) {loop : EventLoop TimerFunctor}
    (done : { s with loop := loop }.cancelInLoop handle = some next) :
    Identifying next.queue next.adding next.handles := by
  obtain ⟨queue, stepped, result⟩ := Option.bind_eq_some_iff.mp done
  cases result
  refine identified.identifying.step (.cancelInLoop handle.id) identified.linked.invariant
    trivial ?_ nofun stepped
  rintro id same
  cases same
  exact ⟨handle, known, rfl⟩

/-- A new timer has a number that no call and no handle carries. -/
theorem Identified.fresh (identified : Identified s) :
    (∀ thread call, s.adding thread = some call → call.sequence ≠ s.queue.numCreated + 1) ∧
      ∀ handle ∈ s.handles, handle.sequence ≠ s.queue.numCreated + 1 := by
  constructor
  · intro thread call progress
    have known := (identified.linked.tracks.called thread call progress).1
    have same : s.unsettled.queue.numCreated = s.queue.numCreated := rfl
    omega
  · intro handle member
    have known := (identified.linked.tracks.returned handle member).1
    have same : s.unsettled.queue.numCreated = s.queue.numCreated := rfl
    omega

theorem allocate_identifying (identified : Identified s) {thread address : Nat}
    {expiration : Int} {interval : Interval}
    (enabled : s.queue.Enabled (.newTimer address expiration interval)) :
    Identifying (s.allocate thread address expiration interval).queue
      (s.allocate thread address expiration interval).adding s.handles := by
  obtain ⟨calls, handles⟩ := identified.fresh
  have created : Identifying (s.queue.newTimer address expiration interval) s.adding s.handles :=
    identified.identifying.step _ identified.linked.invariant enabled nofun nofun rfl
  refine created.record ?_ ?_ ?_
  · simp [TimerQueue.owns, TimerQueue.newTimer]
  · exact fun other second _ progress => calls other second progress
  · exact handles

theorem post_identifying (identified : Identified s) {thread : Nat}
    (done : s.post thread = some next) : Identifying next.queue next.adding next.handles := by
  obtain ⟨call, progress, result⟩ := Option.bind_eq_some_iff.mp done
  cases result
  have identifying := identified.identifying
  refine identifying.record (identifying.live thread call progress) ?_ ?_
  · intro other second away found same
    exact away (identifying.apart other thread second call found progress same)
  · exact fun handle known => identifying.unreturned handle known thread call progress

theorem returnId_identifying (identified : Identified s) {thread : Nat} {sequence : Int}
    (enabled : s.Enabled (.returnId thread sequence))
    (done : s.returnId thread sequence = some next) :
    Identifying next.queue next.adding next.handles := by
  obtain ⟨call, _, progress, _, _, number, _⟩ := reads_own identified enabled
  obtain ⟨found, same, result⟩ := Option.bind_eq_some_iff.mp done
  cases progress.symm.trans same
  cases result
  exact identified.identifying.finish progress number rfl

theorem addTimer_identifying (identified : Identified s) {address : Nat} {expiration : Int}
    {interval : Interval} {clock : Readings}
    (enabled : s.queue.Enabled (.newTimer address expiration interval))
    (done : s.addTimer address expiration interval clock = some next) :
    Identifying next.queue next.adding next.handles := by
  obtain ⟨calls, _⟩ := identified.fresh
  have created : Identifying (s.queue.newTimer address expiration interval) s.adding s.handles :=
    identified.identifying.step _ identified.linked.invariant enabled nofun nofun rfl
  have invariant := TimerQueue.newTimer_invariant identified.linked.invariant enabled.1 enabled.2
    expiration interval
  have posted : address ∈ (s.queue.newTimer address expiration interval).posted :=
    List.mem_cons_self
  obtain ⟨queue, added, rest⟩ := Option.bind_eq_some_iff.mp done
  obtain ⟨timer, live, result⟩ := Option.bind_eq_some_iff.mp rest
  cases result
  refine (created.step (.addTimerInLoop address clock) invariant posted nofun nofun added).handle
    ?_ ?_
  · have owned := (addTimerInLoop_added invariant posted added).owned
      (s.queue.numCreated + 1) address
    have own : (s.queue.newTimer address expiration interval).owns (s.queue.numCreated + 1)
        address = true := by simp [TimerQueue.owns, TimerQueue.newTimer]
    obtain ⟨object, found, number⟩ := (TimerQueue.owns_iff _ _ _).mp (owned.trans own)
    cases live.symm.trans found
    exact number
  · exact fun thread call progress => (calls thread call progress).symm

theorem runFunctor_identifying (identified : Identified s) {clock : Readings}
    (enabled : s.Enabled (.runFunctor clock)) (done : s.runFunctor clock = some next) :
    Identifying next.queue next.adding next.handles := by
  obtain ⟨task, head, backlog⟩ := EventLoop.runFunctor_backlog enabled.2
  have tracks := identified.linked.tracks
  rw [show s.unsettled.loop.backlog = _ from backlog] at tracks
  obtain ⟨_, found, result⟩ := Option.bind_eq_some_iff.mp done
  cases head.symm.trans found
  split at result
  case h_1 address functor =>
    rw [functor] at tracks
    obtain ⟨queue, added, finished⟩ := Option.bind_eq_some_iff.mp result
    cases finished
    exact identified.identifying.step (.addTimerInLoop address clock) identified.linked.invariant
      (tracks.posted address List.mem_cons_self) nofun nofun added
  case h_2 handle functor =>
    rw [functor] at tracks
    exact cancelInLoop_identifying identified (tracks.requested handle List.mem_cons_self) result
  · cases result
    exact identified.identifying

theorem step_identified (identified : Identified s) (enabled : s.Enabled label)
    (patient : s.Patient label) (done : s.step label = some next) : Identified next := by
  refine ⟨step_consistent identified.linked enabled done, ?_⟩
  cases label with
  | allocate thread address expiration interval =>
    cases done
    exact allocate_identifying identified enabled.2.2
  | post thread => exact post_identifying identified done
  | returnId thread sequence => exact returnId_identifying identified enabled done
  | addTimer address expiration interval clock =>
    exact addTimer_identifying identified enabled.2 done
  | cancel caller handle =>
    cases caller with
    | loop => exact cancelInLoop_identifying identified enabled.2.2 done
    | thread identifier =>
      cases done
      exact identified.identifying
  | handleRead now readAt => exact onQueue_identifying identified enabled.2 nofun nofun done
  | runNext => exact onQueue_identifying identified enabled.2 nofun nofun done
  | finishRead clock =>
    refine onQueue_identifying identified enabled.2 nofun ?_ done
    rintro later same
    exact patient
  | runFunctor clock => exact runFunctor_identifying identified enabled done
  | loop label =>
    obtain ⟨loop, _, result⟩ := Option.bind_eq_some_iff.mp done
    cases result
    exact identified.identifying

end Steps

/-- In every run in which no dispatch ends with a one-shot timer whose call of `addTimer` is in
progress, every call reads the number of its own timer, which is alive.

Proof: the number of a call in progress is known to no handle, so no cancel names it; and the
end of a dispatch deletes only one-shot and cancelled timers. So the timer of the call is alive
until the call returns. -/
theorem ids_identify (labels : List Label) (valid : system.Valid initial labels)
    (patient : system.Along Patient initial labels) :
    system.Along Identifies initial labels := by
  refine System.along_invariant Identified ?_ ?_ initial labels initial_identified
    ((System.along_and _ _ _ _).mpr ⟨valid, patient⟩)
  · rintro s label next identified ⟨enabled, condition⟩ done
    exact step_identified identified enabled condition done
  · rintro s label identified ⟨enabled, _⟩
    cases label with
    | returnId thread sequence => exact reads_own identified enabled
    | _ => trivial

/-- Another thread adds a timer. The loop adds it, and calls it once before the thread reads the
number. -/
def calledBeforeRead (interval : Interval) : List Label :=
  [.loop .loop, .loop .test, .allocate 0 16 5 interval, .post 0, .loop (.complete (.thread 0)),
    .loop (.poll true), .loop .handleWakeup, .loop .beginFunctors, .loop .swapFunctors,
    .runFunctor (.once 1), .loop .endFunctors, .loop .destroyFunctors, .loop .test,
    .loop (.poll false), .handleRead 7 7, .runNext, .finishRead (.once 8)]

/-- A repeating timer is alive when its number is read. -/
theorem ids_identify_called :
    system.Along Identifies initial (calledBeforeRead (.every 3) ++ [.returnId 0 1]) := by
  refine ids_identify _ (by decide) ?_
  iterate 16
    refine ⟨trivial, fun _ stepped => ?_⟩
    cases stepped
  refine ⟨?_, fun _ stepped => ?_⟩
  · rintro (_ | _) call progress _ timer live
    · cases progress
      cases live
      rfl
    · cases progress
  · cases stepped
    exact ⟨trivial, fun _ _ => trivial⟩

/-- A one-shot timer is deleted when it was called. The call is in progress and its timer does not
exist: any number may be read. -/
theorem read_of_deleted_timer : system.Valid initial (calledBeforeRead .oneShot) ∧
      ∃ s, system.run initial (calledBeforeRead .oneShot) = some s ∧
        s.queue.heap 16 = none ∧
        s.adding 0 = some { address := 16, sequence := 1, posted := true } ∧
        ∀ sequence, s.Enabled (.returnId 0 sequence) ∧ ¬ s.Identifies (.returnId 0 sequence) := by
  refine ⟨by decide, _, rfl, rfl, rfl, fun sequence => ⟨⟨by decide, by decide, ?_⟩, ?_⟩⟩
  · intro call progress timer live
    cases progress
    cases live
  · rintro ⟨call, timer, progress, live, _⟩
    cases progress
    cases live

end TimerThreads

end Moban
