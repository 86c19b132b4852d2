import Moban.TimerRuns

/-!
# Cancelling in the loop thread

A cancel deletes a queued timer at once. A timer of the batch being dispatched is in
neither set, so its identifier is only remembered, and the remembered identifiers are
consulted when the batch is settled. The loop over the batch does not consult them: a
callback that was still to be called when the cancel returned is called all the same.

The account below is exact. From the cancel on, the calls of the timer that have been
made and those that its dispatch still owes add up to a constant.
-/

namespace Moban

open OrderedSets Runs Function

namespace TimerQueue

/-- The live timer at this address has this sequence number. -/
def owns (s : TimerQueue) (sequence : Int) (address : Nat) : Bool :=
  match s.heap address with
  | none => false
  | some timer => timer.sequence == sequence

/-- The calls of a timer that the dispatch in progress has still to make. -/
def pendingCalls (s : TimerQueue) (sequence : Int) : Nat :=
  s.waiting.countP fun entry => s.owns sequence (Entry.timer entry)

theorem owns_iff (s : TimerQueue) (sequence : Int) (address : Nat) :
    s.owns sequence address = true ↔
      ∃ timer, s.heap address = some timer ∧ timer.sequence = sequence := by
  unfold owns
  cases s.heap address <;> simp

/-- Pending calls depend only on the waiting entries and on their timers. -/
theorem pendingCalls_congr (s next : TimerQueue) (sequence : Int)
    (waiting : next.waiting = s.waiting)
    (heap : ∀ entry ∈ s.waiting, next.heap (Entry.timer entry) = s.heap (Entry.timer entry)) :
    next.pendingCalls sequence = s.pendingCalls sequence := by
  unfold pendingCalls
  rw [waiting]
  apply List.countP_congr
  intro entry member
  simp only [owns, heap entry member]

theorem pendingCalls_idle {s : TimerQueue} (sequence : Int) (idle : s.waiting = []) :
    s.pendingCalls sequence = 0 := by
  simp [pendingCalls, idle]

/-- Without a live timer of this number nothing is pending. -/
theorem pendingCalls_dead {s : TimerQueue} {sequence : Int}
    (dead : ∀ address timer, s.heap address = some timer → timer.sequence ≠ sequence) :
    s.pendingCalls sequence = 0 := by
  apply List.countP_eq_zero.mpr
  intro entry _ owned
  obtain ⟨timer, live, same⟩ := (owns_iff s sequence (Entry.timer entry)).mp owned
  exact dead _ timer live same

/-- The calls still to make belong to the batch. -/
theorem Invariant.waiting_batched {s : TimerQueue} (invariant : Invariant s) (entry : Entry)
    (member : entry ∈ s.waiting) : entry ∈ s.batch := by
  cases found : s.dispatch with
  | none => simp [waiting, found] at member
  | some dispatch =>
    have remaining : entry ∈ dispatch.remaining := by simpa [waiting, found] using member
    have batched := (invariant.due dispatch found).2.subset remaining
    simpa [batch, found] using batched

/-- A timer that has been cancelled: if it is still alive it stands in the batch and will
be deleted with it, and the number of its calls is settled. -/
structure Doomed (sequence : Int) (calls : Nat) (s : TimerQueue) : Prop where
  numbered : sequence ≤ s.numCreated
  condemned : ∀ address timer, s.heap address = some timer → timer.sequence = sequence →
    address ∈ s.batch.map Entry.timer ∧ toLex (address, sequence) ∈ s.cancelingTimers
  counted : TimerEvent.runs s.log sequence + s.pendingCalls sequence = calls

variable {id : TimerId} {s next : TimerQueue}

section Steps

variable {sequence : Int} {calls : Nat}

/-- Between dispatches a cancelled timer is no longer alive. -/
theorem Doomed.dead (doomed : Doomed sequence calls s) (idle : s.dispatch = none)
    (address : Nat) (timer : Timer) (live : s.heap address = some timer) :
    timer.sequence ≠ sequence := by
  intro same
  obtain ⟨batched, _⟩ := doomed.condemned address timer live same
  simp [batch, idle] at batched

theorem newTimer_doomed (invariant : Invariant s) (doomed : Doomed sequence calls s)
    {address : Nat} (free : s.heap address = none) (expiration : Int) (interval : Interval) :
    Doomed sequence calls (s.newTimer address expiration interval) := by
  have numbered := doomed.numbered
  have untouched : ∀ entry ∈ s.waiting,
      (s.newTimer address expiration interval).heap (Entry.timer entry) =
        s.heap (Entry.timer entry) := by
    intro entry member
    have apart : Entry.timer entry ≠ address := by
      intro same
      apply invariant.free_idle free
      exact same ▸ List.mem_map_of_mem (invariant.waiting_batched entry member)
    simp only [newTimer, update_of_ne apart]
  constructor
  · simp only [newTimer]
    omega
  · intro other timer live same
    simp only [newTimer, update_apply] at live
    split at live
    · cases live
      simp only at same
      omega
    · exact doomed.condemned other timer live same
  · rw [pendingCalls_congr s (s.newTimer address expiration interval) sequence rfl untouched]
    simpa [newTimer, TimerEvent.runs_snoc, TimerEvent.isRun] using doomed.counted

theorem addTimerInLoop_doomed (invariant : Invariant s) (doomed : Doomed sequence calls s)
    {address : Nat} (posted : address ∈ s.posted) {clock : Readings}
    (added : s.addTimerInLoop address clock = some next) : Doomed sequence calls next := by
  obtain ⟨timer, _, exact, _⟩ := addTimerInLoop_invariant invariant posted clock
  rw [exact] at added
  have kept : Doomed sequence calls
      { s.enqueued address timer with
        posted := s.posted.erase address
        log := s.log ++ [.added address timer.sequence] } := by
    refine ⟨doomed.numbered, doomed.condemned, ?_⟩
    rw [TimerEvent.runs_snoc]
    exact doomed.counted
  split at added
  · cases added
    exact ⟨kept.numbered, kept.condemned, kept.counted⟩
  · cases added
    exact kept

/-- The timer that a cancel deletes is queued and so does not wait to be called. -/
theorem dequeued_pendingCalls (invariant : Invariant s) {address : Nat} {timer : Timer}
    (queued : toLex (timer.expiration, address) ∈ s.timers) :
    (s.dequeued address timer).pendingCalls sequence = s.pendingCalls sequence := by
  apply pendingCalls_congr s (s.dequeued address timer) sequence rfl
  intro entry member
  have apart : Entry.timer entry ≠ address := by
    intro same
    have batched := List.mem_map_of_mem (f := Entry.timer) (invariant.waiting_batched entry member)
    have outside := List.mem_append_right s.posted batched
    exact ((invariant.shape.places _).mp outside).2 timer.expiration (same ▸ queued)
  simp only [dequeued, update_of_ne apart]

/-- A cancel makes no call, and no call that was still to make disappears. -/
theorem cancelInLoop_calls (sequence : Int) (invariant : Invariant s)
    (cancelled : s.cancelInLoop id = some next) :
    TimerEvent.runs next.log sequence + next.pendingCalls sequence =
      TimerEvent.runs s.log sequence + s.pendingCalls sequence := by
  have asked : TimerEvent.runs (s.requested id).log sequence = TimerEvent.runs s.log sequence :=
    TimerEvent.runs_snoc _ _ _
  obtain ⟨timer, live, _, queued, done⟩ | ⟨_, _, done⟩ | ⟨_, _, done⟩ :=
    cancelInLoop_cases invariant id <;>
    cases done.symm.trans cancelled
  · have removed : TimerEvent.runs ((s.requested id).dequeued id.timer timer).log sequence =
        TimerEvent.runs (s.requested id).log sequence := TimerEvent.runs_snoc _ _ _
    rw [removed, asked, dequeued_pendingCalls (requested_invariant invariant id) queued]
    rfl
  · rw [← asked]
    rfl
  · rw [asked]
    rfl

theorem cancelInLoop_doomed (invariant : Invariant s) (doomed : Doomed sequence calls s)
    (cancelled : s.cancelInLoop id = some next) : Doomed sequence calls next := by
  have counted := (cancelInLoop_calls sequence invariant cancelled).trans doomed.counted
  obtain ⟨timer, _, _, _, done⟩ | ⟨_, _, done⟩ | ⟨_, _, done⟩ :=
    cancelInLoop_cases invariant id <;>
    cases done.symm.trans cancelled
  · refine ⟨doomed.numbered, ?_, counted⟩
    intro address object live same
    simp only [dequeued, requested, update_apply] at live
    split at live
    · cases live
    · exact doomed.condemned address object live same
  · refine ⟨doomed.numbered, ?_, counted⟩
    intro address object live same
    obtain ⟨batched, canceling⟩ := doomed.condemned address object live same
    exact ⟨batched, (OrderedSet.mem_insert _ _ _).mpr (Or.inr canceling)⟩
  · exact ⟨doomed.numbered, doomed.condemned, counted⟩

/-- No new dispatch takes up a cancelled timer. -/
theorem handleRead_doomed (invariant : Invariant s) (doomed : Doomed sequence calls s)
    (idle : s.dispatch = none) {now readAt : Int}
    (begun : s.handleRead now readAt = some next) : Doomed sequence calls next := by
  obtain ⟨_, same, _, beginning⟩ := handleRead_invariant invariant idle now readAt
  cases same.symm.trans begun
  have dead : ∀ address timer, next.heap address = some timer → timer.sequence ≠ sequence := by
    intro address timer live
    exact doomed.dead idle address timer (beginning.heap ▸ live)
  have counted := doomed.counted
  rw [pendingCalls_idle sequence (by simp [waiting, idle])] at counted
  refine ⟨beginning.created ▸ doomed.numbered, ?_, ?_⟩
  · intro address timer live number
    exact absurd number (dead address timer live)
  · rw [pendingCalls_dead dead, beginning.log]
    exact counted

/-- A call that is made is one call less to make. -/
theorem runNext_doomed (invariant : Invariant s) (doomed : Doomed sequence calls s)
    (pending : s.waiting ≠ []) (stepped : s.runNext = some next) :
    Doomed sequence calls next := by
  obtain ⟨dispatch, entry, rest, timer, found, remaining, live, exact, _⟩ :=
    runNext_invariant invariant pending
  cases exact.symm.trans stepped
  refine ⟨doomed.numbered, ?_, ?_⟩
  · intro address object alive same
    obtain ⟨batched, canceling⟩ := doomed.condemned address object alive same
    refine ⟨?_, canceling⟩
    simpa [batch, found] using batched
  · have counted := doomed.counted
    have waits : s.waiting = entry :: rest := by simp [waiting, found, remaining]
    rw [pendingCalls, waits, List.countP_cons] at counted
    rw [TimerEvent.runs_snoc]
    have owner : s.owns sequence (Entry.timer entry) = (timer.sequence == sequence) := by
      simp [owns, live]
    rw [owner] at counted
    change _ + List.countP (fun later => s.owns sequence (Entry.timer later)) rest = calls
    cases number : timer.sequence == sequence <;>
      simp [TimerEvent.isRun, number] at counted ⊢ <;>
      omega

/-- Settling the batch deletes a cancelled timer and calls nothing.

Proof: along the batch, a live timer of this number is still to be settled, and its
identifier is remembered; so its own turn deletes it instead of restarting it. -/
theorem finishRead_doomed (invariant : Invariant s) (doomed : Doomed sequence calls s)
    {dispatch : Dispatch} (found : s.dispatch = some dispatch) (finished : s.waiting = [])
    {clock : Readings} (done : s.finishRead clock = some next) : Doomed sequence calls next := by
  obtain ⟨settled, folded, exact, _, idle⟩ :=
    finishRead_invariant invariant found finished clock
  cases exact.symm.trans done
  obtain ⟨_, same, _, numbered, dead, silent⟩ := settle_batch
    (fun later rest => later.numCreated = s.numCreated ∧
      (∀ address timer, later.heap address = some timer → timer.sequence = sequence →
        address ∈ rest.map Entry.timer ∧ toLex (address, sequence) ∈ later.cancelingTimers) ∧
      TimerEvent.runs later.log sequence = TimerEvent.runs s.log sequence) dispatch.now
    (by
      rintro before entry rest after settling ⟨numbered, condemned, silent⟩ stepped
      obtain ⟨timer, live, ⟨_, spared, exactly⟩ | ⟨_, exactly⟩⟩ :=
        resetOne_cases settling dispatch.now <;>
        cases exactly.symm.trans stepped
      · refine ⟨numbered, ?_, silent⟩
        intro address object alive number
        simp only [restarted, enqueued, update_apply] at alive
        split at alive
        · cases alive
          rw [restart_sequence] at number
          have remembered := (condemned _ timer live number).2
          exact absurd (number ▸ remembered) spared
        case isFalse apart =>
          obtain ⟨batched, canceling⟩ := condemned address object alive number
          refine ⟨?_, canceling⟩
          exact (List.mem_cons.mp (List.map_cons ▸ batched)).resolve_left apart
      · refine ⟨numbered, ?_, ?_⟩
        · intro address object alive number
          simp only [discarded, update_apply] at alive
          split at alive
          · cases alive
          case isFalse apart =>
            obtain ⟨batched, canceling⟩ := condemned address object alive number
            refine ⟨?_, canceling⟩
            exact (List.mem_cons.mp (List.map_cons ▸ batched)).resolve_left apart
        · rw [← silent]
          exact TimerEvent.runs_snoc _ _ _)
    s.called dispatch.expired (called_settling invariant found finished)
    ⟨rfl, by simpa [called, batch, found] using doomed.condemned, rfl⟩
  cases folded.symm.trans same
  have counted := doomed.counted
  rw [pendingCalls_idle sequence finished] at counted
  obtain ⟨heap, created, log⟩ := rearmed_frame settled clock
  have gone : ∀ address timer, (settled.rearmed clock).heap address = some timer →
      timer.sequence ≠ sequence := by
    intro address timer live number
    rw [heap] at live
    exact absurd (dead address timer live number).1 List.not_mem_nil
  refine ⟨?_, ?_, ?_⟩
  · rw [created, numbered]
    exact doomed.numbered
  · intro address timer live number
    exact absurd number (gone address timer live)
  · rw [pendingCalls_dead gone, log, silent]
    exact counted

theorem step_doomed {label : Label} (invariant : Invariant s) (enabled : s.Enabled label)
    (doomed : Doomed sequence calls s) (stepped : s.step label = some next) :
    Doomed sequence calls next := by
  cases label with
  | newTimer address expiration interval =>
    cases stepped
    exact newTimer_doomed invariant doomed enabled.1 expiration interval
  | addTimerInLoop address clock => exact addTimerInLoop_doomed invariant doomed enabled stepped
  | cancelInLoop id => exact cancelInLoop_doomed invariant doomed stepped
  | handleRead now readAt => exact handleRead_doomed invariant doomed enabled stepped
  | runNext => exact runNext_doomed invariant doomed enabled stepped
  | finishRead clock =>
    obtain ⟨dispatch, found⟩ := Option.ne_none_iff_exists'.mp enabled.1
    exact finishRead_doomed invariant doomed found enabled.2 stepped

/-- A cancel settles the number of calls of the timer it names, unless that timer is
still waiting to be added. -/
theorem cancelInLoop_dooms (invariant : Invariant s) (numbered : id.sequence ≤ s.numCreated)
    (owner : ∀ address timer, s.heap address = some timer → timer.sequence = id.sequence →
      address = id.timer ∧ address ∉ s.posted)
    (cancelled : s.cancelInLoop id = some next) :
    Doomed id.sequence
      (TimerEvent.runs s.log id.sequence + s.pendingCalls id.sequence) next := by
  have counted := cancelInLoop_calls id.sequence invariant cancelled
  obtain ⟨timer, live, number, _, done⟩ | ⟨inactive, _, done⟩ | ⟨inactive, idle, done⟩ :=
    cancelInLoop_cases invariant id <;>
    cases done.symm.trans cancelled
  · refine ⟨numbered, ?_, counted⟩
    intro address object alive same
    simp only [dequeued, requested, update_apply] at alive
    split at alive
    · cases alive
    case isFalse apart => exact absurd (owner address object alive same).1 apart
  · refine ⟨numbered, ?_, counted⟩
    intro address object alive same
    obtain ⟨rfl, added⟩ := owner address object alive same
    have place := invariant.active_of_added alive added
    rw [same] at place
    exact ⟨place.resolve_left inactive, (OrderedSet.mem_insert _ _ _).mpr (Or.inl rfl)⟩
  · refine ⟨numbered, ?_, counted⟩
    intro address object alive same
    obtain ⟨rfl, added⟩ := owner address object alive same
    have place := invariant.active_of_added alive added
    rw [same] at place
    simpa [batch, idle] using place.resolve_left inactive

/-- An added timer is known by its address and waits no longer to be added. -/
theorem Invariant.owner_of_added (invariant : Invariant s)
    (added : .added id.timer id.sequence ∈ s.log) :
    id.sequence ≤ s.numCreated ∧ ∀ address timer, s.heap address = some timer →
      timer.sequence = id.sequence → address = id.timer ∧ address ∉ s.posted := by
  obtain ⟨⟨repeats, created⟩, unposted⟩ := invariant.numbering.added _ _ added
  refine ⟨(invariant.numbering.created _ _ _ created).2, ?_⟩
  intro address timer live same
  have record := invariant.numbering.recorded address timer live
  obtain ⟨rfl, _⟩ := invariant.numbering.createdOnce _ _ _ _ _ (same ▸ record) created
  exact ⟨rfl, unposted timer live same⟩

end Steps

/-- A step that creates and adds no timer: whatever lives afterwards lived before, and
the timers waiting to be added are the same. -/
structure Calm (s next : TimerQueue) : Prop where
  posted : next.posted = s.posted
  created : next.numCreated = s.numCreated
  owned : ∀ sequence address, next.owns sequence address = true →
    s.owns sequence address = true

/-- Timers that were removed or changed keep their numbers as long as they live. -/
theorem owned_of_update {heap after : Nat → Option Timer}
    (before : s.heap = heap) (now : next.heap = after)
    (older : ∀ address timer, after address = some timer →
      ∃ was, heap address = some was ∧ was.sequence = timer.sequence)
    (sequence : Int) (address : Nat) (owned : next.owns sequence address = true) :
    s.owns sequence address = true := by
  obtain ⟨timer, live, number⟩ := (owns_iff _ _ _).mp owned
  obtain ⟨was, found, same⟩ := older address timer (now ▸ live)
  exact (owns_iff _ _ _).mpr ⟨was, before ▸ found, same.trans number⟩

theorem cancelInLoop_calm (invariant : Invariant s)
    (cancelled : s.cancelInLoop id = some next) : Calm s next := by
  obtain ⟨timer, _, _, _, done⟩ | ⟨_, _, done⟩ | ⟨_, _, done⟩ :=
    cancelInLoop_cases invariant id <;>
    cases done.symm.trans cancelled
  · refine ⟨rfl, rfl, owned_of_update rfl rfl ?_⟩
    intro address object live
    simp only [dequeued, requested, update_apply] at live
    split at live
    · cases live
    · exact ⟨object, live, rfl⟩
  · exact ⟨rfl, rfl, fun _ _ owned => owned⟩
  · exact ⟨rfl, rfl, fun _ _ owned => owned⟩

theorem cancelInLoop_dispatch (invariant : Invariant s)
    (cancelled : s.cancelInLoop id = some next) : next.dispatch = s.dispatch := by
  obtain ⟨timer, _, _, _, done⟩ | ⟨_, _, done⟩ | ⟨_, _, done⟩ :=
    cancelInLoop_cases invariant id <;>
    (cases done.symm.trans cancelled; rfl)

theorem finishRead_calm (invariant : Invariant s) {dispatch : Dispatch}
    (found : s.dispatch = some dispatch) (finished : s.waiting = []) {clock : Readings}
    (done : s.finishRead clock = some next) : Calm s next := by
  obtain ⟨settled, folded, exact, _⟩ := finishRead_invariant invariant found finished clock
  cases exact.symm.trans done
  obtain ⟨_, same, _, calm⟩ := settle_batch (fun later _ => Calm s later) dispatch.now
    (by
      intro before entry rest after settling calm stepped
      obtain ⟨timer, live, ⟨_, _, exactly⟩ | ⟨_, exactly⟩⟩ :=
        resetOne_cases settling dispatch.now <;>
        cases exactly.symm.trans stepped
      · refine ⟨calm.posted, calm.created, fun sequence address owned => calm.owned _ _ ?_⟩
        refine owned_of_update rfl rfl ?_ sequence address owned
        intro other object alive
        simp only [restarted, enqueued, update_apply] at alive
        split at alive
        case isTrue same =>
          cases alive
          exact ⟨timer, same ▸ live, (restart_sequence timer _).symm⟩
        · exact ⟨object, alive, rfl⟩
      · refine ⟨calm.posted, calm.created, fun sequence address owned => calm.owned _ _ ?_⟩
        refine owned_of_update rfl rfl ?_ sequence address owned
        intro other object alive
        simp only [discarded, update_apply] at alive
        split at alive
        · cases alive
        · exact ⟨object, alive, rfl⟩)
    s.called dispatch.expired (called_settling invariant found finished)
    ⟨rfl, rfl, fun _ _ owned => owned⟩
  cases folded.symm.trans same
  obtain ⟨heap, created, _⟩ := rearmed_frame settled clock
  refine ⟨(rearmed_posted settled clock).trans calm.posted, created.trans calm.created, ?_⟩
  intro sequence address owned
  apply calm.owned
  simpa only [owns, heap] using owned

/-- Exactly when a cancel is final. If no call of the timer was pending when the cancel
of an added timer was made, then no later step calls it; and once the dispatch is over,
the timer has not been called again only if no call was pending.

Proof: after the cancel the calls made and the calls pending add up to what they were at
the cancel, along every run. Between dispatches nothing is pending. -/
theorem cancel_final_iff (labels later : List Label) (id : TimerId)
    (valid : system.Valid initial (labels ++ .cancelInLoop id :: later)) :
    ∃ s final, system.run initial labels = some s ∧
      system.run initial (labels ++ .cancelInLoop id :: later) = some final ∧
      (.added id.timer id.sequence ∈ s.log →
        (s.pendingCalls id.sequence = 0 →
          TimerEvent.runs final.log id.sequence = TimerEvent.runs s.log id.sequence) ∧
        (final.dispatch = none →
          (TimerEvent.runs final.log id.sequence = TimerEvent.runs s.log id.sequence ↔
            s.pendingCalls id.sequence = 0))) := by
  obtain ⟨before, after⟩ := (System.along_append _ _ _ _).mp valid
  obtain ⟨s, reached, invariant⟩ := run_reaches labels before
  obtain ⟨admitted, rest⟩ := (System.along_cons _ _ _ _).mp (after s reached)
  obtain ⟨next, cancelled, kept⟩ := cancelInLoop_invariant invariant id
  obtain ⟨final, finished, _, grown, settled⟩ := System.run_safe
    (fun state => Invariant state ∧
      TimerEvent.runs s.log id.sequence ≤ TimerEvent.runs state.log id.sequence ∧
      (.added id.timer id.sequence ∈ s.log → Doomed id.sequence
        (TimerEvent.runs s.log id.sequence + s.pendingCalls id.sequence) state))
    (by
      rintro state label ⟨holds, grown, doomed⟩ enabled
      obtain ⟨following, stepped, preserved⟩ := step_invariant state label holds enabled
      refine ⟨following, stepped, preserved, ?_, ?_⟩
      · exact le_trans grown (TimerEvent.runs_mono (step_log label holds enabled stepped) _)
      · intro added
        exact step_doomed holds enabled (doomed added) stepped)
    next later
    ⟨kept, TimerEvent.runs_mono (step_log (.cancelInLoop id) invariant admitted cancelled) _,
      fun added =>
        have ⟨numbered, owner⟩ := invariant.owner_of_added added
        cancelInLoop_dooms invariant numbered owner cancelled⟩
    (rest next cancelled)
  refine ⟨s, final, reached, ?_, ?_⟩
  · rw [System.run_append, reached]
    simp only [Option.bind_some, System.run_cons]
    have stepped : system.step s (.cancelInLoop id) = some next := cancelled
    rw [stepped]
    exact finished
  · intro added
    have counted := (settled added).counted
    constructor
    · intro nothing
      omega
    · intro idle
      rw [pendingCalls_idle id.sequence (by simp [waiting, idle])] at counted
      omega

/-- A repeating timer is added, expires and is called. -/
def calledOnce : List Label :=
  [.newTimer 16 5 (.every 3), .addTimerInLoop 16 (.once 1), .handleRead 7 7, .runNext]

/-- The dispatch ends, and there is another one. -/
def dispatchedAgain : List Label :=
  [.finishRead (.once 9), .handleRead 20 20, .finishRead (.once 21)]

/-- A repeating timer cancels itself from its own callback, where no call of it is pending,
and a later dispatch finds nothing to call. -/
theorem cancel_final_iff_own : ∃ s final, system.run initial calledOnce = some s ∧
      system.run initial (calledOnce ++ .cancelInLoop ⟨16, 1⟩ :: dispatchedAgain) = some final ∧
      .added 16 1 ∈ s.log ∧ s.pendingCalls 1 = 0 ∧ final.dispatch = none ∧
      TimerEvent.runs final.log 1 = TimerEvent.runs s.log 1 := by
  obtain ⟨s, final, reached, finished, final_iff⟩ :=
    cancel_final_iff calledOnce dispatchedAgain ⟨16, 1⟩ (by decide)
  cases reached
  cases finished
  have counted := (final_iff (by decide)).2 rfl
  exact ⟨_, _, rfl, rfl, by decide, by decide, rfl, counted.mpr (by decide)⟩

/-- Two timers expire together, and the first of them is called. -/
def expiredTogether (interval : Interval) : List Label :=
  [.newTimer 16 5 .oneShot, .addTimerInLoop 16 (.once 1), .newTimer 32 6 interval,
    .addTimerInLoop 32 (.once 1), .handleRead 7 7, .runNext]

/-- Two one-shot timers expire together, and the callback of the first cancels the second.
The cancel returns, and the next step of the same dispatch calls the second timer. The
same happens if the second timer repeats. -/
theorem cancelled_timer_called : (∃ s final, system.Valid initial
        (expiredTogether .oneShot ++ [.cancelInLoop ⟨32, 2⟩, .runNext]) ∧
      system.run initial (expiredTogether .oneShot) = some s ∧
      system.run s [.cancelInLoop ⟨32, 2⟩, .runNext] = some final ∧
      .added 32 2 ∈ s.log ∧ TimerEvent.runs s.log 2 = 0 ∧ TimerEvent.runs final.log 2 = 1) ∧
    ∃ s final, system.Valid initial
        (expiredTogether (.every 4) ++ [.cancelInLoop ⟨32, 2⟩, .runNext]) ∧
      system.run initial (expiredTogether (.every 4)) = some s ∧
      system.run s [.cancelInLoop ⟨32, 2⟩, .runNext] = some final ∧
      .added 32 2 ∈ s.log ∧ TimerEvent.runs s.log 2 = 0 ∧ TimerEvent.runs final.log 2 = 1 := by
  constructor
  · exact ⟨_, _, by decide, rfl, rfl, by decide, by decide, by decide⟩
  · exact ⟨_, _, by decide, rfl, rfl, by decide, by decide, by decide⟩

end TimerQueue

end Moban
