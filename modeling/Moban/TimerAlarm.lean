import Moban.TimerRuns

/-!
# The timer descriptor

The descriptor is a one-shot alarm. It is set when an insertion changes the earliest
timer, and once more at the end of a dispatch if the earliest expiration is a valid
timestamp. Between dispatches it must therefore stay early enough for every queued
timer, although nothing sets it after a cancel or after an insertion behind the first.

The descriptor measures its relative time on the clock that is read, but from a later moment:
time may pass between the reading from which the remaining time is computed and the settime
call, and the alarm is late by as much. Dispatches begin at valid timestamps, as the clock
shows them: the validity test would treat the first instant of the epoch, and everything
before it, like the absence of a timer.
-/

namespace Moban

open OrderedSets Runs

/-- An alarm that is early enough for this expiration: what has passed between the two
readings is added, and no alarm is set for less than 100 microseconds. -/
def Alarm.Early (alarm : Alarm) (expiration : Int) : Prop :=
  alarm.deadline ≤
    max (expiration + (alarm.clock.settime - alarm.clock.now)) (alarm.clock.settime + 100)

theorem Alarm.Early.mono {alarm : Alarm} {expiration later : Int} (early : alarm.Early expiration)
    (order : expiration ≤ later) : alarm.Early later :=
  le_trans early (max_le_max (Int.add_le_add_right order _) (le_refl _))

namespace TimerQueue

/-- The relative time is split into seconds and nanoseconds without loss, and it is
never the zero time that would disarm the descriptor. -/
theorem timerfdSettime_exact (expiration : Int) (clock : Readings) :
    timerfdSettime (howMuchTimeFromNow expiration clock.now) clock =
      some {
        deadline := max (expiration + (clock.settime - clock.now)) (clock.settime + 100)
        clock } := by
  generalize wait :
    (if expiration - clock.now < 100 then 100 else expiration - clock.now) = microseconds
  have atLeast : 100 ≤ microseconds ∧ clock.settime + microseconds =
      max (expiration + (clock.settime - clock.now)) (clock.settime + 100) := by
    split at wait <;> omega
  have whole : microseconds.tdiv 1000000 = microseconds / 1000000 :=
    Int.tdiv_eq_ediv_of_nonneg (by omega)
  have part : microseconds.tmod 1000000 = microseconds % 1000000 :=
    Int.tmod_eq_emod_of_nonneg (by omega)
  have nanoseconds : (microseconds % 1000000 * 1000).tdiv 1000 = microseconds % 1000000 := by
    rw [Int.tdiv_eq_ediv_of_nonneg (by omega)]
    omega
  have nonzero : ¬ (microseconds / 1000000 = 0 ∧ microseconds % 1000000 * 1000 = 0) := by omega
  simp only [timerfdSettime, howMuchTimeFromNow, wait, whole, part, nanoseconds, nonzero,
    if_false, Option.some.injEq, Alarm.mk.injEq, and_true]
  omega

/-- The first entry has the earliest expiration. -/
theorem first_time {timers : OrderedSet Entry} {earliest : Entry}
    (first : timers.first = some earliest) (entry : Entry) (queued : entry ∈ timers) :
    Entry.time earliest ≤ Entry.time entry := by
  have ordered := OrderedSet.first_le _ _ _ first queued
  rw [entry_eq earliest, entry_eq entry, Prod.Lex.toLex_le_toLex] at ordered
  rcases ordered with earlier | ⟨same, _⟩
  · exact le_of_lt earlier
  · exact le_of_eq same

/-- The descriptor is armed, or expired and unread, early enough for every queued timer. -/
def Covered (s : TimerQueue) : Prop :=
  ∃ alarm, s.timerfd = some alarm ∧ ∀ entry ∈ s.timers, alarm.Early (Entry.time entry)

/-- A descriptor set for an expiration covers every queue without an earlier timer. -/
theorem resetTimerfd_covered (s : TimerQueue) (expiration : Int) (clock : Readings)
    (least : ∀ entry ∈ s.timers, expiration ≤ Entry.time entry) :
    (s.resetTimerfd expiration clock).Covered := by
  refine ⟨_, timerfdSettime_exact expiration clock, ?_⟩
  intro entry queued
  exact Alarm.Early.mono (le_refl _) (least entry queued)

/-- The invariant of the descriptor. Between dispatches any queued timer needs it; while
a batch is being dispatched only a timer with an invalid expiration does, because the
end of the dispatch will not set the descriptor for it. -/
def Alarmed (s : TimerQueue) : Prop :=
  ∀ entry ∈ s.timers, s.dispatch = none ∨ Entry.time entry ≤ 0 → s.Covered

variable {s next : TimerQueue}

/-- Coverage only gets easier with fewer timers. -/
theorem Alarmed.shrink (alarmed : s.Alarmed)
    (fewer : ∀ entry ∈ next.timers, entry ∈ s.timers) (descriptor : next.timerfd = s.timerfd)
    (dispatch : next.dispatch = none → s.dispatch = none) : next.Alarmed := by
  intro entry queued needed
  obtain ⟨alarm, armed, early⟩ :=
    alarmed entry (fewer entry queued) (needed.imp_left dispatch)
  exact ⟨alarm, descriptor ▸ armed, fun other member => early other (fewer other member)⟩

/-- An insertion in front sets the descriptor; one behind the first timer leaves a
descriptor that is early enough for the first timer and so for the new one. -/
theorem addTimerInLoop_alarmed (invariant : Invariant s)
    (alarmed : s.Alarmed) {address : Nat} (posted : address ∈ s.posted) {clock : Readings}
    (added : s.addTimerInLoop address clock = some next) : next.Alarmed := by
  obtain ⟨timer, live, exact, _⟩ := addTimerInLoop_invariant invariant posted clock
  rw [exact] at added
  cases first : s.timers.first with
  | none =>
    have front : s.earliestChanged timer = true := by simp [earliestChanged, first]
    rw [if_pos front] at added
    cases added
    intro _ _ _
    apply resetTimerfd_covered
    intro entry queued
    rcases (OrderedSet.mem_insert _ _ _).mp queued with rfl | old
    · exact le_refl _
    · exact absurd old (OrderedSet.first_none _ first entry)
  | some earliest =>
    have least := first_time first
    by_cases front : timer.expiration < Entry.time earliest
    · have changed : s.earliestChanged timer = true := by simp [earliestChanged, first, front]
      rw [if_pos changed] at added
      cases added
      intro _ _ _
      apply resetTimerfd_covered
      intro entry queued
      rcases (OrderedSet.mem_insert _ _ _).mp queued with rfl | old
      · exact le_refl _
      · exact le_trans (le_of_lt front) (least entry old)
    · have same : s.earliestChanged timer = false := by simp [earliestChanged, first, front]
      rw [if_neg (by simp [same])] at added
      cases added
      intro entry queued needed
      have behind : ∀ other ∈ (s.enqueued address timer).timers,
          Entry.time earliest ≤ Entry.time other := by
        intro other member
        rcases (OrderedSet.mem_insert _ _ _).mp member with rfl | old
        · exact not_lt.mp front
        · exact least other old
      obtain ⟨alarm, armed, early⟩ := alarmed earliest (OrderedSet.first_mem _ _ first)
        (needed.imp_right fun invalid => le_trans (behind entry queued) invalid)
      refine ⟨alarm, armed, ?_⟩
      intro other member
      exact (early earliest (OrderedSet.first_mem _ _ first)).mono (behind other member)

theorem cancelInLoop_alarmed (invariant : Invariant s)
    (alarmed : s.Alarmed) {id : TimerId} (cancelled : s.cancelInLoop id = some next) :
    next.Alarmed := by
  obtain ⟨timer, _, _, _, done⟩ | ⟨_, _, done⟩ | ⟨_, _, done⟩ := cancelInLoop_cases invariant id
  · rw [done] at cancelled
    cases cancelled
    refine alarmed.shrink ?_ rfl fun idle => idle
    intro entry kept
    exact ((OrderedSet.mem_erase _ _ _).mp kept).2
  · rw [done] at cancelled
    cases cancelled
    exact alarmed.shrink (fun _ queued => queued) rfl fun idle => idle
  · rw [done] at cancelled
    cases cancelled
    exact alarmed.shrink (fun _ queued => queued) rfl fun idle => idle

/-- A dispatch that begins at a valid time leaves only timers with valid expirations. -/
theorem handleRead_alarmed (invariant : Invariant s)
    (idle : s.dispatch = none) {now readAt : Int} (valid : Timestamp.valid now = true)
    (begun : s.handleRead now readAt = some next) : next.Alarmed := by
  obtain ⟨other, same, _, beginning⟩ := handleRead_invariant invariant idle now readAt
  rw [begun] at same
  cases same
  have positive : 0 < now := of_decide_eq_true valid
  intro entry queued needed
  rw [beginning.timers] at queued
  obtain ⟨old, above⟩ := (OrderedSet.mem_cut _ _ _).mp queued
  rw [below_sentry invariant.shape now entry old, not_le] at above
  rcases needed with finished | invalid
  · rw [beginning.dispatch] at finished
    cases finished
  · omega

/-- A restarted timer expires at the dispatch time or later. -/
theorem restart_expiration (timer : Timer) (now : Int) (repeating : timer.repeats = true) :
    now ≤ (Timer.restart timer now).expiration := by
  have forward := timer.interval.forward (timer.kind ▸ repeating)
  simp only [Timer.restart, repeating, if_true]
  omega

/-- The end of a dispatch sets the descriptor for a valid earliest expiration. An invalid
one belongs to a timer that a callback added, and then the insertion set it. -/
theorem finishRead_alarmed (invariant : Invariant s)
    (alarmed : s.Alarmed) {dispatch : Dispatch} (found : s.dispatch = some dispatch)
    (finished : s.waiting = []) (valid : 0 < dispatch.now) {clock : Readings}
    (done : s.finishRead clock = some next) : next.Alarmed := by
  obtain ⟨settled, folded, exact, _, idle⟩ :=
    finishRead_invariant invariant found finished clock
  rw [exact] at done
  cases done
  obtain ⟨other, same, _, descriptor, kept, fresh⟩ := settle_batch
    (fun later _ => later.timerfd = s.timerfd ∧ (∀ entry ∈ s.timers, entry ∈ later.timers) ∧
      ∀ entry ∈ later.timers, entry ∈ s.timers ∨ 0 < Entry.time entry) dispatch.now
    (by
      rintro before entry rest after settling ⟨descriptor, kept, fresh⟩ stepped
      obtain ⟨timer, _, ⟨repeating, _, exactly⟩ | ⟨_, exactly⟩⟩ :=
        resetOne_cases settling dispatch.now <;>
        (rw [exactly] at stepped; cases stepped)
      · refine ⟨descriptor, ?_, ?_⟩
        · intro other queued
          exact (OrderedSet.mem_insert _ _ _).mpr (Or.inr (kept other queued))
        · intro other queued
          rcases (OrderedSet.mem_insert _ _ _).mp queued with rfl | old
          · exact Or.inr (lt_of_lt_of_le valid (restart_expiration timer _ repeating))
          · exact fresh other old
      · exact ⟨descriptor, kept, fresh⟩)
    s.called dispatch.expired (called_settling invariant found finished)
    ⟨rfl, fun _ queued => queued, fun _ queued => Or.inl queued⟩
  rw [folded] at same
  cases same
  intro entry queued _
  unfold rearmed at queued ⊢
  cases first : settled.timers.first with
  | none =>
    simp only [first] at queued
    exact absurd queued (OrderedSet.first_none _ first entry)
  | some earliest =>
    have least := first_time first
    simp only
    split
    · exact resetTimerfd_covered settled _ clock least
    case isFalse invalid =>
      have early : Entry.time earliest ≤ 0 := by simpa [Timestamp.valid] using invalid
      have old : earliest ∈ s.timers :=
        (fresh earliest (OrderedSet.first_mem _ _ first)).resolve_right (not_lt.mpr early)
      obtain ⟨alarm, armed, covers⟩ := alarmed earliest old (Or.inr early)
      refine ⟨alarm, descriptor ▸ armed, ?_⟩
      intro entry queued
      exact (covers earliest old).mono (least entry queued)

/-- The descriptor's invariant next to that of the queue. -/
structure Watched (s : TimerQueue) : Prop where
  invariant : Invariant s
  alarmed : s.Alarmed
  begun : ∀ dispatch, s.dispatch = some dispatch → 0 < dispatch.now

/-- A label whose clock reading, if it begins a dispatch, is a valid timestamp. -/
def BeginsValid : Label → Prop
  | .handleRead now _ => Timestamp.valid now = true
  | _ => True

/-- Every step keeps the alarm early enough. -/
theorem step_watched (s : TimerQueue) (label : Label) (watched : Watched s)
    (admitted : system.enabled s label ∧ BeginsValid label) :
    ∃ next, system.step s label = some next ∧ Watched next := by
  obtain ⟨enabled, valid⟩ := admitted
  obtain ⟨next, stepped, kept⟩ := step_invariant s label watched.invariant enabled
  refine ⟨next, stepped, kept, ?_, ?_⟩
  · cases label with
    | newTimer address expiration interval =>
      cases stepped
      exact watched.alarmed.shrink (fun _ queued => queued) rfl fun idle => idle
    | addTimerInLoop address clock =>
      exact addTimerInLoop_alarmed watched.invariant watched.alarmed enabled stepped
    | cancelInLoop id => exact cancelInLoop_alarmed watched.invariant watched.alarmed stepped
    | handleRead now readAt => exact handleRead_alarmed watched.invariant enabled valid stepped
    | runNext =>
      obtain ⟨dispatch, _, _, _, found, _, _, exact, _⟩ :=
        runNext_invariant watched.invariant enabled
      cases exact.symm.trans stepped
      refine watched.alarmed.shrink (fun _ queued => queued) rfl ?_
      intro impossible
      cases impossible
    | finishRead clock =>
      obtain ⟨dispatch, found⟩ := Option.ne_none_iff_exists'.mp enabled.1
      exact finishRead_alarmed watched.invariant watched.alarmed found enabled.2
        (watched.begun dispatch found) stepped
  · cases label with
    | newTimer address expiration interval =>
      cases stepped
      exact watched.begun
    | addTimerInLoop address clock =>
      obtain ⟨timer, _, exact, _⟩ := addTimerInLoop_invariant watched.invariant enabled clock
      cases exact.symm.trans stepped
      intro dispatch found
      apply watched.begun dispatch
      split at found <;> exact found
    | cancelInLoop id =>
      obtain ⟨_, _, _, _, done⟩ | ⟨_, _, done⟩ | ⟨_, _, done⟩ :=
        cancelInLoop_cases watched.invariant id <;>
        (cases done.symm.trans stepped; exact watched.begun)
    | handleRead now readAt =>
      obtain ⟨_, same, _, beginning⟩ :=
        handleRead_invariant watched.invariant enabled now readAt
      cases same.symm.trans stepped
      intro dispatch found
      cases beginning.dispatch.symm.trans found
      exact of_decide_eq_true valid
    | runNext =>
      obtain ⟨dispatch, _, _, _, found, _, _, exact, _⟩ :=
        runNext_invariant watched.invariant enabled
      cases exact.symm.trans stepped
      intro other same
      cases same
      exact watched.begun dispatch found
    | finishRead clock =>
      obtain ⟨dispatch, found⟩ := Option.ne_none_iff_exists'.mp enabled.1
      obtain ⟨settled, _, exact, _, idle⟩ :=
        finishRead_invariant watched.invariant found enabled.2 clock
      cases exact.symm.trans stepped
      intro other running
      rw [rearmed_dispatch, idle] at running
      cases running

/-- No queued timer is forgotten. If every dispatch begins at a valid time, then between
dispatches a non-empty queue has an armed descriptor, or an expired and unread one, whose
deadline is not after the earliest expiration, put off by the time that passed before the
settime call, or 100 microseconds after that call.

Proof: the descriptor's invariant holds initially and is kept by every step. -/
theorem run_alarmed (labels : List Label) (valid : system.Valid initial labels)
    (positive : ∀ now readAt, .handleRead now readAt ∈ labels → Timestamp.valid now = true) :
    ∃ s, system.run initial labels = some s ∧
      (s.dispatch = none → ∀ earliest, s.timers.first = some earliest →
        ∃ alarm, s.timerfd = some alarm ∧
          alarm.deadline ≤ max (Entry.time earliest + (alarm.clock.settime - alarm.clock.now))
            (alarm.clock.settime + 100)) := by
  have begins : system.Along (fun _ => BeginsValid) initial labels := by
    apply System.along_forall
    intro label member
    cases label with
    | handleRead now readAt => exact positive now readAt member
    | _ => trivial
  have watched : Watched initial :=
    ⟨initial_invariant, fun _ queued => absurd queued (OrderedSet.not_mem_empty _),
      fun _ impossible => nomatch impossible⟩
  obtain ⟨s, finished, final⟩ := System.run_safe Watched step_watched initial labels watched
    ((System.along_and _ _ _ _).mpr ⟨valid, begins⟩)
  refine ⟨s, finished, ?_⟩
  intro idle earliest first
  have queued := OrderedSet.first_mem _ _ first
  obtain ⟨alarm, armed, early⟩ := final.alarmed earliest queued (Or.inl idle)
  exact ⟨alarm, armed, early earliest queued⟩

/-- A callback adds a timer in the past and one at a non-positive time, and a cancel
removes the earliest one after the dispatch. -/
def addedWithin : List Label :=
  [.newTimer 16 50 (.every 30), .addTimerInLoop 16 ⟨10, 11, by decide⟩,
    .handleRead 120 121, .runNext, .newTimer 32 (-5) .oneShot,
    .addTimerInLoop 32 ⟨122, 122, by decide⟩, .newTimer 48 60 .oneShot,
    .addTimerInLoop 48 ⟨123, 125, by decide⟩, .finishRead ⟨126, 130, by decide⟩,
    .cancelInLoop ⟨32, 2⟩]

/-- The timer at 60 is the earliest one left, and the alarm was set for the cancelled one. -/
theorem run_alarmed_reentrant :
    ∃ s alarm, system.run initial addedWithin = some s ∧ s.dispatch = none ∧
      s.timers.first = some (toLex (60, 48)) ∧ s.timerfd = some alarm ∧
      alarm.deadline ≤ max (60 + (alarm.clock.settime - alarm.clock.now))
        (alarm.clock.settime + 100) := by
  obtain ⟨s, finished, alarmed⟩ :=
    run_alarmed addedWithin (by decide) (by simp [addedWithin, Timestamp.valid])
  cases finished
  obtain ⟨alarm, armed, early⟩ := alarmed rfl (toLex (60, 48)) (by decide)
  exact ⟨_, alarm, rfl, rfl, by decide, armed, early⟩

/-- A timer is added for the time 1000. The clock shows 10 when the remaining time is computed,
and 11 at the settime call: the alarm goes off at 1001, after the expiration and more than
100 microseconds after the call. -/
theorem alarm_set_late : ∃ s alarm, system.Valid initial
        [.newTimer 16 1000 .oneShot, .addTimerInLoop 16 ⟨10, 11, by decide⟩] ∧
      system.run initial
        [.newTimer 16 1000 .oneShot,
          .addTimerInLoop 16 ⟨10, 11, by decide⟩] = some s ∧
      s.dispatch = none ∧ s.timers.first = some (toLex (1000, 16)) ∧ s.timerfd = some alarm ∧
      max 1000 (alarm.clock.settime + 100) < alarm.deadline :=
  ⟨_, _, by decide, rfl, rfl, by decide, rfl, by decide⟩

end TimerQueue

end Moban
