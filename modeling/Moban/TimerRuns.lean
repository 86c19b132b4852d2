import Moban.TimerDispatch

/-!
# Runs of the timer queue

An admitted run interleaves creating, adding and cancelling timers with dispatches whose
callbacks may do all of that again. No step of such a run fails an assertion or touches
a freed timer, and the two sets always index the same live objects.
-/

namespace Moban

open OrderedSets Runs

namespace TimerQueue

/-- Every admitted step from an invariant state succeeds and keeps the invariant. -/
theorem step_invariant (s : TimerQueue) (label : Label) (invariant : Invariant s)
    (enabled : s.Enabled label) : ∃ next, s.step label = some next ∧ Invariant next := by
  cases label with
  | newTimer address expiration interval =>
    exact ⟨_, rfl, newTimer_invariant invariant enabled.1 enabled.2 expiration interval⟩
  | addTimerInLoop address clock =>
    obtain ⟨timer, _, added, kept⟩ := addTimerInLoop_invariant invariant enabled clock
    refine ⟨_, added, ?_⟩
    split
    · exact resetTimerfd_invariant kept _ clock
    · exact kept
  | cancelInLoop id => exact cancelInLoop_invariant invariant id
  | handleRead now readAt =>
    obtain ⟨next, begun, kept, _⟩ := handleRead_invariant invariant enabled now readAt
    exact ⟨next, begun, kept⟩
  | runNext =>
    obtain ⟨_, _, _, _, _, _, _, stepped, kept⟩ := runNext_invariant invariant enabled
    exact ⟨_, stepped, kept⟩
  | finishRead clock =>
    obtain ⟨dispatch, found⟩ := Option.ne_none_iff_exists'.mp enabled.1
    obtain ⟨settled, _, stepped, kept, _⟩ :=
      finishRead_invariant invariant found enabled.2 clock
    exact ⟨_, stepped, rearmed_invariant kept clock⟩

/-- Events are only ever added. -/
theorem step_log {s next : TimerQueue} (label : Label) (invariant : Invariant s)
    (enabled : s.Enabled label) (stepped : s.step label = some next) : s.log <+: next.log := by
  cases label with
  | newTimer address expiration interval =>
    cases stepped
    exact List.prefix_append _ _
  | addTimerInLoop address clock =>
    obtain ⟨timer, _, exact, _⟩ := addTimerInLoop_invariant invariant enabled clock
    cases exact.symm.trans stepped
    split <;> exact List.prefix_append _ _
  | cancelInLoop id =>
    obtain ⟨_, _, _, _, done⟩ | ⟨_, _, done⟩ | ⟨_, _, done⟩ :=
      cancelInLoop_cases invariant id <;>
      cases done.symm.trans stepped
    · exact (List.prefix_append _ _).trans (List.prefix_append _ _)
    · exact List.prefix_append _ _
    · exact List.prefix_append _ _
  | handleRead now readAt =>
    obtain ⟨_, same, _, beginning⟩ := handleRead_invariant invariant enabled now readAt
    cases same.symm.trans stepped
    exact ⟨[], by rw [beginning.log, List.append_nil]⟩
  | runNext =>
    obtain ⟨_, _, _, _, _, _, _, exact, _⟩ := runNext_invariant invariant enabled
    cases exact.symm.trans stepped
    exact List.prefix_append _ _
  | finishRead clock =>
    obtain ⟨dispatch, found⟩ := Option.ne_none_iff_exists'.mp enabled.1
    obtain ⟨settled, folded, exact, _⟩ := finishRead_invariant invariant found enabled.2 clock
    cases exact.symm.trans stepped
    obtain ⟨_, same, _, grown⟩ := settle_batch (fun later _ => s.log <+: later.log) dispatch.now
      (by
        intro before entry rest after settling grown settledOne
        obtain ⟨timer, _, ⟨_, _, done⟩ | ⟨_, done⟩⟩ := resetOne_cases settling dispatch.now <;>
          cases done.symm.trans settledOne
        · exact grown
        · exact grown.trans (List.prefix_append _ _))
      s.called dispatch.expired (called_settling invariant found enabled.2)
      (List.prefix_refl _)
    cases folded.symm.trans same
    rw [(rearmed_frame settled clock).2.2]
    exact grown

/-- Every admitted run succeeds and ends in an invariant state. -/
theorem run_reaches (labels : List Label) (valid : system.Valid initial labels) :
    ∃ s, system.run initial labels = some s ∧ Invariant s :=
  System.run_safe Invariant step_invariant initial labels initial_invariant valid

/-- A cancel leaves this live timer, and its membership in both sets, as it was. -/
def Untouched (s next : TimerQueue) (address : Nat) (timer : Timer) : Prop :=
  next.heap address = some timer ∧
    (∀ time, toLex (time, address) ∈ next.timers ↔ toLex (time, address) ∈ s.timers) ∧
    ∀ sequence, toLex (address, sequence) ∈ next.activeTimers ↔
      toLex (address, sequence) ∈ s.activeTimers

/-- What a user of the queue may rely on between any two steps. -/
structure Consistent (s : TimerQueue) : Prop where
  /-- The two sets hold the same timer objects, each of them once. -/
  sameTimers : s.timers.size = s.activeTimers.size ∧
    ∀ address, (∃ time, toLex (time, address) ∈ s.timers) ↔
      ∃ sequence, toLex (address, sequence) ∈ s.activeTimers
  /-- Queued keys agree with the live timers they stand for. -/
  keys : (∀ time address, toLex (time, address) ∈ s.timers →
      ∃ timer, s.heap address = some timer ∧ timer.expiration = time) ∧
    ∀ address sequence, toLex (address, sequence) ∈ s.activeTimers →
      ∃ timer, s.heap address = some timer ∧ timer.sequence = sequence
  deletedOnce : ∀ sequence, TimerEvent.deletions s.log sequence ≤ 1
  /-- An added timer has been deleted exactly if it is in neither set, nor in the batch
  of the dispatch in progress, which may put it back. -/
  deletedWhenGone : ∀ address sequence, .added address sequence ∈ s.log →
    (TimerEvent.deletions s.log sequence = 1 ↔
      toLex (address, sequence) ∉ s.activeTimers ∧
        ∀ timer, s.heap address = some timer → timer.sequence = sequence →
          address ∉ s.batch.map Entry.timer)
  /-- A deleted timer was a one-shot timer that had been called, or it was cancelled
  under its own sequence number. -/
  deletedForReason : ∀ sequence, TimerEvent.deletions s.log sequence = 1 →
    (∃ address, .created address sequence false ∈ s.log ∧
        0 < TimerEvent.runs s.log sequence) ∨
      ∃ id, .cancelled id ∈ s.log ∧ id.sequence = sequence
  oneShot : ∀ address sequence, .created address sequence false ∈ s.log →
    TimerEvent.runs s.log sequence ≤ 1
  punctual : ∀ sequence expiration now, .ran sequence expiration now ∈ s.log →
    expiration ≤ now
  cancelsOwn : ∀ id next address timer, s.cancelInLoop id = some next →
    s.heap address = some timer → timer.sequence ≠ id.sequence →
      s.Untouched next address timer

theorem Deletions.once {heap : Nat → Option Timer} {numCreated : Int} {log : List TimerEvent}
    (deletions : Deletions heap numCreated log) (sequence : Int) :
    TimerEvent.deletions log sequence ≤ 1 := by
  by_cases positive : 0 < sequence
  · by_cases counted : sequence ≤ numCreated
    · by_cases alive : ∃ address timer, heap address = some timer ∧ timer.sequence = sequence
      · obtain ⟨address, timer, live, rfl⟩ := alive
        rw [deletions.kept address timer live]
        exact Nat.zero_le 1
      · refine le_of_eq (deletions.gone sequence positive counted ?_)
        intro address timer live same
        exact alive ⟨address, timer, live, same⟩
    · rw [deletions.future sequence (not_le.mp counted)]
      exact Nat.zero_le 1
  · rw [deletions.past sequence (not_lt.mp positive)]
    exact Nat.zero_le 1

variable {s : TimerQueue} {address : Nat}

/-- A live timer that waits neither to be added nor in the batch is active. -/
theorem Invariant.active_of_added {timer : Timer}
    (invariant : Invariant s) (live : s.heap address = some timer) (added : address ∉ s.posted) :
    toLex (address, timer.sequence) ∈ s.activeTimers ∨ address ∈ s.batch.map Entry.timer := by
  by_cases outside : address ∈ s.posted ++ s.batch.map Entry.timer
  · exact Or.inr ((List.mem_append.mp outside).resolve_left added)
  · left
    by_contra inactive
    apply outside
    refine (invariant.shape.places address).mpr ⟨⟨timer, live⟩, ?_⟩
    intro time queued
    obtain ⟨object, found, key⟩ := invariant.shape.keyed time address queued
    cases live.symm.trans found
    exact inactive ((invariant.shape.active _ _).mpr ⟨timer, live, rfl, key ▸ queued⟩)

/-- An added timer is alive exactly while it is queued or belongs to the batch. -/
theorem Invariant.alive_iff (invariant : Invariant s)
    {sequence : Int} (added : .added address sequence ∈ s.log) :
    (∃ timer, s.heap address = some timer ∧ timer.sequence = sequence) ↔
      toLex (address, sequence) ∈ s.activeTimers ∨
        ∃ timer, s.heap address = some timer ∧ timer.sequence = sequence ∧
          address ∈ s.batch.map Entry.timer := by
  constructor
  · rintro ⟨timer, live, same⟩
    have unposted := (invariant.numbering.added address sequence added).2 timer live same
    rcases invariant.active_of_added live unposted with active | batched
    · exact Or.inl (same ▸ active)
    · exact Or.inr ⟨timer, live, same, batched⟩
  · rintro (active | ⟨timer, live, same, _⟩)
    · obtain ⟨timer, live, same, _⟩ := (invariant.shape.active _ _).mp active
      exact ⟨timer, live, same⟩
    · exact ⟨timer, live, same⟩

/-- An added timer has been deleted exactly if no live timer at its address carries its
sequence number. -/
theorem Invariant.deleted_iff (invariant : Invariant s)
    {sequence : Int} (added : .added address sequence ∈ s.log) :
    TimerEvent.deletions s.log sequence = 1 ↔
      ¬ ∃ timer, s.heap address = some timer ∧ timer.sequence = sequence := by
  obtain ⟨⟨repeats, created⟩, _⟩ := invariant.numbering.added address sequence added
  obtain ⟨positive, counted⟩ := invariant.numbering.created address sequence repeats created
  constructor
  · rintro deleted ⟨timer, live, rfl⟩
    rw [invariant.deletions.kept address timer live] at deleted
    cases deleted
  · intro dead
    refine invariant.deletions.gone sequence positive counted ?_
    rintro other timer live rfl
    have record := invariant.numbering.recorded other timer live
    obtain ⟨rfl, _⟩ := invariant.numbering.createdOnce _ _ _ _ _ created record
    exact dead ⟨timer, live, rfl⟩

/-- A cancel can only remove the timer that carries its sequence number. -/
theorem cancelInLoop_untouched {s next : TimerQueue} (invariant : Invariant s) {id : TimerId}
    {timer : Timer} (cancelled : s.cancelInLoop id = some next)
    (live : s.heap address = some timer) (different : timer.sequence ≠ id.sequence) :
    s.Untouched next address timer := by
  obtain ⟨object, found, number, _, done⟩ | ⟨_, _, done⟩ | ⟨_, _, done⟩ :=
    cancelInLoop_cases invariant id
  · have apart : address ≠ id.timer := by
      rintro rfl
      rw [live] at found
      cases found
      exact different number
    rw [done] at cancelled
    cases cancelled
    refine ⟨?_, ?_, ?_⟩
    · simpa only [dequeued, requested, Function.update_of_ne apart] using live
    · intro time
      simp [dequeued, requested, apart]
    · intro sequence
      simp [dequeued, requested, apart]
  · rw [done] at cancelled
    cases cancelled
    exact ⟨live, fun _ => Iff.rfl, fun _ => Iff.rfl⟩
  · rw [done] at cancelled
    cases cancelled
    exact ⟨live, fun _ => Iff.rfl, fun _ => Iff.rfl⟩

theorem Invariant.consistent (invariant : Invariant s) : Consistent s where
  sameTimers := by
    refine ⟨invariant.shape.sizes, fun address => ⟨?_, ?_⟩⟩
    · rintro ⟨time, queued⟩
      obtain ⟨timer, live, rfl⟩ := invariant.shape.keyed time address queued
      exact ⟨timer.sequence, (invariant.shape.active _ _).mpr ⟨timer, live, rfl, queued⟩⟩
    · rintro ⟨sequence, active⟩
      obtain ⟨timer, _, _, queued⟩ := (invariant.shape.active _ _).mp active
      exact ⟨timer.expiration, queued⟩
  keys := by
    refine ⟨invariant.shape.keyed, ?_⟩
    intro address sequence active
    obtain ⟨timer, live, same, _⟩ := (invariant.shape.active _ _).mp active
    exact ⟨timer, live, same⟩
  deletedOnce := invariant.deletions.once
  deletedWhenGone := by
    intro address sequence added
    rw [invariant.deleted_iff added, invariant.alive_iff added, not_or]
    simp only [not_exists, not_and]
  deletedForReason := by
    intro sequence deleted
    exact invariant.causes.justified sequence (by omega)
  oneShot := invariant.calls.oneShot
  punctual := invariant.calls.punctual
  cancelsOwn := fun _ _ _ _ => cancelInLoop_untouched invariant

/-- No admitted run fails, whatever its callbacks add and cancel, and the queue is
consistent after every one of its steps.

Proof: every admitted step succeeds and keeps the representation invariant, so a run
does; consistency is a consequence of the invariant. -/
theorem run_consistent (labels : List Label) (valid : system.Valid initial labels) :
    ∃ s, system.run initial labels = some s ∧ Consistent s := by
  obtain ⟨s, finished, invariant⟩ := run_reaches labels valid
  exact ⟨s, finished, invariant.consistent⟩

/-- A repeating and a one-shot timer expire together. The first callback cancels itself
and adds a timer, the second cancels the default identifier, and the address of the
deleted timer is used again before a stale cancel. -/
theorem run_consistent_reentrant : ∃ s, system.run initial
      [.newTimer 16 5 (.every 3), .addTimerInLoop 16 (.once 1),
        .newTimer 32 6 .oneShot, .addTimerInLoop 32 (.once 1),
        .handleRead 7 7, .runNext, .cancelInLoop ⟨16, 1⟩, .newTimer 48 (-4) .oneShot,
        .addTimerInLoop 48 (.once 8), .runNext, .cancelInLoop {}, .finishRead (.once 9),
        .newTimer 16 90 .oneShot, .addTimerInLoop 16 (.once 10),
        .cancelInLoop ⟨16, 1⟩] = some s ∧ Consistent s :=
  run_consistent _ (by decide)

end TimerQueue

end Moban
