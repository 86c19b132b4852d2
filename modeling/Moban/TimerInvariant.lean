import Moban.TimerHistory

/-!
# The representation invariant of the timer queue

The places of live timers and the accounts of their history hold between any two steps
of a run, including steps taken from inside a callback. Creating, adding and cancelling
satisfy their assertions under them and re-establish them.
-/

namespace Moban

open OrderedSets Runs

namespace TimerQueue

/-- The outcome of an insertion: the comparison with the earliest timer so far. -/
def earliestChanged (s : TimerQueue) (timer : Timer) : Bool :=
  match s.timers.first with
  | none => true
  | some earliest => decide (timer.expiration < Entry.time earliest)

/-- The queue with one more timer in both sets. -/
def enqueued (s : TimerQueue) (address : Nat) (timer : Timer) : TimerQueue :=
  { s with
    timers := s.timers.insert (toLex (timer.expiration, address))
    activeTimers := s.activeTimers.insert (toLex (address, timer.sequence)) }

variable {s : TimerQueue} {address : Nat}

/-- Inserting a live timer from outside satisfies every assertion of the insertion. -/
theorem insert_exact {outside : List Nat} {timer : Timer}
    (shape : Shape s.heap s.timers s.activeTimers outside) (member : address ∈ outside)
    (live : s.heap address = some timer) :
    s.insert address = some (s.earliestChanged timer, s.enqueued address timer) := by
  have unqueued := ((shape.places address).mp member).2 timer.expiration
  have inactive := shape.absent member timer.sequence
  have balanced := (shape.enqueue member live).sizes
  simp only [insert, shape.sizes, live, unqueued, inactive, balanced, not_false_eq_true,
    guard_true, Option.bind_eq_bind, Option.pure_def, Option.bind_some]
  rfl

/-- What holds between any two steps of a run. -/
structure Invariant (s : TimerQueue) : Prop where
  shape : Shape s.heap s.timers s.activeTimers (s.posted ++ s.batch.map Entry.timer)
  numbering : Numbering s.heap s.numCreated s.posted s.log
  deletions : Deletions s.heap s.numCreated s.log
  calls : Calls s.heap s.numCreated s.log (s.batch.map Entry.timer)
    (s.waiting.map Entry.timer)
  causes : Causes s.cancelingTimers s.log
  timed : ∀ entry ∈ s.batch, ∃ timer, s.heap (Entry.timer entry) = some timer ∧
    timer.expiration = Entry.time entry
  due : ∀ dispatch, s.dispatch = some dispatch →
    (∀ entry ∈ dispatch.expired, Entry.time entry ≤ dispatch.now) ∧
      dispatch.remaining <:+ dispatch.expired
  calling : s.callingExpiredTimers = s.dispatch.isSome

theorem initial_invariant : Invariant initial := by
  refine ⟨⟨?_, ?_, ?_, rfl, List.nodup_nil, ?_⟩, ⟨?_, ?_, ?_, ?_, ?_, ?_⟩, ⟨?_, ?_, ?_, ?_⟩,
    ⟨?_, ?_, ?_, ?_, ?_⟩, ⟨?_, ?_⟩, ?_, ?_, rfl⟩ <;>
    simp [initial, batch, TimerEvent.deletions, TimerEvent.runs]

/-- An allocated address that is free cannot belong to the batch. -/
theorem Invariant.free_idle (invariant : Invariant s)
    (free : s.heap address = none) : address ∉ s.batch.map Entry.timer := by
  intro member
  obtain ⟨entry, batched, rfl⟩ := List.mem_map.mp member
  obtain ⟨timer, live, _⟩ := invariant.timed entry batched
  rw [free] at live
  cases live

theorem newTimer_invariant (invariant : Invariant s)
    (free : s.heap address = none) (below : address < UINTPTR_MAX) (expiration : Int)
    (interval : Interval) : Invariant (s.newTimer address expiration interval) := by
  have idle := invariant.free_idle free
  refine ⟨?_, ?_, ?_, ?_, ?_, ?_, invariant.due, invariant.calling⟩
  · exact invariant.shape.create free below _
  · exact invariant.numbering.create rfl
  · exact (invariant.deletions.create free rfl).note _ (fun _ => rfl)
  · exact invariant.calls.create idle rfl
  · exact invariant.causes.note _ (fun _ => rfl)
  · intro entry batched
    obtain ⟨timer, live, same⟩ := invariant.timed entry batched
    have apart : Entry.timer entry ≠ address := by
      intro equal
      rw [equal, free] at live
      cases live
    refine ⟨timer, ?_, same⟩
    simpa only [newTimer, Function.update_of_ne apart] using live

/-- Adding a posted timer succeeds. Arming the descriptor touches nothing else. -/
theorem addTimerInLoop_invariant (invariant : Invariant s)
    (posted : address ∈ s.posted) (clock : Readings) :
    ∃ timer, s.heap address = some timer ∧
      let added : TimerQueue :=
        { s.enqueued address timer with
          posted := s.posted.erase address
          log := s.log ++ [.added address timer.sequence] }
      s.addTimerInLoop address clock = some
        (if s.earliestChanged timer then added.resetTimerfd timer.expiration clock else added) ∧
      Invariant added := by
  have member : address ∈ s.posted ++ s.batch.map Entry.timer := List.mem_append_left _ posted
  obtain ⟨⟨timer, live⟩, _⟩ := (invariant.shape.places address).mp member
  refine ⟨timer, live, ?_, ?_, ?_, ?_, ?_, ?_, invariant.timed, invariant.due,
    invariant.calling⟩
  · simp only [addTimerInLoop, insert_exact invariant.shape member live, Option.bind_eq_bind,
      Option.bind_some, Option.pure_def]
    have kept : (s.enqueued address timer).heap address = some timer := live
    rw [kept]
    simp only [Option.bind_some]
    split <;> rfl
  · have moved := invariant.shape.enqueue member live
    rw [List.erase_append_left _ posted] at moved
    exact moved
  · exact invariant.numbering.add
      (invariant.shape.nodup.sublist (List.sublist_append_left _ _)) live
  · exact invariant.deletions.note _ (fun _ => rfl)
  · exact invariant.calls.note _ (fun _ => rfl) (fun _ _ _ => nofun)
  · exact invariant.causes.note _ (fun _ => rfl)

/-- The queue after the call of a cancel has been recorded. -/
def requested (s : TimerQueue) (id : TimerId) : TimerQueue :=
  { s with log := s.log ++ [.cancelled id] }

/-- The queue without one queued timer, which has been deleted. -/
def dequeued (s : TimerQueue) (address : Nat) (timer : Timer) : TimerQueue :=
  { s with
    heap := Function.update s.heap address none
    timers := s.timers.erase (toLex (timer.expiration, address))
    activeTimers := s.activeTimers.erase (toLex (address, timer.sequence))
    log := s.log ++ [.deleted timer.sequence] }

/-- The queue with one more identifier remembered as cancelled. -/
def remembered (s : TimerQueue) (id : TimerId) : TimerQueue :=
  { s with cancelingTimers := s.cancelingTimers.insert (toLex (id.timer, id.sequence)) }

/-- Everything a cancel can do: it removes the queued timer with this address and
sequence number, or remembers the identifier during a dispatch, or does nothing. -/
theorem cancelInLoop_cases (invariant : Invariant s) (id : TimerId) :
    (∃ timer, s.heap id.timer = some timer ∧ timer.sequence = id.sequence ∧
        toLex (timer.expiration, id.timer) ∈ s.timers ∧
        s.cancelInLoop id = some ((s.requested id).dequeued id.timer timer)) ∨
      (toLex (id.timer, id.sequence) ∉ s.activeTimers ∧ s.dispatch ≠ none ∧
        s.cancelInLoop id = some ((s.requested id).remembered id)) ∨
      (toLex (id.timer, id.sequence) ∉ s.activeTimers ∧ s.dispatch = none ∧
        s.cancelInLoop id = some (s.requested id)) := by
  have sizes := invariant.shape.sizes
  by_cases active : toLex (id.timer, id.sequence) ∈ s.activeTimers
  · obtain ⟨timer, live, number, queued⟩ := (invariant.shape.active _ _).mp active
    have balanced := (invariant.shape.cancel live queued).sizes
    refine Or.inl ⟨timer, live, number, queued, ?_⟩
    rw [number] at balanced
    simp only [cancelInLoop, sizes, active, live, queued, delete, balanced, if_true, guard_true,
      Option.bind_eq_bind, Option.pure_def, Option.bind_some]
    simp only [dequeued, requested, number]
  · by_cases idle : s.dispatch = none
    · have flag : s.callingExpiredTimers = false := by
        rw [invariant.calling, idle]
        rfl
      refine Or.inr (Or.inr ⟨active, idle, ?_⟩)
      simp [cancelInLoop, sizes, active, flag, requested]
    · have flag : s.callingExpiredTimers = true := by
        rw [invariant.calling]
        exact Option.isSome_iff_ne_none.mpr idle
      refine Or.inr (Or.inl ⟨active, idle, ?_⟩)
      simp [cancelInLoop, sizes, active, flag, requested, remembered]

theorem requested_invariant (invariant : Invariant s) (id : TimerId) :
    Invariant (s.requested id) := by
  refine ⟨invariant.shape, ?_, ?_, ?_, ?_, invariant.timed, invariant.due, invariant.calling⟩
  · exact invariant.numbering.note _ (fun _ _ _ => nofun) (fun _ _ => nofun)
  · exact invariant.deletions.note _ (fun _ => rfl)
  · exact invariant.calls.note _ (fun _ => rfl) (fun _ _ _ => nofun)
  · exact invariant.causes.note _ (fun _ => rfl)

theorem dequeued_invariant (invariant : Invariant s)
    {timer : Timer} (live : s.heap address = some timer)
    (queued : toLex (timer.expiration, address) ∈ s.timers)
    (reason : ∃ id, .cancelled id ∈ s.log ∧ id.sequence = timer.sequence) :
    Invariant (s.dequeued address timer) := by
  have survives : ∀ other object, Function.update s.heap address none other = some object →
      ∃ before, s.heap other = some before ∧ before.sequence = object.sequence ∧
        before.repeats = object.repeats := by
    intro other object found
    rw [Function.update_apply] at found
    split at found
    · cases found
    · exact ⟨object, found, rfl, rfl⟩
  refine ⟨invariant.shape.cancel live queued, ?_, ?_, ?_, ?_, ?_, invariant.due,
    invariant.calling⟩
  · exact (invariant.numbering.survive survives).note _ (fun _ _ _ => nofun) (fun _ _ => nofun)
  · exact invariant.deletions.delete invariant.numbering live
  · exact invariant.calls.forget.note _ (fun _ => rfl) (fun _ _ _ => nofun)
  · exact invariant.causes.delete _ (Or.inr reason)
  · intro entry batched
    obtain ⟨object, found, same⟩ := invariant.timed entry batched
    have apart : Entry.timer entry ≠ address := by
      intro equal
      have outside : address ∈ s.posted ++ s.batch.map Entry.timer :=
        List.mem_append_right _ (equal ▸ List.mem_map_of_mem batched)
      exact ((invariant.shape.places address).mp outside).2 _ queued
    refine ⟨object, ?_, same⟩
    simpa only [dequeued, Function.update_of_ne apart] using found

theorem remembered_invariant (invariant : Invariant s) (id : TimerId)
    (noted : .cancelled id ∈ s.log) : Invariant (s.remembered id) := by
  refine ⟨invariant.shape, invariant.numbering, invariant.deletions, invariant.calls,
    ⟨?_, invariant.causes.justified⟩, invariant.timed, invariant.due, invariant.calling⟩
  intro address sequence member
  rcases (OrderedSet.mem_insert _ _ _).mp member with same | old
  · obtain ⟨rfl, rfl⟩ := (pair_eq _ _ _ _).mp same
    exact noted
  · exact invariant.causes.requested address sequence old

theorem cancelInLoop_invariant (invariant : Invariant s) (id : TimerId) :
    ∃ next, s.cancelInLoop id = some next ∧ Invariant next := by
  have asked := requested_invariant invariant id
  have noted : .cancelled id ∈ (s.requested id).log := by simp [requested]
  obtain ⟨timer, live, number, queued, done⟩ | ⟨_, _, done⟩ | ⟨_, _, done⟩ :=
    cancelInLoop_cases invariant id
  · exact ⟨_, done, dequeued_invariant asked live queued ⟨id, noted, number.symm⟩⟩
  · exact ⟨_, done, remembered_invariant asked id noted⟩
  · exact ⟨_, done, asked⟩

end TimerQueue

end Moban
