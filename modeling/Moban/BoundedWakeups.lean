import Moban.BoundedBlockingQueue

/-!
# The wakeups of the bounded blocking queue

A consumer waits for a value and a producer for an empty cell. A notification may release a
thread whose value or cell another thread takes first, or one whose wait expires at that
moment. No wakeup is lost all the same: as long as a thread of one kind is blocked, there are
at least as many released threads of that kind as there are values, or empty cells, to use.
-/

namespace Moban.BoundedBlockingQueue

open Runs

variable {α Thread : Type} [DecidableEq Thread]

/-- Every value and every empty cell is accounted for, and nobody is blocked after a stop. -/
structure Attended (s : BoundedBlockingQueue α Thread) : Prop where
  consumers : s.cvEmpty.Covers s.size
  producers : s.cvFull.Covers (s.maxSize - s.size)
  quiet : s.stopped = true → s.cvEmpty.waiting = ∅ ∧ s.cvFull.waiting = ∅

/-- What is accounted for when a thread has the mutex: its own call may have been released for
one of the opportunities. -/
structure Entered (s : BoundedBlockingQueue α Thread) (call : Call α) : Prop where
  consumers : s.cvEmpty.Covers (if call.consumes then s.size - 1 else s.size)
  producers : s.cvFull.Covers
    (if call.consumes then s.maxSize - s.size else s.maxSize - s.size - 1)
  quiet : s.stopped = true → s.cvEmpty.waiting = ∅ ∧ s.cvFull.waiting = ∅

/-- The thread that the call releases when it notifies. -/
def Releases (s : BoundedBlockingQueue α Thread) (call : Call α) (woken : Option Thread) : Prop :=
  if call.consumes then s.cvFull.Chooses woken else s.cvEmpty.Chooses woken

section Steps

variable {s next : BoundedBlockingQueue α Thread} {thread : Thread} {woken : Option Thread}
  {value : α} {call : Call α} {label : Label α Thread}

omit [DecidableEq Thread] in
theorem Attended.entered (attended : Attended s) (call : Call α) : Entered s call where
  consumers := attended.consumers.mono (by split_ifs <;> omega)
  producers := attended.producers.mono (by split_ifs <;> omega)
  quiet := attended.quiet

/-- A thread that gets the mutex back leaves the released threads. -/
theorem Attended.continued (attended : Attended s) (thread : Thread) (call : Call α) :
    Entered (s.continued thread call) call := by
  cases call with
  | push value => exact ⟨attended.consumers, attended.producers.proceed thread, attended.quiet⟩
  | pop => exact ⟨attended.consumers.proceed thread, attended.producers, attended.quiet⟩
  | tryPopFor expired =>
    exact ⟨attended.consumers.proceed thread, attended.producers, attended.quiet⟩

theorem Attended.conclude (attended : Attended s) (thread : Thread) (call : Call α)
    (result : Option (Option α)) : Attended (s.conclude thread call result) := by
  cases result with
  | none => exact ⟨attended.consumers, attended.producers, attended.quiet⟩
  | some returned => exact ⟨attended.consumers, attended.producers, attended.quiet⟩

/-- A written value comes with a notification, and uses up a cell. -/
theorem emplaceInternal_attended (consumers : s.cvEmpty.Covers s.size)
    (producers : s.cvFull.Covers (s.maxSize - s.size - 1)) (running : s.stopped = false)
    (chosen : s.cvEmpty.Chooses woken) (done : s.emplaceInternal value woken = some next) :
    Attended next := by
  obtain ⟨_, _, rfl⟩ := emplaceInternal_inv done
  refine ⟨consumers.notifyOne chosen, producers, ?_⟩
  intro stopped
  exact absurd (running.symm.trans stopped) Bool.false_ne_true

/-- A value taken out leaves a cell that comes with a notification. -/
theorem popInternal_attended (consumers : s.cvEmpty.Covers (s.size - 1))
    (producers : s.cvFull.Covers (s.maxSize - s.size)) (running : s.stopped = false)
    (chosen : s.cvFull.Chooses woken) (done : s.popInternal woken = some (next, value)) :
    Attended next := by
  obtain ⟨_, _, _, rfl⟩ := popInternal_inv done
  refine ⟨consumers, (producers.notifyOne chosen).mono ?_, ?_⟩
  · change s.maxSize - (s.size - 1) ≤ s.maxSize - s.size + 1
    omega
  · intro stopped
    exact absurd (running.symm.trans stopped) Bool.false_ne_true

/-- Whatever a call does with the mutex, every opportunity is accounted for afterwards.

Proof: a call that waits, or gives up, has found no opportunity of its kind; after a stop
nobody is blocked; the other two outcomes are those of the ring. -/
theorem Acts.attended {result : Option (Option α)}
    (acts : Acts s thread woken call next result) (entered : Entered s call)
    (releases : s.Releases call woken) : Attended next := by
  cases acts with
  | awaitsSpace full running =>
    refine ⟨entered.consumers, ?_, ?_⟩
    · have full : s.maxSize - s.size = 0 := by omega
      exact full ▸ CondVar.covers_zero _
    · intro stopped
      exact absurd (running.symm.trans stopped) Bool.false_ne_true
  | awaitsValue consumes empty running =>
    have producers := entered.producers
    rw [if_pos consumes] at producers
    refine ⟨?_, producers, ?_⟩
    · exact empty ▸ CondVar.covers_zero _
    · intro stopped
      exact absurd (running.symm.trans stopped) Bool.false_ne_true
  | givesUp consumes empty =>
    have producers := entered.producers
    rw [if_pos consumes] at producers
    exact ⟨empty ▸ CondVar.covers_zero _, producers, entered.quiet⟩
  | stops stopped =>
    obtain ⟨consumers, producers⟩ := entered.quiet stopped
    exact ⟨CondVar.covers_of_empty consumers _, CondVar.covers_of_empty producers _,
      entered.quiet⟩
  | emplaces space running done =>
    exact emplaceInternal_attended entered.consumers entered.producers running releases done
  | pops consumes running done =>
    obtain ⟨consumers, producers, _⟩ := entered
    rw [Releases, if_pos consumes] at releases
    rw [if_pos consumes] at consumers producers
    exact popInternal_attended consumers producers running releases done

theorem attempt_attended (entered : Entered s call) (releases : s.Releases call woken)
    (done : s.attempt thread woken call = some next) : Attended next := by
  obtain ⟨middle, result, acts, rfl⟩ := attempt_inv done
  exact (acts.attended entered releases).conclude thread call result

theorem tryPush_attended {accepts : Bool} (attended : Attended s)
    (chosen : s.cvEmpty.Chooses woken) (done : s.tryPush value woken = some (next, accepts)) :
    Attended next := by
  rcases tryPush_inv done with rfl | ⟨_, running, written⟩
  · exact attended
  · have fewer := attended.producers.mono (Nat.sub_le _ 1)
    exact emplaceInternal_attended attended.consumers fewer running chosen written

theorem step_attended (attended : Attended s) (enabled : s.Enabled label)
    (stepped : s.step label = some next) : Attended next := by
  cases label with
  | push thread value woken =>
    have ran : s.attempt thread woken (.push value) = some next := stepped
    have releases : s.Releases (.push value) woken := enabled.2
    exact attempt_attended (attended.entered _) releases ran
  | tryPush thread value woken =>
    obtain ⟨⟨middle, accepts⟩, tried, rfl⟩ := Option.map_eq_some_iff.mp stepped
    exact tryPush_attended attended enabled.2 tried
  | pop thread woken =>
    have ran : s.attempt thread woken .pop = some next := stepped
    have releases : s.Releases .pop woken := enabled.2
    exact attempt_attended (attended.entered _) releases ran
  | tryPopFor thread woken =>
    have ran : s.attempt thread woken (.tryPopFor false) = some next := stepped
    have releases : s.Releases (.tryPopFor false) woken := enabled.2
    exact attempt_attended (attended.entered _) releases ran
  | stop thread =>
    cases stepped
    exact ⟨CondVar.covers_of_empty rfl _, CondVar.covers_of_empty rfl _, fun _ => ⟨rfl, rfl⟩⟩
  | wake thread =>
    cases stepped
    refine ⟨attended.consumers.wake thread, attended.producers.wake thread, ?_⟩
    intro stopped
    obtain ⟨consumers, producers⟩ := attended.quiet stopped
    exact ⟨CondVar.wake_waiting_of_empty consumers thread,
      CondVar.wake_waiting_of_empty producers thread⟩
  | expire thread =>
    cases stepped
    refine ⟨attended.consumers.wake thread, attended.producers, ?_⟩
    intro stopped
    obtain ⟨consumers, producers⟩ := attended.quiet stopped
    exact ⟨CondVar.wake_waiting_of_empty consumers thread, producers⟩
  | resume thread woken =>
    cases found : s.calls thread with
    | none =>
      simp only [step, found] at stepped
      cases stepped
      exact attended
    | some call =>
      simp only [step, found] at stepped
      simp only [Enabled, found] at enabled
      refine attempt_attended (attended.continued thread call) ?_ stepped
      cases call <;> exact enabled.2

end Steps

end Moban.BoundedBlockingQueue
