import Moban.LoopOrder

/-!
# Waking the loop up

A poll may block, so a functor that is already queued when the loop polls must find the
wakeup counter raised. Other threads always raise it. The loop thread raises it only
while functors are being called, on the ground that a functor queued by an event callback
is taken out of the queue before the next poll.

The loop thread also runs user code before `loop` is entered, and in the destructors of
captured values after the flag has been cleared. Functors queued there are not taken out
before the next poll, and nothing raises the counter for them.
-/

namespace Moban

open Runs Function

namespace Phase

variable {F : Type}

/-- The queue will be taken out before the next poll. -/
def drains : Phase F → Bool
  | .handling _ | .swapping => true
  | _ => false

end Phase

namespace EventLoop

variable {F : Type} {s next : EventLoop F}

/-- The condition on a step: the loop thread queues functors only while it handles
events or calls functors, or when the counter is raised already. -/
def Heeded (s : EventLoop F) : Label F → Prop
  | .queueInLoop .loop _ =>
      s.phase.eventful = true ∨ s.phase.calling = true ∨ 0 < s.wakeupFd
  | _ => True

instance (s : EventLoop F) : (label : Label F) → Decidable (s.Heeded label)
  | .queueInLoop .loop _ => instDecidableOr
  | .queueInLoop (.thread _) _ | .quit _ | .complete _ | .loop | .test | .poll _ | .handleWakeup
  | .beginFunctors | .swapFunctors | .runFunctor | .endFunctors | .destroyFunctors =>
      instDecidableTrue

/-- A pending functor whose call has returned finds the counter raised, unless the queue
is taken out first. The same will hold of the functor the loop thread is just queueing. -/
structure Awake (s : EventLoop F) : Prop where
  known : ∀ ticket ∈ s.returned, ticket < s.appended.length
  begun : ∀ caller ticket, s.calls caller = some (.queueInLoop ticket) →
    ticket < s.appended.length
  raised : s.phase.drains = false → ∀ task ∈ s.pendingFunctors, task.ticket ∈ s.returned →
    0 < s.wakeupFd
  own : ∀ ticket, s.calls .loop = some (.queueInLoop ticket) →
    s.phase.eventful = true ∨ s.phase.calling = true ∨ 0 < s.wakeupFd

theorem initial_awake : Awake (initial : EventLoop F) := ⟨nofun, nofun, nofun, nofun⟩

/-- The loop thread moves on, outside its own calls, with the queue as it was. -/
theorem Awake.advance (awake : Awake s) (free : s.calls .loop = none)
    (frame : next.calls = s.calls ∧ next.returned = s.returned ∧ next.appended = s.appended)
    (raised : next.phase.drains = false → ∀ task ∈ next.pendingFunctors,
      task.ticket ∈ next.returned → 0 < next.wakeupFd) : Awake next := by
  obtain ⟨calls, returned, appended⟩ := frame
  refine ⟨?_, ?_, raised, ?_⟩
  · rw [returned, appended]
    exact awake.known
  · rw [calls, appended]
    exact awake.begun
  · rw [calls, free]
    exact nofun

/-- Where the loop goes on to drain the queue, the counter does not matter. -/
theorem Awake.drain (awake : Awake s) (free : s.calls .loop = none)
    (frame : next.calls = s.calls ∧ next.returned = s.returned ∧ next.appended = s.appended)
    (drains : next.phase.drains = true) : Awake next := by
  apply awake.advance free frame
  intro kept
  cases kept.symm.trans drains

/-- A new functor has not been returned from. -/
theorem queueInLoop_awake {s : EventLoop F} (awake : Awake s) (caller : Caller) (functor : F)
    (heeded : s.Heeded (.queueInLoop caller functor)) :
    Awake (s.queueInLoop caller functor) := by
  have longer : (s.queueInLoop caller functor).appended.length = s.appended.length + 1 := by
    simp [queueInLoop]
  constructor
  · intro ticket member
    rw [longer]
    exact Nat.lt_succ_of_lt (awake.known ticket member)
  · intro other ticket call
    rw [longer]
    simp only [queueInLoop, update_apply] at call
    split at call
    · cases call
      exact Nat.lt_succ_self _
    · exact Nat.lt_succ_of_lt (awake.begun other ticket call)
  · intro kept task member returned
    rcases List.mem_append.mp member with old | new
    · exact awake.raised kept task old returned
    · cases List.mem_singleton.mp new
      exact absurd (awake.known _ returned) (Nat.lt_irrefl _)
  · intro ticket call
    cases caller with
    | loop => exact heeded
    | thread identifier =>
      have other : Caller.loop ≠ .thread identifier := by simp
      simp only [queueInLoop, update_of_ne other] at call
      exact awake.own ticket call

/-- A call that is still to raise the counter raises it before it returns. The loop
thread's own call needs that only where it also does it. -/
theorem complete_awake {s : EventLoop F} (positioned : Positioned s) (awake : Awake s)
    (caller : Caller) : Awake (s.complete caller) := by
  have fewer : ∀ other ticket,
      update s.calls caller none other = some (.queueInLoop ticket) →
        s.calls other = some (.queueInLoop ticket) := by
    intro other ticket call
    rw [update_apply] at call
    split at call
    · cases call
    · exact call
  unfold complete
  split
  · exact awake
  case h_2 ticket call =>
    have known : ∀ other ∈ ticket :: s.returned, other < s.appended.length := by
      intro other member
      rcases List.mem_cons.mp member with rfl | old
      · exact awake.begun caller _ call
      · exact awake.known other old
    split
    · exact ⟨known, fun other number begun => awake.begun other number (fewer _ _ begun),
        fun _ _ _ _ => Nat.succ_pos _, fun _ _ => Or.inr (Or.inr (Nat.succ_pos _))⟩
    case isFalse silent =>
      simp only [Bool.or_eq_true, Bool.not_eq_true', not_or, Bool.not_eq_false,
        Bool.not_eq_true, isInLoopThread, decide_eq_true_eq] at silent
      obtain ⟨rfl, flag⟩ := silent
      have notCalling : s.phase.calling ≠ true := by
        rw [← positioned.calling, flag]
        exact nofun
      refine ⟨known, fun other number begun => awake.begun other number (fewer _ _ begun), ?_, ?_⟩
      · intro kept task _ _
        rcases awake.own ticket call with eventful | calling | positive
        · cases phase : s.phase <;> simp_all [Phase.eventful, Phase.drains]
        · exact absurd calling notCalling
        · exact positive
      · intro number begun
        have cleared : update s.calls .loop none .loop = none := update_self _ _ _
        cases cleared.symm.trans begun
  · split
    · exact ⟨awake.known, fun other number begun => awake.begun other number (fewer _ _ begun),
        fun _ _ _ _ => Nat.succ_pos _, fun _ _ => Or.inr (Or.inr (Nat.succ_pos _))⟩
    · exact ⟨awake.known, fun other number begun => awake.begun other number (fewer _ _ begun),
        awake.raised, fun number begun => awake.own number (fewer _ _ begun)⟩

/-- A step that meets the condition keeps the loop awake. -/
theorem step_awake {label : Label F} (positioned : Positioned s)
    (enabled : s.Enabled label) (heeded : s.Heeded label) (awake : Awake s)
    (stepped : s.step label = some next) : Awake next := by
  cases label with
  | queueInLoop caller functor =>
    cases stepped
    exact queueInLoop_awake awake caller functor heeded
  | quit caller =>
    cases stepped
    have fewer : ∀ other ticket,
        update s.calls caller (some .quit) other = some (.queueInLoop ticket) →
          s.calls other = some (.queueInLoop ticket) := by
      intro other ticket call
      rw [update_apply] at call
      split at call
      · cases call
      · exact call
    exact ⟨awake.known, fun other ticket begun => awake.begun other ticket (fewer _ _ begun),
      awake.raised, fun ticket begun => awake.own ticket (fewer _ _ begun)⟩
  | complete caller =>
    cases stepped
    exact complete_awake positioned awake caller
  | loop =>
    obtain ⟨free, phase⟩ := enabled
    have idle : s.looping = false := by
      rw [positioned.looping, phase]
      rfl
    cases (loop_exact idle).symm.trans stepped
    refine awake.advance free ⟨rfl, rfl, rfl⟩ ?_
    intro _
    exact awake.raised (by rw [phase]; rfl)
  | test =>
    cases stepped
    have phase : s.phase = .testing := enabled
    have free := positioned.idle (by simp [userCode, phase])
    have raised := awake.raised (by rw [phase]; rfl)
    unfold test
    split
    · exact awake.advance free ⟨rfl, rfl, rfl⟩ fun _ => raised
    · exact awake.advance free ⟨rfl, rfl, rfl⟩ fun _ => raised
  | poll ready =>
    cases stepped
    have free := positioned.idle (by simp [userCode, enabled.1])
    exact awake.drain free ⟨rfl, rfl, rfl⟩ rfl
  | handleWakeup =>
    obtain ⟨free, phase⟩ := enabled
    cases (handleWakeup_exact (positioned.readable phase)).symm.trans stepped
    exact awake.drain free ⟨rfl, rfl, rfl⟩ rfl
  | beginFunctors =>
    cases stepped
    exact awake.drain enabled.1 ⟨rfl, rfl, rfl⟩ rfl
  | swapFunctors =>
    cases stepped
    have phase : s.phase = .swapping := enabled
    have free := positioned.idle (by simp [userCode, phase])
    exact awake.advance free ⟨rfl, rfl, rfl⟩
      fun _ task member => absurd member List.not_mem_nil
  | runFunctor =>
    cases stepped
    obtain ⟨free, batch⟩ := enabled
    unfold hasFunctor at batch
    split at batch
    case h_1 task rest phase =>
      have raised := awake.raised (by rw [phase]; rfl)
      simp only [runFunctor, phase]
      exact awake.advance free ⟨rfl, rfl, rfl⟩ fun _ => raised
    · cases batch
  | endFunctors =>
    cases stepped
    have raised := awake.raised (by rw [enabled.2]; rfl)
    exact awake.advance enabled.1 ⟨rfl, rfl, rfl⟩ fun _ => raised
  | destroyFunctors =>
    cases stepped
    have raised := awake.raised (by rw [enabled.2]; rfl)
    exact awake.advance enabled.1 ⟨rfl, rfl, rfl⟩ fun _ => raised

/-- In every run in which the loop thread queues functors only while it handles events or
calls functors, or with the counter raised, the loop never polls with the counter at zero
while a functor is pending whose call has returned.

Proof: the loop stays awake along the run, and a poll does not drain the queue. -/
theorem never_sleeps_on_pending (labels : List (Label F))
    (valid : system.Valid initial labels) (heeded : system.Along Heeded initial labels) :
    ∃ s, system.run initial labels = some s ∧
      (s.phase = .polling → ∀ task ∈ s.pendingFunctors, task.ticket ∈ s.returned →
        0 < s.wakeupFd) := by
  have kept : ∀ (s : EventLoop F) label, Positioned s ∧ Awake s →
      system.enabled s label ∧ Heeded s label →
        ∃ next, system.step s label = some next ∧ Positioned next ∧ Awake next := by
    rintro s label ⟨positioned, awake⟩ ⟨enabled, careful⟩
    obtain ⟨next, stepped, position⟩ := step_positioned s label positioned enabled
    exact ⟨next, stepped, position, step_awake positioned enabled careful awake stepped⟩
  obtain ⟨s, finished, _, awake⟩ := System.run_safe _ kept initial labels
    ⟨initial_positioned, initial_awake⟩ ((System.along_and _ _ _ _).mpr ⟨valid, heeded⟩)
  refine ⟨s, finished, ?_⟩
  intro polling
  exact awake.raised (by rw [polling]; rfl)

/-- A functor and an event callback queue further functors; the loop polls again with the
counter raised by the functor. -/
theorem never_sleeps_on_pending_reentrant : ∃ s, system.run (initial : EventLoop Nat)
      [.loop, .test, .queueInLoop (.thread 0) 7, .complete (.thread 0), .poll true,
        .handleWakeup, .queueInLoop .loop 8, .complete .loop, .beginFunctors, .swapFunctors,
        .runFunctor, .queueInLoop .loop 9, .complete .loop, .runFunctor, .endFunctors,
        .destroyFunctors, .test] = some s ∧
      (s.phase = .polling → ∀ task ∈ s.pendingFunctors, task.ticket ∈ s.returned →
        0 < s.wakeupFd) :=
  never_sleeps_on_pending _ (by decide) (by decide)

/-- A functor is queued by the loop thread before it enters the loop, or by the destructor of a
captured value after the batch. -/
def queuedUnnoticed : List (List (Label Nat)) :=
  [[.queueInLoop .loop 7, .complete .loop, .loop, .test],
    [.loop, .test, .queueInLoop (.thread 0) 7, .complete (.thread 0), .poll true, .handleWakeup,
      .beginFunctors, .swapFunctors, .runFunctor, .endFunctors, .queueInLoop .loop 8,
      .complete .loop, .destroyFunctors, .test]]

/-- The loop polls with the counter at zero and a functor pending whose call has returned. -/
theorem loop_sleeps_on_pending : queuedUnnoticed.Forall fun labels =>
    system.Valid initial labels ∧ ∃ s, system.run initial labels = some s ∧ s.phase = .polling ∧
      (∃ task ∈ s.pendingFunctors, task.ticket ∈ s.returned) ∧ s.wakeupFd = 0 := by
  refine List.forall_iff_forall_mem.mpr fun labels listed => ?_
  simp only [queuedUnnoticed, List.mem_cons, List.not_mem_nil, or_false] at listed
  rcases listed with rfl | rfl
  · exact ⟨by decide, _, rfl, by decide, by decide, by decide⟩
  · exact ⟨by decide, _, rfl, by decide, by decide, by decide⟩

end EventLoop

end Moban
