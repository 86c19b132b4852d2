import Mathlib

/-!
# Condition variables

A condition variable is seen by its users as two sets of threads: those that are blocked on
it, and those that a notification has released but that have not run since. A thread that
wakes up on its own, or whose wait expires, is in neither.

No wakeup is lost when the opportunities that blocked threads wait for never outnumber the
released threads, as long as some thread is blocked. This is kept when every new opportunity
comes with a notification, and when a released thread that runs uses one up or finds none.
-/

namespace Moban

universe u

structure CondVar (Thread : Type u) where
  waiting : Finset Thread
  /-- Released, and not running yet. -/
  notified : Finset Thread
  apart : Disjoint waiting notified

namespace CondVar

variable {Thread : Type u}

/-- No thread uses the variable. -/
def idle : CondVar Thread := ⟨∅, ∅, Finset.disjoint_empty_left _⟩

/-- The opportunities do not outnumber the released threads while some thread is blocked. -/
def Covers (condition : CondVar Thread) (available : Nat) : Prop :=
  condition.waiting.Nonempty → available ≤ condition.notified.card

/-- What `notifyOne` may release: any of the blocked threads, and none only if none is blocked. -/
def Chooses (condition : CondVar Thread) : Option Thread → Prop
  | none => condition.waiting = ∅
  | some thread => thread ∈ condition.waiting

variable [DecidableEq Thread] {condition : CondVar Thread}

instance (condition : CondVar Thread) : DecidablePred condition.Chooses
  | none => decEq _ _
  | some thread => inferInstanceAs (Decidable (thread ∈ condition.waiting))

/-- The thread blocks. -/
def wait (condition : CondVar Thread) (thread : Thread) : CondVar Thread where
  waiting := insert thread condition.waiting
  notified := condition.notified.erase thread
  apart := by
    rw [Finset.disjoint_insert_left]
    exact ⟨Finset.notMem_erase _ _, condition.apart.mono_right (Finset.erase_subset _ _)⟩

/-- The thread wakes up without a notification. -/
def wake (condition : CondVar Thread) (thread : Thread) : CondVar Thread where
  waiting := condition.waiting.erase thread
  notified := condition.notified
  apart := condition.apart.mono_left (Finset.erase_subset _ _)

/-- The thread runs. -/
def proceed (condition : CondVar Thread) (thread : Thread) : CondVar Thread where
  waiting := condition.waiting
  notified := condition.notified.erase thread
  apart := condition.apart.mono_right (Finset.erase_subset _ _)

def notifyOne (condition : CondVar Thread) : Option Thread → CondVar Thread
  | none => condition
  | some thread =>
    { waiting := condition.waiting.erase thread
      notified := insert thread condition.notified
      apart := by
        rw [Finset.disjoint_insert_right]
        exact ⟨Finset.notMem_erase _ _, condition.apart.mono_left (Finset.erase_subset _ _)⟩ }

def notifyAll (condition : CondVar Thread) : CondVar Thread where
  waiting := ∅
  notified := condition.waiting ∪ condition.notified
  apart := Finset.disjoint_empty_left _

theorem wake_waiting_of_empty (quiet : condition.waiting = ∅)
    (thread : Thread) : (condition.wake thread).waiting = ∅ := by
  simp [wake, quiet]

theorem notifyOne_waiting_of_empty (quiet : condition.waiting = ∅)
    (woken : Option Thread) : (condition.notifyOne woken).waiting = ∅ := by
  cases woken with
  | none => exact quiet
  | some thread => simp [notifyOne, quiet]

/-! ## Counting -/

omit [DecidableEq Thread] in
theorem covers_zero (condition : CondVar Thread) : condition.Covers 0 := fun _ => Nat.zero_le _

omit [DecidableEq Thread] in
theorem covers_of_empty (quiet : condition.waiting = ∅)
    (available : Nat) : condition.Covers available := by
  intro blocked
  rw [quiet] at blocked
  exact absurd blocked Finset.not_nonempty_empty

omit [DecidableEq Thread] in
theorem Covers.mono {available fewer : Nat}
    (covered : condition.Covers available) (less : fewer ≤ available) : condition.Covers fewer :=
  fun blocked => less.trans (covered blocked)

theorem Covers.wake {available : Nat} (covered : condition.Covers available) (thread : Thread) :
    (condition.wake thread).Covers available :=
  fun blocked => covered (blocked.mono (Finset.erase_subset _ _))

/-- A thread that runs accounts for one opportunity. -/
theorem Covers.proceed {available : Nat} (covered : condition.Covers available) (thread : Thread) :
    (condition.proceed thread).Covers (available - 1) := by
  intro blocked
  have before := covered blocked
  have fewer : condition.notified.card - 1 ≤ (condition.notified.erase thread).card :=
    Finset.pred_card_le_card_erase
  exact (Nat.sub_le_sub_right before 1).trans fewer

/-- A notification accounts for one more opportunity.

Proof: when no thread is blocked there is nothing to account for; otherwise the chosen
thread was not among the released ones. -/
theorem Covers.notifyOne {available : Nat}
    (covered : condition.Covers available) {woken : Option Thread}
    (chosen : condition.Chooses woken) : (condition.notifyOne woken).Covers (available + 1) := by
  cases woken with
  | none => exact covers_of_empty chosen _
  | some thread =>
    intro _
    have fresh : thread ∉ condition.notified := Finset.disjoint_left.mp condition.apart chosen
    have before := covered ⟨thread, chosen⟩
    simpa [CondVar.notifyOne, Finset.card_insert_of_notMem fresh] using before

end CondVar

end Moban
