import Moban.Runs
import Moban.CondVar
import Moban.CircularWindow

/-!
# The bounded blocking queue

Producers and consumers share a ring of a fixed number of cells under one mutex. Every
notification is given while the mutex is held, so a step is one critical section: from the
lock of the mutex, or the end of a wait, to the unlock or the next wait.

A thread waits with a predicate, which it tests again each time it gets the mutex back. A wait
can end without a notification at any time, and the wait of `tryPopFor` can also expire at any
time, before or after a notification has released the thread.
-/

namespace Moban

open Runs

/-- The ring and the history of its values. -/
structure Ring (α : Type) where
  buffer : List α
  maxSize : Nat
  size : Nat
  front : Nat
  back : Nat
  /-- The values that `push` and `tryPush` have accepted, in order. -/
  accepted : List α
  /-- The values that `pop` and `tryPopFor` have returned, in order. -/
  returned : List α

/-- The remainder. Dividing by zero fails. -/
def modulo (dividend divisor : Nat) : Option Nat :=
  if divisor = 0 then none else some (dividend % divisor)

theorem modulo_of_pos {divisor : Nat} (positive : 0 < divisor) (dividend : Nat) :
    modulo dividend divisor = some (dividend % divisor) := if_neg positive.ne'

namespace BoundedBlockingQueue

/-- A call whose thread has waited and that has not returned. -/
inductive Call (α : Type) where
  | push (value : α)
  | pop
  | tryPopFor (expired : Bool)
deriving DecidableEq

def Call.consumes {α : Type} : Call α → Bool
  | push _ => false
  | pop | tryPopFor _ => true

/-- The wait of the call can still expire. -/
def Call.timed {α : Type} : Call α → Bool
  | tryPopFor expired => !expired
  | push _ | pop => false

end BoundedBlockingQueue

structure BoundedBlockingQueue (α Thread : Type) extends Ring α where
  stopped : Bool
  cvEmpty : CondVar Thread
  cvFull : CondVar Thread
  calls : Thread → Option (BoundedBlockingQueue.Call α)

namespace BoundedBlockingQueue

variable {α Thread : Type}

/-- The constructor gives every cell a default value. -/
def initial [Inhabited α] (maxSize : Nat) : BoundedBlockingQueue α Thread where
  buffer := List.replicate maxSize default
  maxSize := maxSize
  size := 0
  front := 0
  back := 0
  accepted := []
  returned := []
  stopped := false
  cvEmpty := .idle
  cvFull := .idle
  calls := fun _ => none

variable [DecidableEq Thread]

def isEmptyLocked (s : BoundedBlockingQueue α Thread) : Bool := s.size == 0

def isFullLocked (s : BoundedBlockingQueue α Thread) : Bool := s.size == s.maxSize

/-- Write the value behind the others and notify a consumer. There is no cell behind the end of
the buffer. -/
def emplaceInternal (s : BoundedBlockingQueue α Thread) (value : α) (woken : Option Thread) :
    Option (BoundedBlockingQueue α Thread) := do
  guard (s.back < s.buffer.length)
  let back ← modulo (s.back + 1) s.maxSize
  return { s with
    buffer := s.buffer.set s.back value
    back := back
    size := s.size + 1
    cvEmpty := s.cvEmpty.notifyOne woken
    accepted := s.accepted ++ [value] }

/-- Move the first value out and notify a producer. A size of zero cannot be lowered. -/
def popInternal (s : BoundedBlockingQueue α Thread) (woken : Option Thread) :
    Option (BoundedBlockingQueue α Thread × α) := do
  let value ← s.buffer[s.front]?
  let front ← modulo (s.front + 1) s.maxSize
  guard (0 < s.size)
  return ({ s with
    front := front
    size := s.size - 1
    cvFull := s.cvFull.notifyOne woken }, value)

/-! ## The critical sections

Each function starts with the mutex held, at the test of the predicate. No result means that
the thread waits. -/

def push (s : BoundedBlockingQueue α Thread) (thread : Thread) (value : α)
    (woken : Option Thread) : Option (BoundedBlockingQueue α Thread × Option Unit) :=
  if s.isFullLocked && !s.stopped then
    some ({ s with cvFull := s.cvFull.wait thread }, none)
  else if s.stopped then some (s, some ())
  else (s.emplaceInternal value woken).map fun next => (next, some ())

def tryPush (s : BoundedBlockingQueue α Thread) (value : α) (woken : Option Thread) :
    Option (BoundedBlockingQueue α Thread × Bool) :=
  if s.isFullLocked || s.stopped then some (s, false)
  else (s.emplaceInternal value woken).map fun next => (next, true)

def pop (s : BoundedBlockingQueue α Thread) (thread : Thread) (woken : Option Thread) :
    Option (BoundedBlockingQueue α Thread × Option (Option α)) :=
  if s.isEmptyLocked && !s.stopped then
    some ({ s with cvEmpty := s.cvEmpty.wait thread }, none)
  else if s.stopped then some (s, some none)
  else (s.popInternal woken).map fun (next, value) => (next, some (some value))

/-- An expired wait is not begun again: the predicate decides. -/
def tryPopFor (s : BoundedBlockingQueue α Thread) (thread : Thread) (expired : Bool)
    (woken : Option Thread) : Option (BoundedBlockingQueue α Thread × Option (Option α)) :=
  if s.isEmptyLocked && !s.stopped then
    if expired then some (s, some none)
    else some ({ s with cvEmpty := s.cvEmpty.wait thread }, none)
  else if s.stopped then some (s, some none)
  else (s.popInternal woken).map fun (next, value) => (next, some (some value))

def stop (s : BoundedBlockingQueue α Thread) : BoundedBlockingQueue α Thread :=
  { s with
    stopped := true
    cvEmpty := s.cvEmpty.notifyAll
    cvFull := s.cvFull.notifyAll }

/-! ## Runs -/

/-- Note the result of a call, or that it waits. -/
def conclude (s : BoundedBlockingQueue α Thread) (thread : Thread) (call : Call α) :
    Option (Option α) → BoundedBlockingQueue α Thread
  | none => { s with calls := Function.update s.calls thread (some call) }
  | some result =>
      { s with
        calls := Function.update s.calls thread none
        returned := s.returned ++ result.toList }

/-- Run a call from the test of its predicate. -/
def attempt (s : BoundedBlockingQueue α Thread) (thread : Thread) (woken : Option Thread) :
    Call α → Option (BoundedBlockingQueue α Thread)
  | .push value => (s.push thread value woken).map fun (next, result) =>
      next.conclude thread (.push value) (result.map fun _ => none)
  | .pop => (s.pop thread woken).map fun (next, result) => next.conclude thread .pop result
  | .tryPopFor expired => (s.tryPopFor thread expired woken).map fun (next, result) =>
      next.conclude thread (.tryPopFor expired) result

/-- The thread of a call that waited has the mutex again. -/
def continued (s : BoundedBlockingQueue α Thread) (thread : Thread) :
    Call α → BoundedBlockingQueue α Thread
  | .push _ => { s with cvFull := s.cvFull.proceed thread }
  | .pop | .tryPopFor _ => { s with cvEmpty := s.cvEmpty.proceed thread }

/-- The steps of the threads. A step that may notify one thread carries the thread it would
release. -/
inductive Label (α Thread : Type) where
  | push (thread : Thread) (value : α) (woken : Option Thread)
  | tryPush (thread : Thread) (value : α) (woken : Option Thread)
  | pop (thread : Thread) (woken : Option Thread)
  | tryPopFor (thread : Thread) (woken : Option Thread)
  | stop (thread : Thread)
  /-- A wait ends without a notification. -/
  | wake (thread : Thread)
  /-- The time of a wait is over. -/
  | expire (thread : Thread)
  /-- A thread gets the mutex back after a wait. -/
  | resume (thread : Thread) (woken : Option Thread)

def step (s : BoundedBlockingQueue α Thread) : Label α Thread →
    Option (BoundedBlockingQueue α Thread)
  | .push thread value woken => s.attempt thread woken (.push value)
  | .tryPush _ value woken => (s.tryPush value woken).map fun (next, _) => next
  | .pop thread woken => s.attempt thread woken .pop
  | .tryPopFor thread woken => s.attempt thread woken (.tryPopFor false)
  | .stop _ => some s.stop
  | .wake thread =>
      some { s with cvEmpty := s.cvEmpty.wake thread, cvFull := s.cvFull.wake thread }
  | .expire thread =>
      some { s with
        cvEmpty := s.cvEmpty.wake thread
        calls := Function.update s.calls thread (some (.tryPopFor true)) }
  | .resume thread woken =>
      match s.calls thread with
      | none => some s
      | some call => (s.continued thread call).attempt thread woken call

/-- The variable on which the call waits has released the thread, and the other one releases
the given thread when it is notified. -/
def Continues (s : BoundedBlockingQueue α Thread) (thread : Thread) (woken : Option Thread) :
    Option (Call α) → Prop
  | none => False
  | some (.push _) => thread ∉ s.cvFull.waiting ∧ s.cvEmpty.Chooses woken
  | some .pop | some (.tryPopFor _) => thread ∉ s.cvEmpty.waiting ∧ s.cvFull.Chooses woken

/-- What may happen next. A thread begins a call when it is in none. -/
def Enabled (s : BoundedBlockingQueue α Thread) : Label α Thread → Prop
  | .push thread _ woken | .tryPush thread _ woken =>
      (s.calls thread).isNone = true ∧ s.cvEmpty.Chooses woken
  | .pop thread woken | .tryPopFor thread woken =>
      (s.calls thread).isNone = true ∧ s.cvFull.Chooses woken
  | .stop thread => (s.calls thread).isNone = true
  | .wake thread => thread ∈ s.cvEmpty.waiting ∨ thread ∈ s.cvFull.waiting
  | .expire thread => (s.calls thread).any Call.timed = true
  | .resume thread woken => s.Continues thread woken (s.calls thread)

instance (s : BoundedBlockingQueue α Thread) (thread : Thread) (woken : Option Thread) :
    (call : Option (Call α)) → Decidable (s.Continues thread woken call)
  | none => instDecidableFalse
  | some (.push _) | some .pop | some (.tryPopFor _) => instDecidableAnd

instance (s : BoundedBlockingQueue α Thread) :
    (label : Label α Thread) → Decidable (s.Enabled label)
  | .push .. | .tryPush .. | .pop .. | .tryPopFor .. => instDecidableAnd
  | .stop _ | .expire _ => decEq _ _
  | .wake _ => instDecidableOr
  | .resume thread woken => inferInstanceAs (Decidable (s.Continues thread woken (s.calls thread)))

def system : System (BoundedBlockingQueue α Thread) (Label α Thread) where
  step := step
  enabled := Enabled

instance (s : BoundedBlockingQueue α Thread) (label : Label α Thread) :
    Decidable (system.enabled s label) :=
  inferInstanceAs (Decidable (s.Enabled label))

/-! ## What a step does -/

section Steps

variable {s next : BoundedBlockingQueue α Thread} {thread : Thread} {woken : Option Thread}
  {value : α} {call : Call α} {label : Label α Thread} {result : Option (Option α)}

theorem emplaceInternal_inv (done : s.emplaceInternal value woken = some next) :
    s.back < s.buffer.length ∧ 0 < s.maxSize ∧
      next = { s with
        buffer := s.buffer.set s.back value
        back := (s.back + 1) % s.maxSize
        size := s.size + 1
        cvEmpty := s.cvEmpty.notifyOne woken
        accepted := s.accepted ++ [value] } := by
  by_cases inside : s.back < s.buffer.length
  · by_cases zero : s.maxSize = 0
    · simp [emplaceInternal, inside, modulo, zero] at done
    · simp only [emplaceInternal, inside, guard_true, modulo, zero] at done
      cases done
      exact ⟨inside, Nat.pos_of_ne_zero zero, rfl⟩
  · simp [emplaceInternal, inside] at done

theorem popInternal_inv (done : s.popInternal woken = some (next, value)) :
    s.buffer[s.front]? = some value ∧ 0 < s.maxSize ∧ 0 < s.size ∧
      next = { s with
        front := (s.front + 1) % s.maxSize
        size := s.size - 1
        cvFull := s.cvFull.notifyOne woken } := by
  cases found : s.buffer[s.front]? with
  | none => simp [popInternal, found] at done
  | some first =>
    by_cases zero : s.maxSize = 0
    · simp [popInternal, found, modulo, zero] at done
    · by_cases nonempty : 0 < s.size
      · simp only [popInternal, found, modulo, zero, nonempty, guard_true] at done
        cases done
        exact ⟨rfl, Nat.pos_of_ne_zero zero, nonempty, rfl⟩
      · simp [popInternal, found, modulo, zero, nonempty] at done

/-- The outcomes of a call that has the mutex, with what its tests say about the state. -/
inductive Acts (s : BoundedBlockingQueue α Thread) (thread : Thread) (woken : Option Thread) :
    Call α → BoundedBlockingQueue α Thread → Option (Option α) → Prop where
  | awaitsSpace {value : α} (full : s.size = s.maxSize) (running : s.stopped = false) :
      Acts s thread woken (.push value) { s with cvFull := s.cvFull.wait thread } none
  | awaitsValue {call : Call α} (consumes : call.consumes = true) (empty : s.size = 0)
      (running : s.stopped = false) :
      Acts s thread woken call { s with cvEmpty := s.cvEmpty.wait thread } none
  | givesUp {call : Call α} (consumes : call.consumes = true) (empty : s.size = 0) :
      Acts s thread woken call s (some none)
  | stops {call : Call α} (stopped : s.stopped = true) : Acts s thread woken call s (some none)
  | emplaces {value : α} {next : BoundedBlockingQueue α Thread} (space : s.size ≠ s.maxSize)
      (running : s.stopped = false) (done : s.emplaceInternal value woken = some next) :
      Acts s thread woken (.push value) next (some none)
  | pops {call : Call α} {value : α} {next : BoundedBlockingQueue α Thread}
      (consumes : call.consumes = true) (running : s.stopped = false)
      (done : s.popInternal woken = some (next, value)) :
      Acts s thread woken call next (some (some value))

theorem push_acts {result : Option Unit} (done : s.push thread value woken = some (next, result)) :
    Acts s thread woken (.push value) next (result.map fun _ => none) := by
  simp only [push, isFullLocked, Bool.and_eq_true, beq_iff_eq, Bool.not_eq_true'] at done
  split_ifs at done with waits stopped
  · cases done
    exact .awaitsSpace waits.1 waits.2
  · cases done
    exact .stops stopped
  · obtain ⟨emplaced, written, same⟩ := Option.map_eq_some_iff.mp done
    cases same
    have running : s.stopped = false := by simpa using stopped
    exact .emplaces (fun full => waits ⟨full, running⟩) running written

theorem pop_acts (done : s.pop thread woken = some (next, result)) :
    Acts s thread woken .pop next result := by
  simp only [pop, isEmptyLocked, Bool.and_eq_true, beq_iff_eq, Bool.not_eq_true'] at done
  split_ifs at done with waits stopped
  · cases done
    exact .awaitsValue rfl waits.1 waits.2
  · cases done
    exact .stops stopped
  · obtain ⟨⟨popped, value⟩, taken, same⟩ := Option.map_eq_some_iff.mp done
    cases same
    exact .pops rfl (by simpa using stopped) taken

theorem tryPopFor_acts {expired : Bool}
    (done : s.tryPopFor thread expired woken = some (next, result)) :
    Acts s thread woken (.tryPopFor expired) next result := by
  simp only [tryPopFor, isEmptyLocked, Bool.and_eq_true, beq_iff_eq, Bool.not_eq_true'] at done
  split_ifs at done with waits late stopped
  · cases done
    exact .givesUp rfl waits.1
  · cases done
    exact .awaitsValue rfl waits.1 waits.2
  · cases done
    exact .stops stopped
  · obtain ⟨⟨popped, value⟩, taken, same⟩ := Option.map_eq_some_iff.mp done
    cases same
    exact .pops rfl (by simpa using stopped) taken

theorem attempt_inv (done : s.attempt thread woken call = some next) :
    ∃ middle result, Acts s thread woken call middle result ∧
      next = middle.conclude thread call result := by
  cases call with
  | push value =>
    obtain ⟨⟨middle, result⟩, acted, same⟩ := Option.map_eq_some_iff.mp done
    exact ⟨middle, _, push_acts acted, same.symm⟩
  | pop =>
    obtain ⟨⟨middle, result⟩, acted, same⟩ := Option.map_eq_some_iff.mp done
    exact ⟨middle, _, pop_acts acted, same.symm⟩
  | tryPopFor expired =>
    obtain ⟨⟨middle, result⟩, acted, same⟩ := Option.map_eq_some_iff.mp done
    exact ⟨middle, _, tryPopFor_acts acted, same.symm⟩

theorem tryPush_inv {accepts : Bool} (done : s.tryPush value woken = some (next, accepts)) :
    next = s ∨ (s.size ≠ s.maxSize ∧ s.stopped = false ∧
      s.emplaceInternal value woken = some next) := by
  simp only [tryPush, isFullLocked, Bool.or_eq_true, beq_iff_eq] at done
  split_ifs at done with refused
  · cases done
    exact .inl rfl
  · obtain ⟨emplaced, written, same⟩ := Option.map_eq_some_iff.mp done
    cases same
    have running : s.stopped = false := by simpa using fun stopped => refused (.inr stopped)
    exact .inr ⟨fun full => refused (.inl full), running, written⟩

/-! ## The ring -/

/-- The ring is left alone, takes a value in, or gives one out that is returned. -/
inductive Moves (ring : Ring α) : Ring α → Prop where
  | keeps : Moves ring ring
  | emplaces (value : α) (space : ring.size ≠ ring.maxSize) :
      Moves ring { ring with
        buffer := ring.buffer.set ring.back value
        back := (ring.back + 1) % ring.maxSize
        size := ring.size + 1
        accepted := ring.accepted ++ [value] }
  | pops (value : α) (nonempty : 0 < ring.size) (first : ring.buffer[ring.front]? = some value) :
      Moves ring { ring with
        front := (ring.front + 1) % ring.maxSize
        size := ring.size - 1
        returned := ring.returned ++ [value] }

theorem emplaceInternal_moves (space : s.size ≠ s.maxSize)
    (done : s.emplaceInternal value woken = some next) : Moves s.toRing next.toRing := by
  obtain ⟨_, _, rfl⟩ := emplaceInternal_inv done
  exact .emplaces value space

theorem Acts.moves (acts : Acts s thread woken call next result) :
    Moves s.toRing (next.conclude thread call result).toRing := by
  have settled : (s.conclude thread call (some none)).toRing = s.toRing := by simp [conclude]
  cases acts with
  | awaitsSpace => exact .keeps
  | awaitsValue => exact .keeps
  | givesUp => exact settled ▸ .keeps
  | stops => exact settled ▸ .keeps
  | emplaces space _ done =>
    have moved := emplaceInternal_moves space done
    simpa [conclude] using moved
  | pops _ _ done =>
    obtain ⟨first, _, nonempty, rfl⟩ := popInternal_inv done
    exact .pops _ nonempty first

theorem continued_toRing (s : BoundedBlockingQueue α Thread) (thread : Thread) (call : Call α) :
    (s.continued thread call).toRing = s.toRing := by
  cases call <;> rfl

theorem attempt_moves (done : s.attempt thread woken call = some next) :
    Moves s.toRing next.toRing := by
  obtain ⟨middle, result, acts, rfl⟩ := attempt_inv done
  exact acts.moves

theorem step_moves (stepped : s.step label = some next) : Moves s.toRing next.toRing := by
  cases label with
  | push thread value woken =>
    have ran : s.attempt thread woken (.push value) = some next := stepped
    exact attempt_moves ran
  | tryPush thread value woken =>
    obtain ⟨⟨middle, accepts⟩, tried, rfl⟩ := Option.map_eq_some_iff.mp stepped
    rcases tryPush_inv tried with rfl | ⟨space, _, written⟩
    · exact .keeps
    · exact emplaceInternal_moves space written
  | pop thread woken =>
    have ran : s.attempt thread woken .pop = some next := stepped
    exact attempt_moves ran
  | tryPopFor thread woken =>
    have ran : s.attempt thread woken (.tryPopFor false) = some next := stepped
    exact attempt_moves ran
  | stop thread =>
    cases stepped
    exact .keeps
  | wake thread =>
    cases stepped
    exact .keeps
  | expire thread =>
    cases stepped
    exact .keeps
  | resume thread woken =>
    cases found : s.calls thread with
    | none =>
      simp only [step, found] at stepped
      cases stepped
      exact .keeps
    | some call =>
      simp only [step, found] at stepped
      exact continued_toRing s thread call ▸ attempt_moves stepped

end Steps

/-- The ring holds the unread values, which are the accepted ones that were not returned. -/
structure Holds (ring : Ring α) (unread : List α) : Prop where
  length : ring.buffer.length = ring.maxSize
  size : unread.length = ring.size
  front : 0 < ring.maxSize → ring.front < ring.maxSize
  back : 0 < ring.maxSize → ring.back = (ring.front + ring.size) % ring.maxSize
  window : Window ring.buffer ring.front unread
  history : ring.accepted = ring.returned ++ unread

namespace Holds

variable {ring : Ring α} {unread : List α}

theorem size_le (holds : Holds ring unread) : ring.size ≤ ring.maxSize := by
  rw [← holds.size, ← holds.length]
  exact holds.window.fits

/-- There is a cell behind the unread values when they do not fill the ring. -/
theorem back_lt (holds : Holds ring unread) (space : ring.size ≠ ring.maxSize) :
    0 < ring.maxSize ∧ ring.back < ring.buffer.length := by
  have positive : 0 < ring.maxSize := by
    have bound := holds.size_le
    omega
  rw [holds.length, holds.back positive]
  exact ⟨positive, Nat.mod_lt _ positive⟩

/-- The cell that is written next is none of those that hold an unread value. -/
theorem unread_ne_back (holds : Holds ring unread) (space : ring.size ≠ ring.maxSize) {index : Nat}
    (inside : index < ring.size) : (ring.front + index) % ring.maxSize ≠ ring.back := by
  rw [holds.back (holds.back_lt space).1]
  exact mod_add_ne _ inside (lt_of_le_of_ne holds.size_le space)

theorem emplace (holds : Holds ring unread) (space : ring.size ≠ ring.maxSize) (value : α) :
    Holds { ring with
      buffer := ring.buffer.set ring.back value
      back := (ring.back + 1) % ring.maxSize
      size := ring.size + 1
      accepted := ring.accepted ++ [value] } (unread ++ [value]) where
  length := by simpa using holds.length
  size := by simpa using holds.size
  front := holds.front
  back := by
    intro positive
    rw [holds.back positive, Nat.mod_add_mod, Nat.add_assoc]
  window := by
    have room : unread.length < ring.buffer.length := by
      rw [holds.length, holds.size]
      exact lt_of_le_of_ne holds.size_le space
    have place : ring.back = (ring.front + unread.length) % ring.buffer.length := by
      rw [holds.length, holds.size]
      exact holds.back (holds.back_lt space).1
    rw [place]
    exact holds.window.push room value
  history := by simp [holds.history]

theorem pop {value : α} (holds : Holds ring unread) (nonempty : 0 < ring.size)
    (first : ring.buffer[ring.front]? = some value) :
    ∃ rest, Holds { ring with
      front := (ring.front + 1) % ring.maxSize
      size := ring.size - 1
      returned := ring.returned ++ [value] } rest := by
  have positive : 0 < ring.maxSize := lt_of_lt_of_le nonempty holds.size_le
  have length := holds.size
  cases unread with
  | nil => exact absurd length nonempty.ne
  | cons head rest =>
    have same : head = value := by
      have stands := holds.window.head (holds.length ▸ holds.front positive)
      exact Option.some.inj (stands.symm.trans first)
    rw [List.length_cons] at length
    refine ⟨rest, holds.length, by rw [← length]; rfl, fun _ => Nat.mod_lt _ positive, ?_, ?_, ?_⟩
    · intro _
      have moved : ring.front + ring.size = ring.front + 1 + (ring.size - 1) := by omega
      rw [holds.back positive, Nat.mod_add_mod, moved]
    · have shrunk := holds.window.pop
      rwa [holds.length] at shrunk
    · simp [holds.history, same]

end Holds

/-- A move of the ring keeps what it holds in order. -/
theorem Moves.holds {ring next : Ring α} (moves : Moves ring next)
    (sound : ∃ unread, Holds ring unread) : ∃ unread, Holds next unread := by
  obtain ⟨unread, holds⟩ := sound
  cases moves with
  | keeps => exact ⟨unread, holds⟩
  | emplaces value space => exact ⟨unread ++ [value], holds.emplace space value⟩
  | pops value nonempty first => exact holds.pop nonempty first

theorem Moves.maxSize {ring next : Ring α} (moves : Moves ring next) :
    next.maxSize = ring.maxSize := by
  cases moves <;> rfl

section Progress

variable {s : BoundedBlockingQueue α Thread} {unread : List α}

theorem emplaceInternal_succeeds (holds : Holds s.toRing unread) (space : s.size ≠ s.maxSize)
    (value : α) (woken : Option Thread) : (s.emplaceInternal value woken).isSome = true := by
  obtain ⟨positive, inside⟩ := holds.back_lt space
  simp [emplaceInternal, inside, modulo_of_pos positive]

theorem popInternal_succeeds (holds : Holds s.toRing unread) (nonempty : s.size ≠ 0)
    (woken : Option Thread) : (s.popInternal woken).isSome = true := by
  have least : 0 < s.size := Nat.pos_of_ne_zero nonempty
  have positive : 0 < s.maxSize := least.trans_le holds.size_le
  have inside : s.front < s.buffer.length := holds.length ▸ holds.front positive
  simp [popInternal, inside, modulo_of_pos positive, least]

theorem push_succeeds (holds : Holds s.toRing unread) (thread : Thread) (value : α)
    (woken : Option Thread) : (s.push thread value woken).isSome = true := by
  unfold push
  split_ifs with waits stopped
  · rfl
  · rfl
  · have space : s.size ≠ s.maxSize := by
      intro full
      exact waits (by simp [isFullLocked, full, stopped])
    rw [Option.isSome_map]
    exact emplaceInternal_succeeds holds space value woken

theorem tryPush_succeeds (holds : Holds s.toRing unread) (value : α) (woken : Option Thread) :
    (s.tryPush value woken).isSome = true := by
  unfold tryPush
  split_ifs with refused
  · rfl
  · have space : s.size ≠ s.maxSize := by
      intro full
      exact refused (by simp [isFullLocked, full])
    rw [Option.isSome_map]
    exact emplaceInternal_succeeds holds space value woken

theorem pop_succeeds (holds : Holds s.toRing unread) (thread : Thread) (woken : Option Thread) :
    (s.pop thread woken).isSome = true := by
  unfold pop
  split_ifs with waits stopped
  · rfl
  · rfl
  · have nonempty : s.size ≠ 0 := by
      intro empty
      exact waits (by simp [isEmptyLocked, empty, stopped])
    rw [Option.isSome_map]
    exact popInternal_succeeds holds nonempty woken

/-- Apart from an expired wait, `tryPopFor` does what `pop` does. -/
theorem tryPopFor_succeeds (holds : Holds s.toRing unread) (thread : Thread) (expired : Bool)
    (woken : Option Thread) : (s.tryPopFor thread expired woken).isSome = true := by
  have popped := pop_succeeds holds thread woken
  unfold pop at popped
  unfold tryPopFor
  split_ifs at popped ⊢ <;> first | rfl | exact popped

theorem attempt_succeeds (holds : Holds s.toRing unread) (thread : Thread) (woken : Option Thread)
    (call : Call α) : (s.attempt thread woken call).isSome = true := by
  cases call with
  | push value =>
    rw [attempt, Option.isSome_map]
    exact push_succeeds holds thread value woken
  | pop =>
    rw [attempt, Option.isSome_map]
    exact pop_succeeds holds thread woken
  | tryPopFor expired =>
    rw [attempt, Option.isSome_map]
    exact tryPopFor_succeeds holds thread expired woken

theorem step_succeeds (holds : Holds s.toRing unread) (label : Label α Thread) :
    (s.step label).isSome = true := by
  cases label with
  | push thread value woken => exact attempt_succeeds holds thread woken (.push value)
  | tryPush thread value woken =>
    rw [step, Option.isSome_map]
    exact tryPush_succeeds holds value woken
  | pop thread woken => exact attempt_succeeds holds thread woken .pop
  | tryPopFor thread woken => exact attempt_succeeds holds thread woken (.tryPopFor false)
  | stop thread => rfl
  | wake thread => rfl
  | expire thread => rfl
  | resume thread woken =>
    cases found : s.calls thread with
    | none => simp [step, found]
    | some call =>
      simp only [step, found]
      have same := (continued_toRing s thread call).symm ▸ holds
      exact attempt_succeeds same thread woken call

end Progress

omit [DecidableEq Thread] in
theorem initial_holds [Inhabited α] (maxSize : Nat) :
    Holds (initial maxSize : BoundedBlockingQueue α Thread).toRing [] where
  length := List.length_replicate
  size := rfl
  front := id
  back := fun _ => (Nat.zero_mod maxSize).symm
  window := Window.nil _ _
  history := rfl

/-- The only cell that the step writes, if any, holds no unread value. -/
def SparesUnread (s : BoundedBlockingQueue α Thread) (label : Label α Thread) : Prop :=
  ∀ next ∈ s.step label, next.buffer = s.buffer ∨
    ∃ value, next.buffer = s.buffer.set s.back value ∧
      ∀ index < s.size, (s.front + index) % s.maxSize ≠ s.back

theorem step_sparesUnread {s : BoundedBlockingQueue α Thread} {unread : List α}
    (holds : Holds s.toRing unread) (label : Label α Thread) : s.SparesUnread label := by
  intro next stepped
  have moves := step_moves stepped
  generalize next.toRing = ring at moves
  cases moves with
  | keeps => exact .inl rfl
  | emplaces value space => exact .inr ⟨value, rfl, fun _ => holds.unread_ne_back space⟩
  | pops => exact .inl rfl

/-- The queue is a bounded FIFO for every capacity and every interleaving: no step fails, the
positions are those of a ring, no unread value is overwritten, and the accepted values are the
returned ones followed by as many as the queue counts.

Proof: every step keeps the ring or moves it by one of its two operations, and each of these
keeps the window of unread values; a ring that holds its unread values has a cell for the next
one unless it is full, and a first one unless it is empty. -/
theorem bounded_fifo [Inhabited α] (maxSize : Nat) (labels : List (Label α Thread))
    (valid : system.Valid (initial maxSize) labels) :
    ∃ final, system.run (initial maxSize) labels = some final ∧
      final.maxSize = maxSize ∧ final.size ≤ maxSize ∧
      (0 < maxSize → final.front < maxSize ∧ final.back = (final.front + final.size) % maxSize) ∧
      (∃ unread, unread.length = final.size ∧ Window final.buffer final.front unread ∧
        final.accepted = final.returned ++ unread) ∧
      system.Along SparesUnread (initial maxSize) labels := by
  let Sound : BoundedBlockingQueue α Thread → Prop := fun s =>
    s.maxSize = maxSize ∧ ∃ unread, Holds s.toRing unread
  have start : Sound (initial maxSize) := ⟨rfl, [], initial_holds maxSize⟩
  have kept : ∀ s label next, Sound s → system.enabled s label → system.step s label = some next →
      Sound next := by
    intro s label next sound _ stepped
    have moves : Moves s.toRing next.toRing := step_moves stepped
    exact ⟨moves.maxSize.trans sound.1, moves.holds sound.2⟩
  have proceeds : ∀ s label, Sound s → system.enabled s label →
      ∃ next, system.step s label = some next ∧ Sound next := by
    intro s label sound admitted
    obtain ⟨unread, holds⟩ := sound.2
    obtain ⟨next, stepped⟩ := Option.isSome_iff_exists.mp (step_succeeds holds label)
    exact ⟨next, stepped, kept s label next sound admitted stepped⟩
  have spared : ∀ s label, Sound s → system.enabled s label → s.SparesUnread label := by
    intro s label sound _
    obtain ⟨unread, holds⟩ := sound.2
    exact step_sparesUnread holds label
  obtain ⟨final, finished, same, unread, holds⟩ := System.run_safe Sound proceeds _ _ start valid
  refine ⟨final, finished, same, same ▸ holds.size_le, ?_, ?_, ?_⟩
  · intro positive
    rw [← same] at positive ⊢
    exact ⟨holds.front positive, holds.back positive⟩
  · exact ⟨unread, holds.size, holds.window, holds.history⟩
  · exact System.along_invariant Sound kept spared _ _ start valid

/-- A run over one cell, in which a consumer and a producer wait for each other, a wait ends on
its own, another one expires, and the queue is stopped. -/
def exchange : List (Label Nat Nat) :=
  [.pop 0 none, .wake 0, .push 1 7 none, .push 1 8 none, .tryPush 2 9 none, .resume 0 (some 1),
    .resume 1 none, .tryPopFor 2 none, .tryPopFor 2 none, .expire 2, .resume 2 none, .stop 0]

/-- One cell is enough for the bound and the order to hold. -/
theorem bounded_fifo_exchange : system.Valid (initial 1) exchange ∧
      ∃ final, system.run (initial 1) exchange = some final ∧
        final.maxSize = 1 ∧ final.size ≤ 1 ∧
        (0 < 1 → final.front < 1 ∧ final.back = (final.front + final.size) % 1) ∧
        (∃ unread, unread.length = final.size ∧ Window final.buffer final.front unread ∧
          final.accepted = final.returned ++ unread) ∧
        system.Along SparesUnread (initial 1) exchange :=
  have valid : system.Valid (initial 1) exchange := by decide
  ⟨valid, bounded_fifo 1 exchange valid⟩

end BoundedBlockingQueue

end Moban
