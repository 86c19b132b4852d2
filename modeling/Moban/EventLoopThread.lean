import Moban.LoopOrder

/-!
# The lifetime of a loop on its thread's stack

The thread of an `EventLoopThread` holds its loop as a local variable. It runs the init
callback, publishes a pointer to the loop, runs the loop, and returns, which destroys the
loop. The owner reads the pointer in `startLoop` and in the destructor. The pointer is never
taken back, so a step that uses it after the thread has returned fails.

The loop itself is the one of `EventLoop`, with its steps and with the calls that any thread
makes on it. The owner is one of those threads. Waiting for the pointer is a step that is
possible once the pointer is set; the flag `exiting_`, which nothing reads, is left out.
-/

namespace Moban

open Runs Function

namespace EventLoop

variable {F : Type}

/-- The thread that makes a call, for the labels that are parts of calls. -/
def Label.caller : Label F → Option Caller
  | .queueInLoop caller _ | .quit caller | .complete caller => some caller
  | _ => none

/-- What a step of the loop does to the request, to the position and to the calls of threads
that do not take part. -/
structure Follows (s : EventLoop F) (label : Label F) (next : EventLoop F) : Prop where
  silent : (∀ caller, label ≠ .quit caller) → s.quit = false → next.quit = false
  keeps : label ≠ .loop → s.quit = true → next.quit = true
  leaves : s.quit = false → s.phase ≠ .outside → next.phase ≠ .outside
  enters : label ≠ .loop → s.phase = .outside → next.phase = .outside
  calls : ∀ caller, label.caller ≠ some caller → next.calls caller = s.calls caller

section Steps

variable {s next : EventLoop F} {label : Label F}

theorem complete_calls_other {caller other : Caller} (different : caller ≠ other) :
    (s.complete caller).calls other = s.calls other := by
  unfold complete
  split
  · rfl
  · split <;> exact update_of_ne different.symm _ _
  · split <;> exact update_of_ne different.symm _ _

theorem complete_calls_own {caller : Caller} : (s.complete caller).calls caller = none := by
  unfold complete
  split
  · assumption
  · split <;> exact update_self _ _ _
  · split <;> exact update_self _ _ _

/-- A step inside the loop that neither stores a request nor makes a call. -/
theorem Follows.moved (quit : next.quit = s.quit) (calls : next.calls = s.calls)
    (inside : s.phase ≠ .outside)
    (leaves : s.quit = false → next.phase ≠ .outside) : s.Follows label next where
  silent := fun _ clear => quit.trans clear
  keeps := fun _ requested => quit.trans requested
  leaves := fun silent _ => leaves silent
  enters := fun _ outside => absurd outside inside
  calls := fun caller _ => congrFun calls caller

/-- A call changes no position and no call of another thread. -/
theorem Follows.called {caller : Caller} (same : label.caller = some caller)
    (quit : next.quit = s.quit ∨ label = .quit caller ∧ next.quit = true)
    (phase : next.phase = s.phase)
    (calls : ∀ other, caller ≠ other → next.calls other = s.calls other) :
    s.Follows label next where
  silent := by
    intro silent clear
    rcases quit with kept | ⟨asked, _⟩
    · exact kept.trans clear
    · exact absurd asked (silent caller)
  keeps := by
    intro _ requested
    rcases quit with kept | ⟨_, asked⟩
    · exact kept.trans requested
    · exact asked
  leaves := fun _ inside => phase ▸ inside
  enters := fun _ outside => phase.trans outside
  calls := fun other different => calls other fun equal => different (equal ▸ same)

theorem step_follows (enabled : s.Enabled label) (stepped : s.step label = some next) :
    s.Follows label next := by
  cases label with
  | queueInLoop caller functor =>
    cases stepped
    exact .called rfl (.inl rfl) rfl fun other different =>
      update_of_ne different.symm _ _
  | quit caller =>
    cases stepped
    exact .called rfl (.inr ⟨rfl, rfl⟩) rfl fun other different =>
      update_of_ne different.symm _ _
  | complete caller =>
    obtain ⟨counter, calls, returned, exact, _⟩ := complete_frame s caller
    cases stepped
    exact .called rfl (.inl (by rw [exact])) (by rw [exact]) fun other different =>
      complete_calls_other different
  | loop =>
    obtain ⟨_, _, entered⟩ := Option.bind_eq_some_iff.mp stepped
    cases entered
    refine ⟨fun _ silent => ?_, fun other => absurd rfl other, fun _ _ => by simp,
      fun other => absurd rfl other, fun _ _ => rfl⟩
    simp [silent]
  | test =>
    have phase : s.phase = .testing := enabled
    cases stepped
    by_cases requested : s.quit = true
    · rw [test, if_pos requested]
      refine .moved rfl rfl (by simp [phase]) fun silent => ?_
      cases silent.symm.trans requested
    · rw [test, if_neg requested]
      exact .moved rfl rfl (by simp [phase]) (by simp)
  | poll ready =>
    cases stepped
    exact .moved rfl rfl (by simp [enabled.1]) (by simp [poll])
  | handleWakeup =>
    obtain ⟨_, counter, handled⟩ := Option.bind_eq_some_iff.mp stepped
    obtain ⟨_, _, reset⟩ := Option.bind_eq_some_iff.mp counter
    cases reset
    cases handled
    exact .moved rfl rfl (by simp [enabled.2]) (by simp)
  | beginFunctors =>
    cases stepped
    exact .moved rfl rfl (by simp [enabled.2]) (by simp [beginFunctors])
  | swapFunctors =>
    have phase : s.phase = .swapping := enabled
    cases stepped
    exact .moved rfl rfl (by simp [phase]) (by simp [swapFunctors])
  | runFunctor =>
    cases stepped
    obtain ⟨_, batch⟩ := enabled
    unfold hasFunctor at batch
    split at batch
    case h_1 task rest phase =>
      simp only [runFunctor, phase]
      exact .moved rfl rfl (by simp [phase]) (by simp)
    · cases batch
  | endFunctors =>
    cases stepped
    exact .moved rfl rfl (by simp [enabled.2]) (by simp [endFunctors])
  | destroyFunctors =>
    cases stepped
    exact .moved rfl rfl (by simp [enabled.2]) (by simp [destroyFunctors])

end Steps

end EventLoop

/-- Where `threadFunc` is. The loop exists until the thread has returned. -/
inductive LoopStage where
  | callback
  | publishing
  | entering
  | looping
  | returned
deriving DecidableEq

/-- Where the owner is: outside, in `startLoop` before and after it has seen the pointer, or in
the destructor before it has seen the pointer, before the two steps of `quit`, before the
join, and after it. -/
inductive LoopOwner where
  | idle
  | starting
  | returning
  | destroying
  | quitting
  | waking
  | joining
  | done
deriving DecidableEq

namespace LoopOwner

/-- The destructor has stored its request. -/
def requested : LoopOwner → Bool
  | .waking | .joining | .done => true
  | _ => false

/-- The destructor's call of `quit` has returned. -/
def signalled : LoopOwner → Bool
  | .joining | .done => true
  | _ => false

theorem signalled_of_not_requested {owner : LoopOwner} (before : owner.requested = false) :
    owner.signalled = false := by
  cases owner <;> first | rfl | exact before

theorem not_requested {owner : LoopOwner} (unsignalled : owner.signalled = false)
    (other : owner ≠ .waking) : owner.requested = false := by
  cases owner <;> first | rfl | exact unsignalled | exact absurd rfl other

end LoopOwner

/-- The loop, where its thread and the owner are, and whether `loop_` is set. -/
structure EventLoopThread (F : Type) where
  loop : EventLoop F
  stage : LoopStage
  published : Bool
  owner : LoopOwner

namespace EventLoopThread

variable {F : Type}

/-- The constructor starts the thread. -/
def initial : EventLoopThread F where
  loop := .initial
  stage := .callback
  published := false
  owner := .idle

/-- The owner among the threads that call the loop. -/
def ownerThread : Caller := .thread 0

/-! ## The thread -/

/-- A step of the loop, or of a call on it, by any thread. -/
def inside (s : EventLoopThread F) (label : EventLoop.Label F) : Option (EventLoopThread F) := do
  let loop ← s.loop.step label
  return { s with loop := loop }

def callbackReturns (s : EventLoopThread F) : EventLoopThread F := { s with stage := .publishing }

/-- The critical section of `threadFunc`. -/
def publish (s : EventLoopThread F) : EventLoopThread F :=
  { s with published := true, stage := .entering }

def enterLoop (s : EventLoopThread F) : Option (EventLoopThread F) := do
  let loop ← s.loop.step .loop
  return { s with loop := loop, stage := .looping }

/-- `threadFunc` returns after `loop`, and the loop is destroyed. -/
def threadReturns (s : EventLoopThread F) : EventLoopThread F := { s with stage := .returned }

/-! ## The owner -/

def startLoop (s : EventLoopThread F) : EventLoopThread F := { s with owner := .starting }

/-- `startLoop` has seen the pointer and left its critical section. -/
def startObserves (s : EventLoopThread F) : EventLoopThread F := { s with owner := .returning }

/-- `startLoop` returns the pointer. -/
def startReturns (s : EventLoopThread F) : Option (EventLoopThread F) := do
  guard (s.stage ≠ .returned)
  return { s with owner := .idle }

def destroy (s : EventLoopThread F) : EventLoopThread F := { s with owner := .destroying }

/-- The destructor has copied the pointer and left its critical section. -/
def destroyObserves (s : EventLoopThread F) : EventLoopThread F := { s with owner := .quitting }

/-- The destructor's `quit` stores the request. -/
def quit (s : EventLoopThread F) : Option (EventLoopThread F) := do
  guard (s.stage ≠ .returned)
  let loop ← s.loop.step (.quit ownerThread)
  return { s with loop := loop, owner := .waking }

/-- The destructor's `quit` wakes the loop up and returns. -/
def wakeup (s : EventLoopThread F) : Option (EventLoopThread F) := do
  guard (s.stage ≠ .returned)
  let loop ← s.loop.step (.complete ownerThread)
  return { s with loop := loop, owner := .joining }

def join (s : EventLoopThread F) : EventLoopThread F := { s with owner := .done }

/-! ## Runs -/

inductive Label (F : Type) where
  | inside (label : EventLoop.Label F)
  | callbackReturns
  | publish
  | enterLoop
  | threadReturns
  | startLoop
  | startObserves
  | startReturns
  | destroy
  | destroyObserves
  | quit
  | wakeup
  | join

def step (s : EventLoopThread F) : Label F → Option (EventLoopThread F)
  | .inside label => s.inside label
  | .callbackReturns => some s.callbackReturns
  | .publish => some s.publish
  | .enterLoop => s.enterLoop
  | .threadReturns => some s.threadReturns
  | .startLoop => some s.startLoop
  | .startObserves => some s.startObserves
  | .startReturns => s.startReturns
  | .destroy => some s.destroy
  | .destroyObserves => some s.destroyObserves
  | .quit => s.quit
  | .wakeup => s.wakeup
  | .join => some s.join

/-- Who may make calls on the loop: its own thread in the init callback and inside `loop`, the
owner between its calls on the object, and any other thread. -/
def MayCall (s : EventLoopThread F) : Option Caller → Prop
  | none => True
  | some .loop => s.stage = .callback ∨ s.loop.phase ≠ .outside
  | some (.thread identifier) => .thread identifier = ownerThread → s.owner = .idle

/-- The owner is between two calls. -/
def OwnerFree (s : EventLoopThread F) : Prop :=
  s.owner = .idle ∧ s.loop.calls ownerThread = none

/-- The loop is used by the others only while it exists, and it is entered by `threadFunc`
alone. The owner waits for the pointer and for the end of the thread. -/
def Enabled (s : EventLoopThread F) : Label F → Prop
  | .inside label =>
      (s.stage ≠ .returned ∧ label ≠ .loop) ∧ s.loop.Enabled label ∧ s.MayCall label.caller
  | .callbackReturns => s.stage = .callback ∧ s.loop.calls .loop = none
  | .publish => s.stage = .publishing
  | .enterLoop => s.stage = .entering
  | .threadReturns => s.stage = .looping ∧ s.loop.phase = .outside
  | .startLoop | .destroy => s.OwnerFree
  | .startObserves => s.owner = .starting ∧ s.published = true
  | .startReturns => s.owner = .returning
  | .destroyObserves => s.owner = .destroying ∧ s.published = true
  | .quit => s.owner = .quitting
  | .wakeup => s.owner = .waking
  | .join => s.owner = .joining ∧ s.stage = .returned

instance [DecidableEq F] (s : EventLoopThread F) :
    (caller : Option Caller) → Decidable (s.MayCall caller)
  | none => instDecidableTrue
  | some .loop => instDecidableOr
  | some (.thread _) => instDecidableForall

instance (s : EventLoopThread F) : Decidable s.OwnerFree := instDecidableAnd

instance [DecidableEq F] (s : EventLoopThread F) : (label : Label F) → Decidable (s.Enabled label)
  | .inside _ | .callbackReturns | .threadReturns | .startObserves | .destroyObserves | .join =>
      instDecidableAnd
  | .publish | .enterLoop | .startReturns | .quit | .wakeup => decEq _ _
  | .startLoop | .destroy => inferInstanceAs (Decidable s.OwnerFree)

def system : System (EventLoopThread F) (Label F) where
  step := step
  enabled := Enabled

instance [DecidableEq F] (s : EventLoopThread F) (label : Label F) :
    Decidable (system.enabled s label) :=
  inferInstanceAs (Decidable (s.Enabled label))

/-! ## The order that keeps the loop alive -/

/-- The owner uses the pointer only while the loop exists. -/
def UsesLive (s : EventLoopThread F) : Label F → Prop
  | .startReturns | .quit | .wakeup => s.stage ≠ .returned
  | _ => True

/-- Nobody but the destructor asks the loop to quit until the destructor has done so, and the
thread does not return between the two steps of the destructor's `quit`. -/
def Orderly (s : EventLoopThread F) : Label F → Prop
  | .inside (.quit _) => s.owner.signalled = true
  | .threadReturns => s.owner ≠ .waking
  | _ => True

instance (s : EventLoopThread F) : (label : Label F) → Decidable (s.Orderly label)
  | .inside (.quit _) => decEq _ _
  | .threadReturns => instDecidableNot
  | .inside (.queueInLoop ..) | .inside (.complete _) | .inside .loop | .inside .test
  | .inside (.poll _) | .inside .handleWakeup | .inside .beginFunctors | .inside .swapFunctors
  | .inside .runFunctor | .inside .endFunctors | .inside .destroyFunctors | .callbackReturns
  | .publish | .enterLoop | .startLoop | .startObserves | .startReturns | .destroy
  | .destroyObserves | .quit | .wakeup | .join => instDecidableTrue

/-- The loop has its own invariants; its thread is outside `loop` before it enters it, and in
no call from the end of the init callback on; without a request it does not leave. -/
structure Threaded (s : EventLoopThread F) : Prop where
  positioned : s.loop.Positioned
  outside : s.stage ≠ .looping → s.stage ≠ .returned → s.loop.phase = .outside
  returned : s.stage = .publishing ∨ s.stage = .entering → s.loop.calls .loop = none
  stays : s.stage = .looping → s.loop.quit = false → s.loop.phase ≠ .outside

/-- The owner makes one call at a time. -/
structure Sequential (s : EventLoopThread F) : Prop where
  free : s.owner ≠ .idle → s.owner ≠ .waking → s.loop.calls ownerThread = none
  quitting : s.owner = .waking → s.loop.calls ownerThread = some .quit

/-- Before the destructor stores its request there is none, and until its `quit` has returned
the loop exists. -/
structure Awaited (s : EventLoopThread F) : Prop where
  silent : s.owner.requested = false → s.loop.quit = false
  alive : s.owner.signalled = false → s.stage ≠ .returned

structure Sound (s : EventLoopThread F) : Prop where
  threaded : s.Threaded
  sequential : s.Sequential
  awaited : s.Awaited

theorem initial_sound : Sound (initial : EventLoopThread F) where
  threaded := ⟨EventLoop.initial_positioned, fun _ _ => rfl, fun _ => rfl, by simp [initial]⟩
  sequential := ⟨fun _ _ => rfl, by simp [initial]⟩
  awaited := ⟨fun _ => rfl, by simp [initial]⟩

section Steps

variable {s : EventLoopThread F} {label : EventLoop.Label F}

/-! ### The loop and its thread -/

/-- A step on the loop while `threadFunc` stays where it is. The loop's own thread makes calls
only from the init callback and from inside `loop`. -/
theorem Threaded.inside (threaded : s.Threaded) {loop : EventLoop F}
    (positioned : loop.Positioned) (follows : s.loop.Follows label loop) (entered : label ≠ .loop)
    (calls : label.caller = some .loop → s.stage = .callback ∨ s.stage = .looping) :
    Threaded { s with loop := loop } where
  positioned := positioned
  outside := fun early existing => follows.enters entered (threaded.outside early existing)
  returned := by
    intro between
    have other : label.caller ≠ some .loop := by
      intro own
      rcases calls own with here | here <;> simp [here] at between
    exact (follows.calls .loop other).trans (threaded.returned between)
  stays := by
    intro looping silent
    have before : s.loop.quit = false := by
      by_contra requested
      cases silent.symm.trans (follows.keeps entered (Bool.eq_true_of_not_eq_false requested))
    exact follows.leaves before (threaded.stays looping before)

theorem Threaded.owner (threaded : s.Threaded) (owner : LoopOwner) :
    Threaded { s with owner := owner } :=
  ⟨threaded.positioned, threaded.outside, threaded.returned, threaded.stays⟩

/-- `threadFunc` goes on to publish the loop or to enter it. -/
theorem Threaded.prepares (threaded : s.Threaded) {stage : LoopStage} {published : Bool}
    (early : s.stage = .callback ∨ s.stage = .publishing) (free : s.loop.calls .loop = none)
    (next : stage = .publishing ∨ stage = .entering) :
    Threaded { s with stage := stage, published := published } where
  positioned := threaded.positioned
  outside := by
    intro _ _
    rcases early with here | here <;> exact threaded.outside (by simp [here]) (by simp [here])
  returned := fun _ => free
  stays := by
    intro looping
    have here : stage = .looping := looping
    rcases next with other | other <;> cases other.symm.trans here

/-! ### The owner -/

/-- A step on the loop in which the owner takes no part, or takes part while it is outside. -/
theorem Sequential.inside (sequential : s.Sequential)
    {loop : EventLoop F} (follows : s.loop.Follows label loop)
    (other : label.caller = some ownerThread → s.owner = .idle) :
    Sequential { s with loop := loop } where
  free := by
    intro active notWaking
    rw [follows.calls ownerThread fun own => active (other own)]
    exact sequential.free active notWaking
  quitting := by
    intro waking
    have here : s.owner = .waking := waking
    rw [follows.calls ownerThread fun own => by cases here.symm.trans (other own)]
    exact sequential.quitting waking

/-- The owner moves without using the loop. -/
theorem Sequential.moves (free : s.loop.calls ownerThread = none) {owner : LoopOwner}
    (notWaking : owner ≠ .waking) : Sequential { s with owner := owner } :=
  ⟨fun _ _ => free, fun waking => absurd waking notWaking⟩

/-- The owner moves before the destructor stores its request. -/
theorem Awaited.moves (awaited : s.Awaited) {owner : LoopOwner}
    (before : s.owner.requested = false) :
    Awaited { s with owner := owner } where
  silent := fun _ => awaited.silent before
  alive := fun _ => awaited.alive (LoopOwner.signalled_of_not_requested before)

theorem Sound.moves (sound : s.Sound) {owner : LoopOwner} (before : s.owner.requested = false)
    (free : s.loop.calls ownerThread = none) (notWaking : owner ≠ .waking) :
    Sound { s with owner := owner } :=
  ⟨sound.threaded.owner owner, .moves free notWaking, sound.awaited.moves before⟩

/-! ### Every step -/

theorem inside_sound (sound : s.Sound)
    (enabled : s.Enabled (.inside label)) (orderly : s.Orderly (.inside label)) :
    ∃ next, s.inside label = some next ∧ next.Sound := by
  obtain ⟨threaded, sequential, awaited⟩ := sound
  obtain ⟨⟨existing, entered⟩, admitted, mayCall⟩ := enabled
  obtain ⟨loop, stepped, positioned⟩ :=
    EventLoop.step_positioned s.loop label threaded.positioned admitted
  have follows := EventLoop.step_follows admitted stepped
  have fromLoop : label.caller = some .loop → s.stage = .callback ∨ s.stage = .looping := by
    intro own
    rw [own] at mayCall
    rcases mayCall with callback | entered
    · exact .inl callback
    · by_contra neither
      rw [not_or] at neither
      exact entered (threaded.outside neither.2 existing)
  have fromOwner : label.caller = some ownerThread → s.owner = .idle := by
    intro own
    rw [own] at mayCall
    exact mayCall rfl
  have silent : s.owner.requested = false → loop.quit = false := by
    intro before
    refine follows.silent (fun caller asks => ?_) (awaited.silent before)
    subst asks
    have signalled : s.owner.signalled = true := orderly
    cases (LoopOwner.signalled_of_not_requested before).symm.trans signalled
  refine ⟨{ s with loop := loop }, by simp [inside, stepped], ?_⟩
  exact ⟨threaded.inside positioned follows entered fromLoop,
    sequential.inside follows fromOwner, silent, awaited.alive⟩

theorem enterLoop_sound (sound : s.Sound) (entering : s.stage = .entering) :
    ∃ next, s.enterLoop = some next ∧ next.Sound := by
  obtain ⟨threaded, sequential, awaited⟩ := sound
  have outside := threaded.outside (by simp [entering]) (by simp [entering])
  have admitted : s.loop.Enabled .loop := ⟨threaded.returned (.inr entering), outside⟩
  obtain ⟨loop, stepped, positioned⟩ :=
    EventLoop.step_positioned s.loop .loop threaded.positioned admitted
  have follows := EventLoop.step_follows admitted stepped
  have looping : loop.phase = .testing := by
    obtain ⟨_, _, entered⟩ := Option.bind_eq_some_iff.mp stepped
    cases entered
    rfl
  refine ⟨{ s with loop := loop, stage := .looping }, by simp [enterLoop, stepped], ?_⟩
  have nextSequential := sequential.inside follows (by simp [EventLoop.Label.caller])
  exact ⟨⟨positioned, by simp, by simp, by simp [looping]⟩,
    ⟨nextSequential.free, nextSequential.quitting⟩,
    ⟨fun before => follows.silent (by simp) (awaited.silent before), by simp⟩⟩

/-- The thread returns only after the destructor's `quit`: without a request it would not have
left the loop, and the destructor's is the first. -/
theorem threadReturns_sound (sound : s.Sound) (looping : s.stage = .looping)
    (outside : s.loop.phase = .outside) (orderly : s.owner ≠ .waking) : s.threadReturns.Sound := by
  obtain ⟨threaded, sequential, awaited⟩ := sound
  have signalled : s.owner.signalled = true := by
    by_contra unsignalled
    have before : s.owner.requested = false :=
      LoopOwner.not_requested (Bool.eq_false_of_not_eq_true unsignalled) orderly
    exact threaded.stays looping (awaited.silent before) outside
  refine ⟨⟨threaded.positioned, by simp [threadReturns], by simp [threadReturns],
    by simp [threadReturns]⟩, ⟨sequential.free, sequential.quitting⟩, awaited.silent, ?_⟩
  intro unsignalled
  cases signalled.symm.trans unsignalled

theorem quit_sound (sound : s.Sound) (quitting : s.owner = .quitting) :
    ∃ next, s.quit = some next ∧ next.Sound := by
  obtain ⟨threaded, sequential, awaited⟩ := sound
  have existing := awaited.alive (by simp [quitting, LoopOwner.signalled])
  have free := sequential.free (by simp [quitting]) (by simp [quitting])
  have admitted : s.loop.Enabled (.quit ownerThread) := ⟨free, by simp [ownerThread]⟩
  obtain ⟨loop, stepped, positioned⟩ :=
    EventLoop.step_positioned s.loop _ threaded.positioned admitted
  have follows := EventLoop.step_follows admitted stepped
  have nextThreaded := threaded.inside positioned follows (by simp)
    (by simp [EventLoop.Label.caller, ownerThread])
  refine ⟨{ s with loop := loop, owner := .waking }, by simp [quit, existing, stepped],
    nextThreaded.owner .waking, ⟨by simp, fun _ => ?_⟩, by simp [LoopOwner.requested],
    fun _ => existing⟩
  cases stepped
  exact update_self ownerThread (some .quit) s.loop.calls

theorem wakeup_sound (sound : s.Sound) (waking : s.owner = .waking) :
    ∃ next, s.wakeup = some next ∧ next.Sound := by
  obtain ⟨threaded, sequential, awaited⟩ := sound
  have existing := awaited.alive (by simp [waking, LoopOwner.signalled])
  have calling := sequential.quitting waking
  have admitted : s.loop.Enabled (.complete ownerThread) := by simp [EventLoop.Enabled, calling]
  obtain ⟨loop, stepped, positioned⟩ :=
    EventLoop.step_positioned s.loop _ threaded.positioned admitted
  have follows := EventLoop.step_follows admitted stepped
  have nextThreaded := threaded.inside positioned follows (by simp)
    (by simp [EventLoop.Label.caller, ownerThread])
  refine ⟨{ s with loop := loop, owner := .joining }, by simp [wakeup, existing, stepped],
    nextThreaded.owner .joining, ⟨fun _ _ => ?_, by simp⟩, by simp [LoopOwner.requested],
    by simp [LoopOwner.signalled]⟩
  cases stepped
  exact EventLoop.complete_calls_own

/-- Every admitted step in this order succeeds. -/
theorem step_sound (s : EventLoopThread F) (label : Label F) (sound : s.Sound)
    (admitted : s.Enabled label ∧ s.Orderly label) :
    ∃ next, s.step label = some next ∧ next.Sound := by
  obtain ⟨enabled, orderly⟩ := admitted
  have ⟨threaded, sequential, awaited⟩ := sound
  cases label with
  | inside label => exact inside_sound sound enabled orderly
  | callbackReturns =>
    obtain ⟨callback, free⟩ := enabled
    exact ⟨_, rfl, threaded.prepares (.inl callback) free (.inl rfl),
      ⟨sequential.free, sequential.quitting⟩, awaited.silent, by simp [callbackReturns]⟩
  | publish =>
    have publishing : s.stage = .publishing := enabled
    have free := threaded.returned (.inl publishing)
    exact ⟨_, rfl, threaded.prepares (.inr publishing) free (.inr rfl),
      ⟨sequential.free, sequential.quitting⟩, awaited.silent, by simp [publish]⟩
  | enterLoop => exact enterLoop_sound sound enabled
  | threadReturns => exact ⟨_, rfl, threadReturns_sound sound enabled.1 enabled.2 orderly⟩
  | startLoop | destroy =>
    obtain ⟨idle, free⟩ := enabled
    exact ⟨_, rfl, sound.moves (by simp [idle, LoopOwner.requested]) free (by simp)⟩
  | startObserves | destroyObserves =>
    have waiting := enabled.1
    have free := sequential.free (by simp [waiting]) (by simp [waiting])
    exact ⟨_, rfl, sound.moves (by simp [waiting, LoopOwner.requested]) free (by simp)⟩
  | startReturns =>
    have returning : s.owner = .returning := enabled
    have free := sequential.free (by simp [returning]) (by simp [returning])
    have existing := awaited.alive (by simp [returning, LoopOwner.signalled])
    exact ⟨{ s with owner := .idle }, by simp [step, startReturns, existing],
      sound.moves (by simp [returning, LoopOwner.requested]) free (by simp)⟩
  | quit => exact quit_sound sound enabled
  | wakeup => exact wakeup_sound sound enabled
  | join =>
    have joining := enabled.1
    have free := sequential.free (by simp [joining]) (by simp [joining])
    exact ⟨_, rfl, threaded.owner _, .moves free (by simp), by simp [join, LoopOwner.requested],
      by simp [join, LoopOwner.signalled]⟩

theorem Sound.usesLive (sound : s.Sound) {label : Label F} (enabled : s.Enabled label) :
    s.UsesLive label := by
  cases label with
  | startReturns =>
    have returning : s.owner = .returning := enabled
    exact sound.awaited.alive (by simp [returning, LoopOwner.signalled])
  | quit =>
    have quitting : s.owner = .quitting := enabled
    exact sound.awaited.alive (by simp [quitting, LoopOwner.signalled])
  | wakeup =>
    have waking : s.owner = .waking := enabled
    exact sound.awaited.alive (by simp [waking, LoopOwner.signalled])
  | _ => trivial

end Steps

/-- Suppose nobody but the destructor asks the loop to quit until the destructor has, and the
thread does not return between the two steps of the destructor's `quit`. Then in every
interleaving the destructor's `quit` is executed on an existing loop, `startLoop` returns a
pointer to an existing loop, and no step fails.

Proof: the loop is left only on a request, and the first request is the destructor's. So the
thread cannot return before it, nor, by the second condition, before `quit` has woken the
loop up. -/
theorem destructor_signals_live_loop (labels : List (Label F))
    (valid : system.Valid initial labels) (orderly : system.Along Orderly initial labels) :
    system.Along UsesLive initial labels ∧ ∃ final, system.run initial labels = some final := by
  have along := (System.along_and Enabled Orderly _ _).mpr ⟨valid, orderly⟩
  constructor
  · refine System.along_invariant Sound (fun s label next sound admitted stepped => ?_)
      (fun s label sound admitted => sound.usesLive admitted.1) _ _ initial_sound along
    obtain ⟨other, taken, kept⟩ := step_sound s label sound admitted
    cases taken.symm.trans stepped
    exact kept
  · obtain ⟨final, finished, _⟩ := System.run_safe Sound step_sound _ _ initial_sound along
    exact ⟨final, finished⟩

/-- The owner starts the loop, another thread queues a functor, and the owner destroys the
object while the loop polls. The functor runs and asks the loop to quit once more. -/
def destroyedPolling : List (Label Nat) :=
  [.startLoop, .callbackReturns, .publish, .startObserves, .enterLoop, .startReturns,
    .inside .test, .inside (.queueInLoop (.thread 1) 0), .inside (.complete (.thread 1)), .destroy,
    .destroyObserves, .quit, .wakeup, .inside (.poll true), .inside .handleWakeup,
    .inside .beginFunctors, .inside .swapFunctors, .inside .runFunctor, .inside (.quit .loop),
    .inside (.complete .loop), .inside .endFunctors, .inside .destroyFunctors, .inside .test,
    .threadReturns, .join]

/-- The thread returns and is joined. -/
theorem destructor_signals_live_loop_polling :
    ∃ final, system.run initial destroyedPolling = some final ∧
      final.stage = .returned ∧ final.owner = .done := by
  obtain ⟨_, final, finished⟩ :=
    destructor_signals_live_loop destroyedPolling (by decide) (by decide)
  cases finished
  exact ⟨_, rfl, rfl, rfl⟩

/-- Three ways in which the pointer is used after the loop is gone. A functor asks the loop to
quit, and the owner is destroyed later. The init callback asks the loop to quit, and the
thread has returned before `startLoop` does. The destructor's own request ends the thread
before the destructor wakes the loop up. -/
def danglingUses : List (List (Label Nat)) :=
  [[.callbackReturns, .publish, .enterLoop, .startLoop, .startObserves, .startReturns,
      .inside (.queueInLoop (.thread 0) 0), .inside (.complete (.thread 0)), .inside .test,
      .inside (.poll true), .inside .handleWakeup, .inside .beginFunctors, .inside .swapFunctors,
      .inside .runFunctor, .inside (.quit .loop), .inside (.complete .loop), .inside .endFunctors,
      .inside .destroyFunctors, .inside .test, .threadReturns, .destroy, .destroyObserves, .quit],
    [.inside (.quit .loop), .inside (.complete .loop), .callbackReturns, .publish, .startLoop,
      .startObserves, .enterLoop, .inside .test, .threadReturns, .startReturns],
    [.callbackReturns, .publish, .destroy, .destroyObserves, .quit, .enterLoop, .inside .test,
      .threadReturns, .wakeup]]

/-- Each of the three runs is possible up to its last step, which uses a loop that is gone. -/
theorem dead_loop_used : danglingUses.Forall fun labels =>
    system.Valid initial labels ∧ system.run initial labels = none := by
  decide

end EventLoopThread

end Moban
