import Moban.Runs
import Moban.CondVar

/-!
# The blocking queue

`put` and `shutdown` change the queue under the mutex and notify after they have released it,
so each of them is two steps, between which other threads may take the mutex. `take` waits
with a predicate that it tests whenever it gets the mutex, and its wait may end without a
notification.

A log keeps what the calls have done, in the order of their critical sections.
-/

namespace Moban

open Runs

namespace BlockingQueue

/-- An effect of a call that other threads can rely on. -/
inductive Event (α Thread : Type) where
  | put (thread : Thread) (value : α)
  /-- `take` or `tryTake` returns the value. -/
  | returned (thread : Thread) (value : α)
  /-- `take` throws "queue is closed". -/
  | threw (thread : Thread)
  /-- `shutdown` has set `done`. -/
  | shutdown (thread : Thread)
  /-- `shutdown` has notified every thread and returns. -/
  | closed (thread : Thread)
deriving DecidableEq

variable {α Thread : Type}

/-- The value that enters the queue. -/
def Event.given : Event α Thread → Option α
  | put _ value => some value
  | _ => none

/-- The value that leaves the queue. -/
def Event.taken : Event α Thread → Option α
  | returned _ value => some value
  | _ => none

/-- The values that were put, in order. -/
def puts (log : List (Event α Thread)) : List α := log.filterMap Event.given

/-- The values that were returned, in order. -/
def returns (log : List (Event α Thread)) : List α := log.filterMap Event.taken

end BlockingQueue

open BlockingQueue in
structure BlockingQueue (α Thread : Type) where
  q : List α
  done : Bool
  cv : CondVar Thread
  /-- The threads in `take` that have waited. -/
  taking : Finset Thread
  /-- The threads in `put` that have pushed their value and not notified. -/
  putting : Finset Thread
  /-- The threads in `shutdown` that have set `done` and not notified. -/
  closing : Finset Thread
  log : List (Event α Thread)

namespace BlockingQueue

variable {α Thread : Type}

def initial : BlockingQueue α Thread where
  q := []
  done := false
  cv := .idle
  taking := ∅
  putting := ∅
  closing := ∅
  log := []

variable [DecidableEq Thread]

/-- Push the value under the mutex. -/
def put (s : BlockingQueue α Thread) (thread : Thread) (value : α) : BlockingQueue α Thread :=
  { s with
    q := s.q ++ [value]
    putting := insert thread s.putting
    log := s.log ++ [.put thread value] }

/-- The end of `put`. -/
def notifyOne (s : BlockingQueue α Thread) (thread : Thread) (woken : Option Thread) :
    BlockingQueue α Thread :=
  { s with
    cv := s.cv.notifyOne woken
    putting := s.putting.erase thread }

/-- From the test of the predicate on. An empty queue has no first element. -/
def take (s : BlockingQueue α Thread) (thread : Thread) : Option (BlockingQueue α Thread) :=
  if s.q.isEmpty && !s.done then
    some { s with
      cv := s.cv.wait thread
      taking := insert thread s.taking }
  else if s.done && s.q.isEmpty then
    some { s with
      taking := s.taking.erase thread
      log := s.log ++ [.threw thread] }
  else
    match s.q with
    | [] => none
    | value :: rest =>
        some { s with
          q := rest
          taking := s.taking.erase thread
          log := s.log ++ [.returned thread value] }

def tryTake (s : BlockingQueue α Thread) (thread : Thread) : BlockingQueue α Thread :=
  match s.q with
  | [] => s
  | value :: rest =>
      { s with
        q := rest
        log := s.log ++ [.returned thread value] }

/-- Set `done` under the mutex. -/
def shutdown (s : BlockingQueue α Thread) (thread : Thread) : BlockingQueue α Thread :=
  { s with
    done := true
    closing := insert thread s.closing
    log := s.log ++ [.shutdown thread] }

/-- The end of `shutdown`. -/
def notifyAll (s : BlockingQueue α Thread) (thread : Thread) : BlockingQueue α Thread :=
  { s with
    cv := s.cv.notifyAll
    closing := s.closing.erase thread
    log := s.log ++ [.closed thread] }

/-! ## Runs -/

inductive Label (α Thread : Type) where
  | put (thread : Thread) (value : α)
  | notifyOne (thread : Thread) (woken : Option Thread)
  | take (thread : Thread)
  | tryTake (thread : Thread)
  | shutdown (thread : Thread)
  | notifyAll (thread : Thread)
  /-- A wait ends without a notification. -/
  | wake (thread : Thread)
  /-- A thread gets the mutex back after a wait. -/
  | resume (thread : Thread)

def step (s : BlockingQueue α Thread) : Label α Thread → Option (BlockingQueue α Thread)
  | .put thread value => some (s.put thread value)
  | .notifyOne thread woken => some (s.notifyOne thread woken)
  | .take thread => s.take thread
  | .tryTake thread => some (s.tryTake thread)
  | .shutdown thread => some (s.shutdown thread)
  | .notifyAll thread => some (s.notifyAll thread)
  | .wake thread => some { s with cv := s.cv.wake thread }
  | .resume thread => { s with cv := s.cv.proceed thread }.take thread

/-- The thread is in no call. -/
def Free (s : BlockingQueue α Thread) (thread : Thread) : Prop :=
  thread ∉ s.taking ∧ thread ∉ s.putting ∧ thread ∉ s.closing

instance (s : BlockingQueue α Thread) (thread : Thread) : Decidable (s.Free thread) :=
  instDecidableAnd

/-- What may happen next. -/
def Enabled (s : BlockingQueue α Thread) : Label α Thread → Prop
  | .put thread _ | .take thread | .tryTake thread | .shutdown thread => s.Free thread
  | .notifyOne thread woken => thread ∈ s.putting ∧ s.cv.Chooses woken
  | .notifyAll thread => thread ∈ s.closing
  | .wake thread => thread ∈ s.cv.waiting
  | .resume thread => thread ∈ s.taking ∧ thread ∉ s.cv.waiting

instance (s : BlockingQueue α Thread) : (label : Label α Thread) → Decidable (s.Enabled label)
  | .put thread _ | .take thread | .tryTake thread | .shutdown thread =>
      inferInstanceAs (Decidable (s.Free thread))
  | .notifyOne .. | .resume _ => instDecidableAnd
  | .notifyAll thread => inferInstanceAs (Decidable (thread ∈ s.closing))
  | .wake thread => inferInstanceAs (Decidable (thread ∈ s.cv.waiting))

def system : System (BlockingQueue α Thread) (Label α Thread) where
  step := step
  enabled := Enabled

instance (s : BlockingQueue α Thread) (label : Label α Thread) :
    Decidable (system.enabled s label) :=
  inferInstanceAs (Decidable (s.Enabled label))

/-! ## What `take` does -/

/-- The outcomes of `take`, with what its tests say about the state. -/
inductive Takes (s : BlockingQueue α Thread) (thread : Thread) : BlockingQueue α Thread → Prop where
  | waits (empty : s.q = []) (running : s.done = false) :
      Takes s thread { s with
        cv := s.cv.wait thread
        taking := insert thread s.taking }
  | throws (empty : s.q = []) (closed : s.done = true) :
      Takes s thread { s with
        taking := s.taking.erase thread
        log := s.log ++ [.threw thread] }
  | returns {value : α} {rest : List α} (first : s.q = value :: rest) :
      Takes s thread { s with
        q := rest
        taking := s.taking.erase thread
        log := s.log ++ [.returned thread value] }

/-- `take` never asks an empty queue for its first element. -/
theorem take_takes (s : BlockingQueue α Thread) (thread : Thread) :
    ∃ next, s.take thread = some next ∧ Takes s thread next := by
  cases list : s.q with
  | nil =>
    cases done : s.done with
    | false => exact ⟨_, by simp only [take, list, done]; rfl, .waits list done⟩
    | true => exact ⟨_, by simp only [take, list, done]; rfl, .throws list done⟩
  | cons value rest => exact ⟨_, by simp [take, list], .returns list⟩

/-! ## What the log says -/

section Logs

variable {log : List (Event α Thread)} {event : Event α Thread}

/-- Every exception comes after a shutdown, when all values that were put have been returned. -/
def Justified (log : List (Event α Thread)) : Prop :=
  ∀ before after thread, log = before ++ .threw thread :: after →
    (∃ other, .shutdown other ∈ before) ∧ puts before = returns before

omit [DecidableEq Thread] in
/-- A log stays justified with an event that is justified by what is logged before.

Proof: an exception of the longer log is its last event or one of the log. -/
theorem Justified.append (justified : Justified log) (last : ∀ thread, event = .threw thread →
      (∃ other, .shutdown other ∈ log) ∧ puts log = returns log) :
    Justified (log ++ [event]) := by
  intro before after thread split
  rcases List.eq_nil_or_concat after with rfl | ⟨earlier, final, rfl⟩
  · obtain ⟨same, ends⟩ := List.append_inj' split rfl
    subst same
    exact last thread (List.singleton_inj.mp ends)
  · have regrouped : log ++ [event] = (before ++ .threw thread :: earlier) ++ [final] := by
      simpa using split
    obtain ⟨same, _⟩ := List.append_inj' regrouped rfl
    exact justified before earlier thread same

omit [DecidableEq Thread] in
theorem puts_concat (log : List (Event α Thread)) (event : Event α Thread) :
    puts (log ++ [event]) = puts log ++ event.given.toList := by
  cases event <;> simp [puts, Event.given]

omit [DecidableEq Thread] in
theorem returns_concat (log : List (Event α Thread)) (event : Event α Thread) :
    returns (log ++ [event]) = returns log ++ event.taken.toList := by
  cases event <;> simp [returns, Event.taken]

end Logs

/-- The queue holds the values that were put and not returned, and the log tells why it threw. -/
structure Recorded (s : BlockingQueue α Thread) : Prop where
  order : puts s.log = returns s.log ++ s.q
  begun : s.done = true → ∃ thread, .shutdown thread ∈ s.log
  justified : Justified s.log

/-- Every element is accounted for by a released thread or by a notification to come, and
nobody is blocked once a shutdown has returned. -/
structure Attended (s : BlockingQueue α Thread) : Prop where
  consumers : s.cv.Covers (s.q.length - s.putting.card)
  closing : s.closing.Nonempty → s.done = true
  quiet : (∃ thread, .closed thread ∈ s.log) → s.done = true ∧ s.cv.waiting = ∅

section Steps

variable {s next : BlockingQueue α Thread} {thread : Thread} {label : Label α Thread}

omit [DecidableEq Thread] in
/-- What a step has to show about the event that it logs. -/
theorem Recorded.logs {event : Event α Thread} (recorded : Recorded s)
    (logged : next.log = s.log ++ [event])
    (balanced : s.q ++ event.given.toList = event.taken.toList ++ next.q)
    (closes : next.done = true → s.done = true ∨ ∃ thread, event = .shutdown thread)
    (throws : ∀ thread, event = .threw thread → s.done = true ∧ s.q = []) : Recorded next where
  order := by
    rw [logged, puts_concat, returns_concat, recorded.order, List.append_assoc, balanced,
      List.append_assoc]
  begun := by
    intro closed
    rw [logged]
    rcases closes closed with earlier | ⟨thread, rfl⟩
    · obtain ⟨thread, begun⟩ := recorded.begun earlier
      exact ⟨thread, List.mem_append_left _ begun⟩
    · exact ⟨thread, by simp⟩
  justified := by
    rw [logged]
    refine recorded.justified.append ?_
    intro thread threw
    obtain ⟨closed, empty⟩ := throws thread threw
    exact ⟨recorded.begun closed, by simpa [empty] using recorded.order⟩

theorem Takes.recorded (takes : Takes s thread next) (recorded : Recorded s) : Recorded next := by
  cases takes with
  | waits => exact ⟨recorded.order, recorded.begun, recorded.justified⟩
  | throws empty closed =>
    exact recorded.logs rfl (by simp [Event.given, Event.taken]) .inl fun _ _ => ⟨closed, empty⟩
  | returns first =>
    refine recorded.logs rfl ?_ .inl ?_
    · simp [first, Event.given, Event.taken]
    · intro _ other
      cases other

/-- Taking an element, waiting for one and giving up keep the account, provided that the
thread was not released for an element other than the one it takes. -/
theorem Takes.attended (takes : Takes s thread next)
    (consumers : s.cv.Covers (s.q.length - s.putting.card - 1))
    (closing : s.closing.Nonempty → s.done = true)
    (quiet : (∃ thread, .closed thread ∈ s.log) → s.done = true ∧ s.cv.waiting = ∅) :
    Attended next := by
  cases takes with
  | waits empty running =>
    refine ⟨?_, closing, ?_⟩
    · simpa [empty] using CondVar.covers_zero _
    · intro closed
      exact absurd (running.symm.trans (quiet closed).1) Bool.false_ne_true
  | throws empty closed =>
    refine ⟨?_, closing, ?_⟩
    · simpa [empty] using CondVar.covers_zero _
    · simpa using quiet
  | returns first =>
    refine ⟨consumers.mono ?_, closing, ?_⟩
    · rw [first, List.length_cons]
      dsimp only
      omega
    · simpa using quiet

theorem step_recorded (recorded : Recorded s) (stepped : s.step label = some next) :
    Recorded next := by
  cases label with
  | put thread value =>
    cases stepped
    refine recorded.logs rfl (by simp [put, Event.given, Event.taken]) .inl ?_
    intro _ other
    cases other
  | notifyOne thread woken =>
    cases stepped
    exact ⟨recorded.order, recorded.begun, recorded.justified⟩
  | take thread =>
    obtain ⟨taken, same, takes⟩ := take_takes s thread
    cases same.symm.trans stepped
    exact takes.recorded recorded
  | tryTake thread =>
    cases stepped
    unfold tryTake
    split
    · exact recorded
    case h_2 value rest first =>
      refine recorded.logs rfl (by simp [first, Event.given, Event.taken]) .inl ?_
      intro _ other
      cases other
  | shutdown thread =>
    cases stepped
    refine recorded.logs rfl (by simp [shutdown, Event.given, Event.taken])
      (fun _ => .inr ⟨thread, rfl⟩) ?_
    intro _ other
    cases other
  | notifyAll thread =>
    cases stepped
    refine recorded.logs rfl (by simp [notifyAll, Event.given, Event.taken]) .inl ?_
    intro _ other
    cases other
  | wake thread =>
    cases stepped
    exact ⟨recorded.order, recorded.begun, recorded.justified⟩
  | resume thread =>
    obtain ⟨taken, same, takes⟩ := take_takes { s with cv := s.cv.proceed thread } thread
    cases same.symm.trans stepped
    exact takes.recorded ⟨recorded.order, recorded.begun, recorded.justified⟩

theorem step_attended (attended : Attended s) (enabled : s.Enabled label)
    (stepped : s.step label = some next) : Attended next := by
  cases label with
  | put thread value =>
    cases stepped
    have fresh : thread ∉ s.putting := enabled.2.1
    refine ⟨attended.consumers.mono ?_, attended.closing, by simpa [put] using attended.quiet⟩
    simp only [put, List.length_append, List.length_singleton, Finset.card_insert_of_notMem fresh]
    omega
  | notifyOne thread woken =>
    cases stepped
    obtain ⟨notifying, chosen⟩ := enabled
    refine ⟨(attended.consumers.notifyOne chosen).mono ?_, attended.closing, ?_⟩
    · simp only [notifyOne, Finset.card_erase_of_mem notifying]
      omega
    · intro closed
      obtain ⟨done, quiet⟩ := attended.quiet closed
      exact ⟨done, CondVar.notifyOne_waiting_of_empty quiet woken⟩
  | take thread =>
    obtain ⟨taken, same, takes⟩ := take_takes s thread
    cases same.symm.trans stepped
    exact takes.attended (attended.consumers.mono (Nat.sub_le _ 1)) attended.closing attended.quiet
  | tryTake thread =>
    cases stepped
    unfold tryTake
    split
    · exact attended
    case h_2 value rest first =>
      refine ⟨attended.consumers.mono ?_, attended.closing, by simpa using attended.quiet⟩
      rw [first, List.length_cons]
      dsimp only
      omega
  | shutdown thread =>
    cases stepped
    refine ⟨attended.consumers, fun _ => rfl, ?_⟩
    rintro ⟨other, closed⟩
    have earlier : .closed other ∈ s.log := by simpa [shutdown] using closed
    exact ⟨rfl, (attended.quiet ⟨other, earlier⟩).2⟩
  | notifyAll thread =>
    cases stepped
    have done : s.done = true := attended.closing ⟨thread, enabled⟩
    exact ⟨CondVar.covers_of_empty rfl _, fun _ => done, fun _ => ⟨done, rfl⟩⟩
  | wake thread =>
    cases stepped
    refine ⟨attended.consumers.wake thread, attended.closing, ?_⟩
    intro closed
    obtain ⟨done, quiet⟩ := attended.quiet closed
    exact ⟨done, CondVar.wake_waiting_of_empty quiet thread⟩
  | resume thread =>
    obtain ⟨taken, same, takes⟩ := take_takes { s with cv := s.cv.proceed thread } thread
    cases same.symm.trans stepped
    exact takes.attended (attended.consumers.proceed thread) attended.closing attended.quiet

theorem step_succeeds (s : BlockingQueue α Thread) (label : Label α Thread) :
    ∃ next, s.step label = some next := by
  cases label with
  | take thread =>
    obtain ⟨next, taken, _⟩ := take_takes s thread
    exact ⟨next, taken⟩
  | resume thread =>
    obtain ⟨next, taken, _⟩ := take_takes { s with cv := s.cv.proceed thread } thread
    exact ⟨next, taken⟩
  | _ => exact ⟨_, rfl⟩

end Steps

/-- The queue delivers every element once and strands no consumer, for every interleaving. No
step fails; the values that were put are the returned ones followed by those in the queue;
every exception comes after a shutdown, with all values returned; while a thread is blocked,
the elements do not outnumber the released threads together with the notifications to come;
and nobody is blocked once a shutdown has returned.

Proof: the log and the account are each kept by every step. -/
theorem delivers_once (labels : List (Label α Thread))
    (valid : system.Valid (initial : BlockingQueue α Thread) labels) :
    ∃ final, system.run initial labels = some final ∧
      puts final.log = returns final.log ++ final.q ∧
      Justified final.log ∧
      (final.cv.waiting.Nonempty →
        final.q.length ≤ final.cv.notified.card + final.putting.card) ∧
      ((∃ thread, .closed thread ∈ final.log) → final.cv.waiting = ∅) := by
  let Sound : BlockingQueue α Thread → Prop := fun s => Recorded s ∧ Attended s
  have start : Sound initial := by
    refine ⟨⟨rfl, by simp [initial], by simp [Justified, initial]⟩, ?_⟩
    exact ⟨CondVar.covers_of_empty rfl _, by simp [initial], by simp [initial]⟩
  have proceeds : ∀ s label, Sound s → system.enabled s label →
      ∃ next, system.step s label = some next ∧ Sound next := by
    intro s label sound enabled
    obtain ⟨next, stepped⟩ := step_succeeds s label
    exact ⟨next, stepped, step_recorded sound.1 stepped, step_attended sound.2 enabled stepped⟩
  obtain ⟨final, finished, recorded, attended⟩ :=
    System.run_safe Sound proceeds _ _ start valid
  refine ⟨final, finished, recorded.order, recorded.justified, ?_, ?_⟩
  · intro blocked
    have covered := attended.consumers blocked
    omega
  · intro closed
    exact (attended.quiet closed).2

/-- Two consumers wait, a newcomer takes the first element before its notification is given, and
a shutdown meets a consumer that still waits. -/
def overtaken : List (Label Nat Nat) :=
  [.take 0, .take 1, .put 2 7, .tryTake 3, .notifyOne 2 (some 0), .resume 0, .put 2 8,
    .wake 1, .resume 1, .notifyOne 2 (some 0), .shutdown 3, .notifyAll 3, .resume 0]

/-- The element that was overtaken is still delivered once. -/
theorem delivers_once_overtaken : system.Valid (initial : BlockingQueue Nat Nat) overtaken ∧
      ∃ final, system.run initial overtaken = some final ∧
        puts final.log = returns final.log ++ final.q ∧
        Justified final.log ∧
        (final.cv.waiting.Nonempty →
          final.q.length ≤ final.cv.notified.card + final.putting.card) ∧
        ((∃ thread, .closed thread ∈ final.log) → final.cv.waiting = ∅) :=
  have valid : system.Valid (initial : BlockingQueue Nat Nat) overtaken := by decide
  ⟨valid, delivers_once overtaken valid⟩

end BlockingQueue

end Moban
