import Moban.FtpCalls

/-!
# Chunks of abandoned transfers

A task of the disk pool may finish long after its transfer has ended. Every chunk that is handed
to the data connection was nevertheless produced by a task that was submitted for the current
transfer, after the reply that began it, and the task works on the file or directory that was
opened for this transfer and has not been closed since.

The generation of a chunk tells whether it belongs to the current transfer: it grows whenever a
transfer begins or ends, and handles are closed only when a transfer ends. A transfer can submit
tasks only while its data connection is up, and then its file or directory has been opened, since
both a new transfer and a new data connection open it before anything is submitted.
-/

namespace Moban

open Runs Histories

/-! ## The past of a chunk -/

namespace FtpEvent

/-- No transfer begins, and the handle is not closed. -/
def Keeps (handle : FtpHandle) (event : FtpEvent) : Prop := event ≠ .began ∧ event ≠ .closed handle

/-- A transfer has begun, and none has begun since. -/
def Begun : List FtpEvent → Prop := Since (· ≠ .began) .began fun _ => True

/-- The handle was opened for the current transfer and has not been closed since. -/
def Holds (handle : FtpHandle) : List FtpEvent → Prop := Since (Keeps handle) (.opened handle) Begun

/-- The task was submitted for the current transfer and works on the handle, which has not been
closed since it was opened for this transfer. -/
def Submitted (handle : FtpHandle) (task : DiskTask) (log : List FtpEvent) : Prop :=
  task.Reads handle ∧ Since (Keeps handle) (.submitted (some handle) task) (Holds handle) log

/-- The chunk is what such a task has returned. -/
def Produced (chunk : Chunk) (log : List FtpEvent) : Prop :=
  ∃ handle task result, task.Returns result ∧ chunk = task.chunk result ∧
    Since (Keeps handle) (.finished task result) (Submitted handle task) log

/-- The event leaves the transfer and its handles alone. -/
def Neutral (event : FtpEvent) : Prop := event ≠ .began ∧ ∀ handle, event ≠ .closed handle

/-- A chunk is sent only if it was produced for the current transfer. -/
def Sound (before : List FtpEvent) (event : FtpEvent) : Prop :=
  ∀ chunk, event = .sent chunk → Produced chunk before

section Past

variable {handle : FtpHandle} {task : DiskTask} {chunk : Chunk} {log more : List FtpEvent}

theorem Neutral.keeps {event : FtpEvent} (neutral : event.Neutral) : event.Keeps handle :=
  ⟨neutral.1, neutral.2 handle⟩

theorem Begun.append (begun : Begun log) (neutral : ∀ event ∈ more, event.Neutral) :
    Begun (log ++ more) :=
  Since.append begun fun event member => (neutral event member).1

theorem Holds.append (holds : Holds handle log) (neutral : ∀ event ∈ more, event.Neutral) :
    Holds handle (log ++ more) :=
  Since.append holds fun event member => (neutral event member).keeps

theorem Submitted.append (submitted : Submitted handle task log)
    (neutral : ∀ event ∈ more, event.Neutral) : Submitted handle task (log ++ more) :=
  ⟨submitted.1, submitted.2.append fun event member => (neutral event member).keeps⟩

theorem Produced.append (produced : Produced chunk log) (neutral : ∀ event ∈ more, event.Neutral) :
    Produced chunk (log ++ more) := by
  obtain ⟨handle, task, result, returns, made, since⟩ := produced
  exact ⟨handle, task, result, returns, made,
    since.append fun event member => (neutral event member).keeps⟩

end Past

end FtpEvent

namespace FtpSession

open FtpEvent

/-! ## What the record tells about the session -/

/-- Tasks and chunks of the current generation belong to the current transfer. -/
structure Provenance (s : FtpSession) (log : List FtpEvent) : Prop where
  tasks : ∀ task ∈ s.tasks,
    task.gen < s.xferGen ∨ task.gen = s.xferGen ∧ ∃ handle, Submitted handle task log
  chunks : ∀ chunk, .sendChunkReady chunk ∈ s.queued →
    chunk.gen < s.xferGen ∨ chunk.gen = s.xferGen ∧ Produced chunk log
  begun : s.xfer ≠ .kNone → Begun log
  sound : Each Sound log

/-- Moreover, a transfer whose data connection is up has its file or directory open. -/
structure Traced (s : FtpSession) (log : List FtpEvent) : Prop extends s.Provenance log where
  ready : s.connected = true → s.xfer ≠ .kNone → ∃ handle, s.handle = some handle ∧ Holds handle log

section Steps

variable {s next : FtpSession} {input : FtpInput} {label : Label} {log events more : List FtpEvent}

/-- The transfer goes on, and neutral events are recorded. -/
theorem Provenance.continues (provenance : s.Provenance log) (more : List FtpEvent)
    (calm : s.Calm next) (xferGen : next.xferGen = s.xferGen) (xfer : next.xfer = s.xfer)
    (neutral : ∀ event ∈ more, event.Neutral) (sound : Each Sound (log ++ more)) :
    next.Provenance (log ++ more) := by
  refine ⟨?_, ?_, fun active => (provenance.begun (xfer ▸ active)).append neutral, sound⟩
  · rw [calm.tasks, xferGen]
    intro task member
    refine (provenance.tasks task member).imp_right fun current => ?_
    obtain ⟨same, handle, submission⟩ := current
    exact ⟨same, handle, submission.append neutral⟩
  · rw [xferGen]
    intro chunk member
    refine (provenance.chunks chunk (calm.chunks chunk member)).imp_right fun current => ?_
    exact ⟨current.1, current.2.append neutral⟩

theorem Traced.continues (traced : s.Traced log) (more : List FtpEvent)
    (continues : s.Continues next) (neutral : ∀ event ∈ more, event.Neutral)
    (sound : Each Sound (log ++ more)) :
    next.Traced (log ++ more) := by
  refine ⟨traced.toProvenance.continues more continues.toCalm continues.xferGen continues.xfer
    neutral sound, fun up active => ?_⟩
  obtain ⟨handle, held, holds⟩ :=
    traced.ready (continues.connected up) (continues.xfer ▸ active)
  exact ⟨handle, continues.handle.trans held, holds.append neutral⟩

/-- When the generation has grown, all tasks and chunks are of earlier ones. -/
theorem Provenance.outdated (provenance : s.Provenance log) (calm : s.Calm next)
    (grown : s.xferGen < next.xferGen) (begun : next.xfer ≠ .kNone → Begun (log ++ more))
    (sound : Each Sound (log ++ more)) : next.Provenance (log ++ more) := by
  refine ⟨?_, ?_, begun, sound⟩
  · rw [calm.tasks]
    intro task member
    rcases provenance.tasks task member with earlier | ⟨current, _⟩
    · exact .inl (earlier.trans grown)
    · exact .inl (current ▸ grown)
  · intro chunk member
    rcases provenance.chunks chunk (calm.chunks chunk member) with earlier | ⟨current, _⟩
    · exact .inl (earlier.trans grown)
    · exact .inl (current ▸ grown)

theorem Provenance.unsent (provenance : s.Provenance log)
    (unsent : ∀ event ∈ more, ∀ chunk, event ≠ .sent chunk) : Each Sound (log ++ more) :=
  provenance.sound.append fun event member _ chunk sent => absurd sent (unsent event member chunk)

theorem Traced.ends (traced : s.Traced log) (ends : s.Ends next) :
    next.Traced (log ++ s.closing) := by
  have unsent : ∀ event ∈ s.closing, ∀ chunk, event ≠ .sent chunk := by
    intro event member chunk
    obtain ⟨handle, _, rfl⟩ := List.mem_map.mp member
    simp
  exact ⟨traced.outdated ends.toCalm ends.xferGen (fun active => absurd ends.xfer active)
    (traced.unsent unsent), fun _ active => absurd ends.xfer active⟩

theorem Traced.submits (traced : s.Traced log) {task : DiskTask} (current : task.gen = s.xferGen)
    (reads : ∀ handle ∈ s.handle, task.Reads handle) (up : s.connected = true)
    (active : s.xfer ≠ .kNone) (tasks : next.tasks = s.tasks ++ [task])
    (rests : s.Rests { next with tasks := s.tasks }) :
    next.Traced (log ++ [.submitted s.handle task]) := by
  obtain ⟨handle, held, holds⟩ := traced.ready up active
  have before := traced.continues [.submitted s.handle task] rests.toContinues
    (by simp [Neutral]) (traced.unsent (by simp))
  refine ⟨⟨?_, before.chunks, before.begun, before.sound⟩, before.ready⟩
  rw [tasks]
  intro other member
  rcases List.mem_append.mp member with old | new
  · exact before.tasks other old
  · cases List.mem_singleton.mp new
    have same : next.xferGen = s.xferGen := rests.xferGen
    refine .inr ⟨current.trans same.symm, handle, reads handle held, ?_⟩
    rw [held]
    exact .now holds

theorem Traced.finishes (traced : s.Traced log) {index : Nat} {task : DiskTask}
    {result : DiskResult} (found : s.tasks[index]? = some task) (returns : task.Returns result) :
    (s.finishTask index (task.chunk result)).Traced (log ++ [.finished task result]) := by
  have before := traced.continues [.finished task result] (Rests.refl s).toContinues
    (by simp [Neutral]) (traced.unsent (by simp))
  refine ⟨⟨?_, ?_, before.begun, before.sound⟩, before.ready⟩
  · exact fun other member => before.tasks other (List.mem_of_mem_eraseIdx member)
  · intro chunk member
    have queue : (s.finishTask index (task.chunk result)).queued =
        s.queued ++ [.sendChunkReady (task.chunk result)] := (List.append_assoc ..).symm
    rw [queue, List.mem_append, List.mem_singleton] at member
    rcases member with old | new
    · exact before.chunks chunk old
    · cases new
      rw [chunk_gen]
      refine (traced.tasks task (List.mem_of_getElem? found)).imp_right fun current => ?_
      obtain ⟨same, handle, submitted⟩ := current
      exact ⟨same, handle, task, result, returns, rfl, .now submitted⟩

/-- What is recorded of a step that does not try to start a transfer. -/
theorem Traced.pumped (traced : s.Traced log) (pumped : s.Pumped next events) :
    next.Traced (log ++ events) := by
  cases pumped with
  | rests rests => exact traced.continues [] rests.toContinues (by simp) (traced.unsent (by simp))
  | ends ends => exact traced.ends ends
  | submits task current reads up active tasks rests =>
    exact traced.submits current reads up active tasks rests
  | finishes result found returns => exact traced.finishes found returns
  | @sends _ chunk queued current continues _ =>
    have produced : Produced chunk log := by
      rcases traced.chunks chunk queued with earlier | ⟨_, produced⟩
      · exact absurd current earlier.ne
      · exact produced
    refine traced.continues [.sent chunk] continues (by simp [Neutral]) (traced.sound.snoc ?_)
    intro other same
    cases same
    exact produced

/-- What is recorded when a transfer may start. -/
theorem Provenance.started (provenance : s.Provenance log)
    (started : s.Launched input next events) : next.Traced (log ++ events) := by
  cases started with
  | waits inactive =>
    rw [List.append_nil]
    refine ⟨provenance, fun up active => ?_⟩
    exact absurd inactive (by simp [up, active])
  | refused _ _ _ rests down =>
    have refused : next.Provenance (log ++ []) := by
      refine Provenance.continues (s := s.openHandle input) ?_ [] rests.toCalm rests.xferGen
        rests.xfer (by simp) (provenance.unsent (by simp))
      exact ⟨provenance.tasks, provenance.chunks, provenance.begun, provenance.sound⟩
    exact ⟨refused, fun up => absurd (down.symm.trans up) (by simp)⟩
  | @opens _ events number _ active opened pumped =>
    have kept : (s.openHandle input).Provenance (log ++ [.opened (s.made number)]) :=
      provenance.continues _ ⟨rfl, fun _ => id⟩ rfl rfl (by simp [Neutral])
        (provenance.unsent (by simp))
    have ready : (s.openHandle input).handle = some (s.made number) := by
      cases transfer : s.xfer with
      | kNone => exact absurd transfer active
      | kList => simp [handle, openHandle, made, transfer, opened]
      | kRetr => simp [handle, openHandle, made, transfer, opened]
    have traced : (s.openHandle input).Traced (log ++ [.opened (s.made number)]) :=
      ⟨kept, fun _ _ => ⟨_, ready, .now (provenance.begun active)⟩⟩
    have pumped := traced.pumped pumped
    rwa [List.append_assoc, List.singleton_append] at pumped

/-- Every step keeps the record in agreement with the session. -/
theorem Traced.recorded (traced : s.Traced log) (recorded : s.Recorded label next events) :
    next.Traced (log ++ events) := by
  cases recorded with
  | pumps _ pumped => exact traced.pumped pumped
  | @begins line _ _ events begins started =>
    have renews := begun_renews begins
    have renewed : (s.begun line).Provenance (log ++ [.began]) :=
      traced.outdated renews.toCalm (by have := renews.xferGen; omega) (fun _ => .now trivial)
        (traced.unsent (by simp))
    have started := renewed.started started
    rwa [List.append_assoc, List.singleton_append] at started
  | accepts _ started =>
    refine Provenance.started ?_ started
    exact ⟨traced.tasks, traced.chunks, traced.begun, traced.sound⟩

end Steps

theorem initial_traced : initial.Traced [] :=
  { tasks := by simp [initial]
    chunks := by simp [initial, queued]
    begun := by simp [initial]
    sound := each_nil
    ready := by simp [initial] }

end FtpSession

namespace FtpRecord

open FtpEvent

theorem run_traced {labels : List FtpSession.Label} {final : FtpRecord}
    (valid : system.Valid initial labels) (finished : system.run initial labels = some final) :
    final.session.Traced final.log := by
  refine System.run_invariant (fun r => r.session.Traced r.log) ?_ initial final labels
    FtpSession.initial_traced valid finished
  intro r label next traced enabled done
  obtain ⟨stepped, recorded⟩ := step_inv done
  rw [recorded]
  exact traced.recorded (FtpSession.step_recorded enabled stepped)

/-- What is recorded as sent is what the data connections were given. -/
theorem run_sent {labels : List FtpSession.Label} {final : FtpRecord}
    (valid : system.Valid initial labels) (finished : system.run initial labels = some final) :
    final.session.given.Perm (final.log.filterMap FtpEvent.bytes?) := by
  refine System.run_invariant
    (fun r => r.session.given.Perm (r.log.filterMap FtpEvent.bytes?)) ?_ initial final labels
    (by decide) valid finished
  intro r label next agrees enabled done
  obtain ⟨stepped, recorded⟩ := step_inv done
  rw [recorded, List.filterMap_append]
  exact (FtpSession.step_recorded enabled stepped).given.trans (agrees.append_right _)

/-- The data connections are given exactly the chunks recorded as sent. Whenever a chunk is sent,
it was produced by a task that was submitted for the current transfer, and the task works on the
file or directory that was opened for this transfer and has not been closed since.

Proof: the record agrees with the session in every run, and its part up to the chunk is sound. -/
theorem sent_chunks_current {labels : List FtpSession.Label} {final : FtpRecord}
    (valid : system.Valid initial labels) (finished : system.run initial labels = some final) :
    (final.session.connections.flatMap DataConnection.sent).Perm
        (final.log.filterMap FtpEvent.bytes?) ∧
      ∀ before after chunk, final.log = before ++ .sent chunk :: after → Produced chunk before := by
  refine ⟨run_sent valid finished, fun before after chunk sent => ?_⟩
  exact (run_traced valid finished).sound before (.sent chunk) after sent chunk rfl

/-- A file is asked for and a read of it is under way when its data connection is lost. The next
file is opened under the same number, and both reads finish. -/
def reopened : List FtpSession.Label :=
  FtpSession.lostMeanwhile
    [FtpSession.commandLine ['R', 'E', 'T', 'R', ' ', 'g'] {}, .accept 1 { opened := some 5 },
      .taskDone 0 (.read [7]), .taskDone 0 (.read [8, 9]), .beginFunctors, .runFunctor {},
      .runFunctor { nwrote := 2 }]

/-- What has happened before the second read is sent. The first one is not sent. -/
def reopenedLog : List FtpEvent :=
  [.began, .opened (.file 5), .submitted (some (.file 5)) ⟨1, .pread (some 5) 0⟩,
    .closed (.file 5), .began, .opened (.file 5),
    .submitted (some (.file 5)) ⟨3, .pread (some 5) 0⟩,
    .finished ⟨1, .pread (some 5) 0⟩ (.read [7]), .finished ⟨3, .pread (some 5) 0⟩ (.read [8, 9])]

/-- Only the read of the second transfer is sent, on the same descriptor. -/
theorem sent_chunks_current_reopened : ∃ final, system.run initial reopened = some final ∧
      final.log = reopenedLog ++ [.sent ⟨3, [8, 9], false, false⟩] ∧
      (final.session.connections.flatMap DataConnection.sent).Perm [[8, 9]] ∧
      Produced ⟨3, [8, 9], false, false⟩ reopenedLog := by
  obtain ⟨given, current⟩ := @sent_chunks_current reopened _ (by decide) rfl
  exact ⟨_, rfl, rfl, given, current reopenedLog [] _ rfl⟩

end FtpRecord

end Moban
