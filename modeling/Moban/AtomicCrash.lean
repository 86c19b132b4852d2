import Moban.AtomicReplace

/-!
# Replacing a file across a crash

The disk follows the directory at its own pace. A name may come back from a crash with every
file that it has had since the directory was flushed, independently of the other names. A file
keeps its content if it was flushed after the last write to it; otherwise its content may be
anything.

The disk observes the calls and does not influence them.
-/

namespace Moban

/-- The calls with what is known of the disk. -/
structure Disk where
  shared : SharedFile
  /-- The files that a name may have after a crash. -/
  recoverable : FileName → List (Option Nat)
  synced : Nat → Bool

namespace Disk

open SharedFile (Label)

/-- Everything is on disk at first. -/
def start (fs : FileSystem FileName) : Disk where
  shared := .start fs
  recoverable := fun name => [fs.entry name]
  synced := fun i => decide (i < fs.size)

/-- The system call that a call makes next, if it succeeds. -/
def succeeding (s : SharedFile) : Label → Option WriteCall
  | .proceeds id .succeeds => s.calls id
  | _ => none

/-- What the disk may have taken over after a step. -/
def follow (d : Disk) (label : Label) (next : SharedFile) : Disk where
  shared := next
  recoverable := fun name =>
    if (succeeding d.shared label).any (·.stage = .syncing) then [next.fs.entry name]
    else if next.fs.entry name = d.shared.fs.entry name then d.recoverable name
    else d.recoverable name ++ [next.fs.entry name]
  synced := fun i =>
    decide (next.fs.content i = d.shared.fs.content i) &&
      (d.synced i ||
        (succeeding d.shared label).any fun call => call.stage = .flushing && call.fd = i)

def step (path : FileName) (d : Disk) (label : Label) : Option Disk :=
  (SharedFile.step path d.shared label).map (d.follow label)

def system (path : FileName) : Runs.System Disk Label where
  step := step path
  enabled := fun d => d.shared.enabled

instance (path : FileName) (d : Disk) (label : Label) : Decidable ((system path).enabled d label) :=
  inferInstanceAs (Decidable (d.shared.enabled label))

/-- The directory after a crash. -/
structure Recovers (d : Disk) (after : FileSystem FileName) : Prop where
  entry : ∀ name, after.entry name ∈ d.recoverable name
  content : ∀ i, d.synced i = true → after.content i = d.shared.fs.content i

section Crash

variable {first : FileSystem FileName} {path : FileName} {d : Disk} {label : Label}

theorem step_shared (path : FileName) (d : Disk) (label : Label) :
    ((system path).step d label).map (·.shared) =
      (SharedFile.system path).step d.shared label := by
  show ((SharedFile.step path d.shared label).map (d.follow label)).map (·.shared) =
    SharedFile.step path d.shared label
  cases SharedFile.step path d.shared label with
  | none => rfl
  | some next => rfl

/-- What the disk has of the files that the path may name after a crash. -/
structure Durable (first : FileSystem FileName) (path : FileName) (d : Disk) : Prop where
  coherent : d.shared.Coherent first path
  original : ∀ i < first.size, d.synced i = true
  flushed : ∀ id call, d.shared.calls id = some call → call.stage.flushed = true →
    d.synced call.fd = true
  recoverable : ∀ entry ∈ d.recoverable path, entry = first.entry path ∨
    ∃ i, entry = some i ∧ d.shared.Published first path i

theorem follow_synced {next : SharedFile} {i : Nat}
    (content : next.fs.content i = d.shared.fs.content i) (synced : d.synced i = true ∨
      ∃ call, succeeding d.shared label = some call ∧ call.stage = .flushing ∧ call.fd = i) :
    (d.follow label next).synced i = true := by
  rcases synced with before | ⟨call, found, flushing, file⟩
  · simp [follow, content, before]
  · simp [follow, content, found, flushing, file]

/-- Calls that were renamed stay so. -/
theorem step_installed {s later : SharedFile} (enabled : s.enabled label)
    (done : SharedFile.step path s label = some later) {id : Nat} {call : WriteCall}
    (found : s.calls id = some call) (installed : call.stage.installed = true) :
    ∃ next, later.calls id = some next ∧ next.stage.installed = true ∧ next.fd = call.fd := by
  rcases SharedFile.step_call enabled done id with
    same | ⟨fresh, -⟩ | ⟨before, outcome, next, present, now, -, advances⟩
  · exact ⟨call, same.trans found, installed, rfl⟩
  · rw [found] at fresh
    cases fresh
  · cases found.symm.trans present
    exact ⟨next, now, advances.still_installed installed⟩

/-- A file is flushed by `fsync`. -/
theorem step_flushed {s later : SharedFile} (enabled : s.enabled label)
    (done : SharedFile.step path s label = some later) {id : Nat} {next : WriteCall}
    (found : later.calls id = some next) (flushed : next.stage.flushed = true) :
    ∃ call, s.calls id = some call ∧ next.fd = call.fd ∧ next.content = call.content ∧
      (call.stage.flushed = true ∨
        (call.stage = .flushing ∧ succeeding s label = some call)) := by
  rcases SharedFile.step_call enabled done id with
    same | ⟨-, content, umask, now⟩ | ⟨call, outcome, after, present, now, proceeds, advances⟩
  · exact ⟨next, same.symm.trans found, rfl, rfl, .inl flushed⟩
  · cases found.symm.trans now
    cases flushed
  · cases found.symm.trans now
    obtain ⟨file, content, before | ⟨flushing, succeeded⟩⟩ := advances.flushed_before flushed
    · exact ⟨call, present, file, content, .inl before⟩
    · refine ⟨call, present, file, content, .inr ⟨flushing, ?_⟩⟩
      rw [proceeds, succeeded]
      exact present

theorem start_durable (valid : first.WellFormed) : (start first).Durable first path where
  coherent := SharedFile.start_coherent valid
  original := fun _ old => decide_eq_true old
  flushed := by simp [start, SharedFile.start]
  recoverable := fun _ recovered => .inl (List.mem_singleton.mp recovered)

/-- The disk stays ahead of what the path may name. -/
theorem step_durable (durable : d.Durable first path) (valid : first.WellFormed)
    (enabled : d.shared.enabled label) (apart : d.shared.Apart path label) :
    ∃ next, (system path).step d label = some next ∧ next.Durable first path := by
  obtain ⟨later, done, coherent⟩ :=
    SharedFile.step_coherent durable.coherent valid enabled apart
  refine ⟨d.follow label later, congrArg (Option.map (d.follow label)) done, ?_⟩
  have mono {i : Nat} (published : d.shared.Published first path i) :
      later.Published first path i :=
    published.mono fun _ _ found installed => step_installed enabled done found installed
  constructor
  case coherent => exact coherent
  case original =>
    intro i old
    refine follow_synced ?_ (.inl (durable.original i old))
    rw [coherent.kept i old, durable.coherent.kept i old]
  case flushed =>
    intro id next found flushed
    obtain ⟨call, present, file, content, before⟩ := step_flushed enabled done found flushed
    have now := (coherent.fits id next found).complete (.inr flushed)
    have then' := (durable.coherent.fits id call present).complete
      (before.symm.imp_left And.left)
    refine follow_synced ?_ ?_
    · rw [now, content, file, then']
    · rw [file]
      rcases before with flushed | ⟨flushing, succeeds⟩
      · exact .inl (durable.flushed id call present flushed)
      · exact .inr ⟨call, succeeds, flushing, rfl⟩
  case recoverable =>
    have earlier {entry : Option Nat} (recovered : entry ∈ d.recoverable path) :
        entry = first.entry path ∨ ∃ i, entry = some i ∧ later.Published first path i := by
      rcases durable.recoverable entry recovered with original | ⟨i, here, published⟩
      · exact .inl original
      · exact .inr ⟨i, here, mono published⟩
    intro entry recovered
    rw [follow] at recovered
    dsimp only at recovered
    split_ifs at recovered
    · rw [List.mem_singleton.mp recovered]
      exact coherent.target_named
    · exact earlier recovered
    · rcases List.mem_append.mp recovered with old | new
      · exact earlier old
      · rw [List.mem_singleton.mp new]
        exact coherent.target_named

/-- The files that the path may name are on disk. -/
theorem Durable.published_synced (durable : d.Durable first path) (valid : first.WellFormed)
    {i : Nat} (published : d.shared.Published first path i) : d.synced i = true := by
  rcases published with original | ⟨id, call, found, installed, file⟩
  · exact durable.original i (valid path i original)
  · rw [← file]
    exact durable.flushed id call found (Stage.flushed_of_installed installed)

/-- After a crash the path is free as it was at first, or it names a published file. -/
theorem Durable.recovered (durable : d.Durable first path) {after : FileSystem FileName}
    (recovers : d.Recovers after) :
    (after.entry path = none ∧ first.entry path = none) ∨
      ∃ i, after.entry path = some i ∧ d.shared.Published first path i := by
  rcases durable.recoverable _ (recovers.entry path) with original | published
  · cases named : first.entry path with
    | none => exact .inl ⟨original.trans named, rfl⟩
    | some i => exact .inr ⟨i, original.trans named, .inl named⟩
  · exact .inr published

/-- A crash may lose nothing. -/
theorem recovers_current {fs : FileSystem FileName} {labels : List Label}
    (finished : (system path).run (start fs) labels = some d) : d.Recovers d.shared.fs := by
  have kept : ∀ (d : Disk) (label : Label) (next : Disk),
      (∀ name, d.shared.fs.entry name ∈ d.recoverable name) → True →
      (system path).step d label = some next →
      ∀ name, next.shared.fs.entry name ∈ next.recoverable name := by
    intro d label next before _ done name
    obtain ⟨later, -, rfl⟩ := Option.map_eq_some_iff.mp done
    rw [follow]
    dsimp only
    split_ifs with synced same
    · exact List.mem_singleton.mpr rfl
    · rw [same]
      exact before name
    · exact List.mem_append_right _ (List.mem_singleton.mpr rfl)
  have current := Runs.System.run_invariant _ kept (start fs) d labels
    (fun _ => List.mem_singleton.mpr rfl) (Runs.System.along_forall _ _ fun _ _ => trivial) finished
  exact ⟨current, fun _ _ => rfl⟩

/-- A crash does not damage the file. Whenever a crash interrupts calls of which none takes the
path for a temporary name, the path has its original content after it, or is free as it was, or
it has the whole content of a call that was renamed.

Proof: `step_durable` keeps on disk what the path may name: the original file, and the files that
were renamed, which were flushed before. -/
theorem crash_consistent (path : FileName) (fs : FileSystem FileName) (valid : fs.WellFormed)
    (labels : List Label) (admitted : (system path).Valid (start fs) labels)
    (apart : (system path).Along (fun d => d.shared.Apart path) (start fs) labels) :
    ∃ d, (system path).run (start fs) labels = some d ∧
      ∀ after, d.Recovers after →
        after.lookup path = fs.lookup path ∨
          ∃ id call, d.shared.calls id = some call ∧ id ∈ d.shared.renamed ∧
            after.lookup path = some call.content := by
  obtain ⟨d, finished, durable⟩ := Runs.System.run_safe (Durable fs path)
    (fun d label durable ⟨enabled, apart⟩ => step_durable durable valid enabled apart)
    (start fs) labels (start_durable valid)
    ((Runs.System.along_and _ _ _ _).mpr ⟨admitted, apart⟩)
  refine ⟨d, finished, fun after recovers => ?_⟩
  rcases durable.recovered recovers with ⟨free, absent⟩ | ⟨i, named, published⟩
  · left
    rw [FileSystem.lookup, FileSystem.lookup, free, absent]
    rfl
  · have kept : after.lookup path = some (d.shared.fs.content i) := by
      rw [FileSystem.lookup, named, Option.map_some,
        recovers.content i (durable.published_synced valid published)]
    rw [kept]
    rcases durable.coherent.published_content valid published with
      original | ⟨id, call, found, renamed, content⟩
    · exact .inl original.symm
    · exact .inr ⟨id, call, found, renamed, by rw [content]⟩

/-- A crash follows the rename of a file that replaces another. -/
theorem crash_consistent_renamed :
    ∃ d, (system ['a']).run (start ⟨fun name => if name = ['a'] then some 0 else none,
          fun _ => ⟨[9], 0o644, true⟩, 1⟩)
        [.begins 0 [1, 2] 0o022, .proceeds 0 .succeeds, .proceeds 0 (.opens 1 0 7),
          .proceeds 0 .succeeds, .proceeds 0 .succeeds, .proceeds 0 (.wrote 1),
          .proceeds 0 .interrupted, .proceeds 0 (.wrote 1), .proceeds 0 .succeeds,
          .proceeds 0 .succeeds, .proceeds 0 .succeeds, .proceeds 0 .succeeds,
          .proceeds 0 .succeeds, .proceeds 0 .succeeds] = some d ∧
      ∀ after, d.Recovers after →
        after.lookup ['a'] = some [9] ∨
          ∃ id call, d.shared.calls id = some call ∧ id ∈ d.shared.renamed ∧
            after.lookup ['a'] = some call.content := by
  refine crash_consistent ['a'] ⟨fun name => if name = ['a'] then some 0 else none,
    fun _ => ⟨[9], 0o644, true⟩, 1⟩ ?_ _ ?_ ?_
  · intro name i named
    dsimp only at named
    split_ifs at named
    cases named
    exact Nat.one_pos
  · decide
  · decide

/-- A crash while the target is the temporary file of a call leaves an empty file at the path,
which was free. -/
theorem crash_leaves_empty_target : (system SharedFile.dotted).Valid (start .empty)
      [.begins 0 [1] 0o022, .proceeds 0 .fails, .proceeds 0 (.opens 1 0 0)] ∧
    ∃ d after, (system SharedFile.dotted).run (start .empty)
        [.begins 0 [1] 0o022, .proceeds 0 .fails, .proceeds 0 (.opens 1 0 0)] = some d ∧
      (d.shared.calls 0).map (·.content) = some [1] ∧ (∀ id ≠ 0, d.shared.calls id = none) ∧
      d.Recovers after ∧ after.lookup SharedFile.dotted = some [] := by
  obtain ⟨admitted, s, created, named, blank, -, one, only⟩ := SharedFile.dotted_created
  constructor
  · exact (Runs.System.along_projects Disk.shared (step_shared _) SharedFile.enabled _ _).mpr
      admitted
  · have projected := Runs.System.run_projects Disk.shared (step_shared SharedFile.dotted)
      (start .empty) [.begins 0 [1] 0o022, .proceeds 0 .fails, .proceeds 0 (.opens 1 0 0)]
    obtain ⟨d, finished, rfl⟩ := Option.map_eq_some_iff.mp (projected.trans created)
    refine ⟨d, d.shared.fs, finished, one, only, recovers_current finished, ?_⟩
    rw [FileSystem.lookup, named, Option.map_some, blank]

end Crash

end Disk

end Moban
