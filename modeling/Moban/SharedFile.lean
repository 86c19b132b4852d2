import Moban.AtomicFile
import Moban.Tables

/-!
# Calls and readers of one file

Any number of calls of `write_file_atomic` replace the file at one path, while readers open
the path and read what they have opened in pieces. The system calls of all of them interleave
freely.

The state is coherent if every file is known to be an original one or that of a call, and every
name to be as it was at first or the temporary name of a call. A system call keeps the state
coherent if it leaves the files and names of the other calls alone.
-/

namespace Moban

open Function

/-- A reader that has opened the path. It is finished when `read` has returned nothing. -/
structure Reader where
  file : Nat
  got : List UInt8
  finished : Bool
deriving DecidableEq

def Reader.read (content : List UInt8) (count : Nat) (reader : Reader) : Reader :=
  let piece := (content.drop reader.got.length).take count
  { reader with got := reader.got ++ piece, finished := piece.isEmpty }

/-- The directory, all calls and readers, and the calls whose `rename` has succeeded in the
order of their success. -/
structure SharedFile where
  fs : FileSystem FileName
  calls : Nat → Option WriteCall
  readers : Nat → Option Reader
  renamed : List Nat

namespace SharedFile

inductive Label where
  | begins (id : Nat) (content : List UInt8) (umask : Mode)
  | proceeds (id : Nat) (outcome : Outcome)
  | opens (reader : Nat)
  | reads (reader count : Nat)
deriving DecidableEq

def start (fs : FileSystem FileName) : SharedFile where
  fs := fs
  calls := fun _ => none
  readers := fun _ => none
  renamed := []

/-- A call has performed a system call. -/
def proceed (s : SharedFile) (id : Nat) (call : WriteCall)
    (after : FileSystem FileName × WriteCall) : SharedFile where
  fs := after.1
  calls := update s.calls id (some after.2)
  readers := s.readers
  renamed :=
    if after.2.stage.installed && !call.stage.installed then s.renamed ++ [id] else s.renamed

def step (path : FileName) (s : SharedFile) : Label → Option SharedFile
  | .begins id content umask =>
      some { s with calls := update s.calls id (some (.begin' path content umask)) }
  | .proceeds id outcome => do
      let call ← s.calls id
      return s.proceed id call (call.advance s.fs outcome)
  | .opens reader =>
      match s.fs.entry path with
      | none => some s
      | some file => some { s with
          readers := update s.readers reader (some ⟨file, [], false⟩) }
  | .reads reader count => do
      let opened ← s.readers reader
      return { s with
        readers :=
          update s.readers reader (some (opened.read (s.fs.content opened.file) count)) }

def enabled (s : SharedFile) : Label → Prop
  | .begins id _ _ => s.calls id = none
  | .proceeds id outcome => (s.calls id).any (WriteCall.allows s.fs · outcome) = true
  | .opens reader => s.readers reader = none
  | .reads reader count => 0 < count ∧ (s.readers reader).any (!·.finished) = true

instance (s : SharedFile) : (label : Label) → Decidable (s.enabled label)
  | .begins .. | .proceeds .. | .opens _ => decEq _ _
  | .reads .. => instDecidableAnd

def system (path : FileName) : Runs.System SharedFile Label where
  step := step path
  enabled := enabled

instance (path : FileName) (s : SharedFile) (label : Label) :
    Decidable ((system path).enabled s label) :=
  inferInstanceAs (Decidable (s.enabled label))

/-- No temporary name that is tried while the path is free is the path. -/
def Apart (path : FileName) (s : SharedFile) : Label → Prop
  | .proceeds _ (.opens pid counter random) =>
      s.fs.entry path = none → tempName path pid counter random ≠ path
  | _ => True

instance (path : FileName) (s : SharedFile) : (label : Label) → Decidable (s.Apart path label)
  | .proceeds _ (.opens ..) => instDecidableForall
  | .proceeds _ .succeeds | .proceeds _ .fails | .proceeds _ (.wrote _)
  | .proceeds _ .interrupted | .begins .. | .opens _ | .reads .. => instDecidableTrue

end SharedFile

/-! ## Files and their names -/

/-- The file of a call is new, holds what was written, and is found under the temporary name. -/
structure WriteCall.Fits (first : FileSystem FileName) (path : FileName)
    (fs : FileSystem FileName) (call : WriteCall) : Prop where
  aimed : call.path = path
  created : call.owns = true → first.size ≤ call.fd ∧ call.fd < fs.size
  wrote : call.owns = true → call.Wrote (fs.content call.fd)
  free : call.stage.holds = true → call.temp ≠ path ∧ first.entry call.temp = none
  held : call.stage.holds = true → fs.entry call.temp = some call.fd

/-- The file of a call stays what it is while others act. -/
theorem WriteCall.Fits.transfer {first before fs : FileSystem FileName} {path : FileName}
    {call : WriteCall} (fits : call.Fits first path before) (grown : before.size ≤ fs.size)
    (content : call.owns = true → fs.content call.fd = before.content call.fd)
    (entry : call.stage.holds = true → fs.entry call.temp = before.entry call.temp) :
    call.Fits first path fs where
  aimed := fits.aimed
  created := fun owns => ⟨(fits.created owns).1, (fits.created owns).2.trans_le grown⟩
  wrote := fun owns => by
    rw [content owns]
    exact fits.wrote owns
  free := fits.free
  held := fun holds => by
    rw [entry holds]
    exact fits.held holds

/-- A file that is flushed is complete, and so is one that was flushed. -/
theorem WriteCall.Fits.complete {first fs : FileSystem FileName} {path : FileName}
    {call : WriteCall} (fits : call.Fits first path fs)
    (flushed : call.stage = .flushing ∨ call.stage.flushed = true) :
    fs.content call.fd = call.content := by
  rcases flushed with flushing | flushed
  · have wrote := fits.wrote (WriteCall.owns_of_holds (by rw [flushing]; rfl))
    rw [WriteCall.Wrote, flushing] at wrote
    exact wrote
  · have wrote := fits.wrote (WriteCall.owns_of_flushed flushed)
    cases stage : call.stage with
    | statFd | statPath | closing | replacing | syncing | returned =>
      rw [WriteCall.Wrote, stage] at wrote
      exact wrote
    | _ =>
      rw [stage] at flushed
      cases flushed

namespace SharedFile

variable {first fs : FileSystem FileName} {path : FileName} {s : SharedFile} {id : Nat}
  {call next : WriteCall}

/-- The path names this file or has named it. -/
def Published (first : FileSystem FileName) (path : FileName) (s : SharedFile) (i : Nat) : Prop :=
  first.entry path = some i ∨
    ∃ id call, s.calls id = some call ∧ call.stage.installed = true ∧ call.fd = i

/-- The path names the file of the last call that was renamed. -/
def Target (first : FileSystem FileName) (path : FileName) (s : SharedFile) : Prop :=
  s.fs.entry path = match s.renamed.getLast? with
    | none => first.entry path
    | some id => (s.calls id).map (·.fd)

/-- A reader has read the beginning of a published file, and all of it when it is finished. -/
structure Sees (first : FileSystem FileName) (path : FileName) (s : SharedFile)
    (reader : Reader) : Prop where
  published : s.Published first path reader.file
  got : reader.got <+: s.fs.content reader.file
  finished : reader.finished = true → reader.got = s.fs.content reader.file

/-- What is known of the directory, the calls and the readers. -/
structure Coherent (first : FileSystem FileName) (path : FileName) (s : SharedFile) : Prop where
  wellFormed : s.fs.WellFormed
  grown : first.size ≤ s.fs.size
  kept : ∀ i < first.size, s.fs.content i = first.content i
  fits : ∀ id call, s.calls id = some call → call.Fits first path s.fs
  apart : ∀ id other call rival, s.calls id = some call → s.calls other = some rival →
    call.owns = true → rival.owns = true → call.fd = rival.fd → id = other
  others : ∀ name ≠ path, s.fs.entry name = first.entry name ∨
    ∃ id call, s.calls id = some call ∧ call.stage.holds = true ∧ call.temp = name
  renamed : ∀ id, id ∈ s.renamed ↔ ∃ call, s.calls id = some call ∧ call.stage.installed = true
  target : s.Target first path
  read : ∀ id reader, s.readers id = some reader → s.Sees first path reader

section Frame

/-- Files that are being written have never been published. -/
theorem Coherent.unpublished (coherent : s.Coherent first path) (valid : first.WellFormed)
    (found : s.calls id = some call) (holds : call.stage.holds = true) {i : Nat}
    (published : s.Published first path i) : i ≠ call.fd := by
  have created := (coherent.fits id call found).created (WriteCall.owns_of_holds holds)
  intro same
  rcases published with original | ⟨other, rival, present, installed, file⟩
  · have bound := valid path i original
    omega
  · have one := coherent.apart id other call rival found present
      (WriteCall.owns_of_holds holds) (WriteCall.owns_of_installed installed)
      (same.symm.trans file.symm)
    rw [← one, found] at present
    cases present
    rw [Stage.not_installed_of_holds holds] at installed
    cases installed

theorem Coherent.published_lt (coherent : s.Coherent first path) (valid : first.WellFormed)
    {i : Nat} (published : s.Published first path i) : i < s.fs.size := by
  rcases published with original | ⟨other, rival, present, installed, file⟩
  · exact (valid path i original).trans_le coherent.grown
  · rw [← file]
    exact ((coherent.fits other rival present).created (WriteCall.owns_of_installed installed)).2

theorem Published.mono {later : SharedFile} {i : Nat} (published : s.Published first path i)
    (calls : ∀ id call, s.calls id = some call → call.stage.installed = true →
      ∃ next, later.calls id = some next ∧ next.stage.installed = true ∧ next.fd = call.fd) :
    later.Published first path i := by
  rcases published with original | ⟨id, call, found, installed, file⟩
  · exact .inl original
  · obtain ⟨next, present, still, same⟩ := calls id call found installed
    exact .inr ⟨id, next, present, still, same.trans file⟩

end Frame

/-! ## A system call of one call -/

section Proceed

/-- A name is as it was at first, or it is the temporary name of this call or of another one. -/
theorem Coherent.name_cases (coherent : s.Coherent first path) (found : s.calls id = some call)
    {name : FileName} (away : name ≠ path) :
    s.fs.entry name = first.entry name ∨ (call.stage.holds = true ∧ call.temp = name) ∨
      ∃ other rival, other ≠ id ∧ s.calls other = some rival ∧ rival.stage.holds = true ∧
        rival.temp = name := by
  rcases coherent.others name away with original | ⟨other, rival, present, held, temp⟩
  · exact .inl original
  · by_cases self : other = id
    · rw [self, found] at present
      cases present
      exact .inr (.inl ⟨held, temp⟩)
    · exact .inr (.inr ⟨other, rival, self, present, held, temp⟩)

/-- The target is not renamed. -/
theorem Target.proceed (target : s.Target first path)
    (renamed : ∀ id, id ∈ s.renamed ↔ ∃ call, s.calls id = some call ∧ call.stage.installed = true)
    (found : s.calls id = some call) (entry : fs.entry path = s.fs.entry path)
    (installed : next.stage.installed = call.stage.installed)
    (file : call.stage.installed = true → next.fd = call.fd) :
    (s.proceed id call (fs, next)).Target first path := by
  have same : (s.proceed id call (fs, next)).renamed = s.renamed := by
    simp [SharedFile.proceed, installed]
  rw [Target, same]
  show fs.entry path = _
  rw [entry, target]
  cases last : s.renamed.getLast? with
  | none => rfl
  | some other =>
    show (s.calls other).map (·.fd) = (update s.calls id (some next) other).map (·.fd)
    by_cases self : other = id
    · obtain ⟨renamedCall, present, done⟩ :=
        (renamed other).mp (List.mem_of_getLast? last)
      rw [self, found] at present
      cases present
      rw [self, found, update_self, Option.map_some, Option.map_some, file done]
    · rw [update_of_ne self]

/-- The target is the file of the call that was renamed last. -/
theorem Target.rename (fresh : call.stage.installed = false)
    (named : fs.entry path = some call.fd) :
    (s.proceed id call (fs, call.moved .syncing)).Target first path := by
  have appended : (s.proceed id call (fs, call.moved .syncing)).renamed = s.renamed ++ [id] := by
    rw [SharedFile.proceed, fresh]
    rfl
  rw [Target, appended, List.getLast?_concat]
  show fs.entry path = (update s.calls id (some (call.moved .syncing)) id).map (·.fd)
  rw [update_self, named]
  rfl

/-- The calls in the list are those that are past `rename`. -/
theorem proceed_renamed
    (renamed : ∀ id, id ∈ s.renamed ↔ ∃ call, s.calls id = some call ∧ call.stage.installed = true)
    (found : s.calls id = some call)
    (installed : call.stage.installed = true → next.stage.installed = true ∧ next.fd = call.fd)
    (other : Nat) :
    other ∈ (s.proceed id call (fs, next)).renamed ↔
      ∃ call', (s.proceed id call (fs, next)).calls other = some call' ∧
        call'.stage.installed = true := by
  have before := renamed other
  by_cases self : other = id
  · rw [self, found] at before
    have now : (s.proceed id call (fs, next)).calls other = some next := by
      rw [self]
      exact update_self ..
    rw [now, self]
    cases done : call.stage.installed with
    | true => simpa [proceed, done, (installed done).1] using before
    | false =>
      cases later : next.stage.installed with
      | true => simp [proceed, done, later]
      | false => simpa [proceed, done, later] using before
  · have now : (s.proceed id call (fs, next)).calls other = s.calls other :=
      update_of_ne self ..
    rw [now, ← before, proceed]
    split_ifs
    · simp [self]
    · rfl

/-- What one call has to leave alone for the state to stay coherent. -/
theorem Coherent.proceed (coherent : s.Coherent first path) (valid : first.WellFormed)
    (found : s.calls id = some call) (wellFormed : fs.WellFormed) (grown : s.fs.size ≤ fs.size)
    (content : ∀ i < s.fs.size, (call.stage.holds = true → i ≠ call.fd) →
      fs.content i = s.fs.content i)
    (entry : ∀ other rival, other ≠ id → s.calls other = some rival →
      rival.stage.holds = true → fs.entry rival.temp = s.fs.entry rival.temp)
    (fits : next.Fits first path fs)
    (apart : ∀ other rival, other ≠ id → s.calls other = some rival → rival.owns = true →
      next.owns = true → next.fd ≠ rival.fd)
    (others : ∀ name ≠ path, fs.entry name = first.entry name ∨
      (next.stage.holds = true ∧ next.temp = name) ∨ ∃ other rival, other ≠ id ∧
        s.calls other = some rival ∧ rival.stage.holds = true ∧ rival.temp = name)
    (installed : call.stage.installed = true → next.stage.installed = true ∧ next.fd = call.fd)
    (target : (s.proceed id call (fs, next)).Target first path) :
    (s.proceed id call (fs, next)).Coherent first path where
  wellFormed := wellFormed
  grown := coherent.grown.trans grown
  kept := by
    intro i old
    rw [← coherent.kept i old]
    refine content i (old.trans_le coherent.grown) fun holds same => ?_
    have created := (coherent.fits id call found).created (WriteCall.owns_of_holds holds)
    omega
  fits := by
    intro other rival present
    rcases update_inv present with ⟨-, rfl⟩ | ⟨different, present⟩
    · exact fits
    · have before := coherent.fits other rival present
      refine before.transfer grown (fun owns => ?_) (entry other rival different present)
      refine content _ (before.created owns).2 fun holds same => different ?_
      exact coherent.apart other id rival call present found owns
        (WriteCall.owns_of_holds holds) same
  apart := by
    intro one other left right foundLeft foundRight ownsLeft ownsRight same
    rcases update_inv foundLeft with ⟨here, rfl⟩ | ⟨differentLeft, presentLeft⟩
    · rcases update_inv foundRight with ⟨there, -⟩ | ⟨differentRight, presentRight⟩
      · exact here.trans there.symm
      · exact absurd same (apart other right differentRight presentRight ownsRight ownsLeft)
    · rcases update_inv foundRight with ⟨-, rfl⟩ | ⟨-, presentRight⟩
      · exact absurd same.symm (apart one left differentLeft presentLeft ownsLeft ownsRight)
      · exact coherent.apart one other left right presentLeft presentRight ownsLeft ownsRight same
  others := by
    intro name different
    rcases others name different with original | ⟨holds, temp⟩ | ⟨other, rival, away, present, held⟩
    · exact .inl original
    · exact .inr ⟨id, next, update_self .., holds, temp⟩
    · exact .inr ⟨other, rival, (update_of_ne away ..).trans present, held⟩
  renamed := by
    intro other
    exact proceed_renamed coherent.renamed found installed other
  target := target
  read := by
    intro key reader present
    have before := coherent.read key reader present
    have same : fs.content reader.file = s.fs.content reader.file :=
      content _ (coherent.published_lt valid before.published) fun holds =>
        coherent.unpublished valid found holds before.published
    refine ⟨before.published.mono fun other rival there done => ?_, ?_, ?_⟩
    · by_cases self : other = id
      · rw [self, found] at there
        cases there
        exact ⟨next, by rw [self]; exact update_self .., installed done⟩
      · exact ⟨rival, (update_of_ne self ..).trans there, done, rfl⟩
    · show reader.got <+: fs.content reader.file
      rw [same]
      exact before.got
    · intro finished
      show reader.got = fs.content reader.file
      rw [same]
      exact before.finished finished

/-- The path is as it was at first, or it names a published file. -/
theorem Coherent.target_named (coherent : s.Coherent first path) :
    s.fs.entry path = first.entry path ∨
      ∃ i, s.fs.entry path = some i ∧ s.Published first path i := by
  have target := coherent.target
  rw [Target] at target
  cases last : s.renamed.getLast? with
  | none =>
    rw [last] at target
    exact .inl target
  | some id =>
    obtain ⟨call, found, installed⟩ := (coherent.renamed id).mp (List.mem_of_getLast? last)
    rw [last] at target
    refine .inr ⟨call.fd, target.trans ?_, .inr ⟨id, call, found, installed, rfl⟩⟩
    simp [found]

theorem Coherent.target_published (coherent : s.Coherent first path) {i : Nat}
    (named : s.fs.entry path = some i) : s.Published first path i := by
  rcases coherent.target_named with original | ⟨file, here, published⟩
  · exact .inl (original.symm.trans named)
  · cases here.symm.trans named
    exact published

/-- Two calls have different temporary names. -/
theorem Coherent.temp_ne (coherent : s.Coherent first path) {other : Nat} {rival : WriteCall}
    (found : s.calls id = some call) (holds : call.stage.holds = true)
    (present : s.calls other = some rival) (held : rival.stage.holds = true)
    (different : other ≠ id) : rival.temp ≠ call.temp := by
  intro same
  have left := (coherent.fits id call found).held holds
  have right := (coherent.fits other rival present).held held
  rw [same, left, Option.some.injEq] at right
  exact different (coherent.apart other id rival call present found
    (WriteCall.owns_of_holds held) (WriteCall.owns_of_holds holds) right.symm)

end Proceed

end SharedFile

end Moban
