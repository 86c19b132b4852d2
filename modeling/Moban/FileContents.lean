import Moban.Descriptors
import Moban.Loops
import Moban.Paths
import Moban.StringNumbers

/-!
# Reading and writing whole files

`read_file` and `read_file_bytes` read a file piece by piece through one buffer, and `write_file`
and `write_file_bytes` write until the kernel has taken every byte. A call that was interrupted is
made again. What the kernel answers is given from outside, one answer for each call.

The files are regular ones, and a path names a file as a whole. Nothing else changes the file
meanwhile. Reserving memory has no effect, and running out of memory is not considered.
-/

namespace Moban

open Descriptors Loops StringUtils

namespace FileUtils

def kReadBufferSize : Nat := 64 * 1024

/-- The code and the message of an exception. -/
structure FileError where
  code : Errno
  message : List UInt8
deriving DecidableEq

def throwFileError (code : Errno) (action : String) (path : List UInt8) : FileError where
  code := code
  message := ascii action ++ ascii " '" ++ path ++ ascii "'"

/-- The files by their paths. -/
abbrev Files := FileSystem (List UInt8)

/-! ## Reading -/

/-- Where the bytes go that are read. -/
class Sink (σ : Type) where
  append : σ → List UInt8 → σ
  bytes : σ → List UInt8
  bytes_append : ∀ sink data, bytes (append sink data) = bytes sink ++ data

structure StringSink where
  value : List UInt8

structure BytesSink where
  value : Array UInt8

instance : Sink StringSink where
  append sink data := { value := sink.value ++ data }
  bytes sink := sink.value
  bytes_append _ _ := rfl

instance : Sink BytesSink where
  append sink data := { value := sink.value ++ data.toArray }
  bytes sink := sink.value.toList
  bytes_append _ _ := by simp

structure Reading (σ : Type) where
  file : Descriptor
  sink : σ
  calls : Nat

variable {σ : Type} [Sink σ]

def readTurn (fs : Files) (reads : Nat → Answer) (path : List UInt8) (s : Reading σ) :
    Flow (Reading σ) (Except FileError σ) :=
  match s.file.read fs kReadBufferSize (reads s.calls) with
  | (_, .error errno) =>
      if errno = EINTR then .again { s with calls := s.calls + 1 }
      else .stop (.error (throwFileError errno "cannot read file" path))
  | (file, .ok data) =>
      if data = [] then .stop (.ok s.sink)
      else .again { file := file, sink := Sink.append s.sink data, calls := s.calls + 1 }

/-- What the kernel does while a file is read. -/
structure ReadKernel where
  opening : Option Errno
  reads : Nat → Answer

/-- The sink with the content, if the loop has ended within so many turns. -/
def readInto (fuel : Nat) (kernel : ReadKernel) (path : List UInt8) (sink : σ) (fs : Files) :
    Option (Except FileError σ) :=
  match openRead fs (Paths.cString 0 path) kernel.opening with
  | .error errno => some (.error (throwFileError errno "cannot open file" path))
  | .ok file =>
      run (readTurn fs kernel.reads path) fuel { file := file, sink := sink, calls := 0 }

def readFile (fuel : Nat) (kernel : ReadKernel) (path : List UInt8) (fs : Files) :
    Option (Except FileError (List UInt8)) :=
  (readInto fuel kernel path { value := [] : StringSink } fs).map (Except.map StringSink.value)

def readFileBytes (fuel : Nat) (kernel : ReadKernel) (path : List UInt8) (fs : Files) :
    Option (Except FileError (Array UInt8)) :=
  (readInto fuel kernel path { value := #[] : BytesSink } fs).map (Except.map BytesSink.value)

/-! ## Writing -/

structure Writing where
  fs : Files
  file : Descriptor
  written : Nat
  calls : Nat

def writeTurn (writes : Nat → Answer) (content path : List UInt8) (s : Writing) :
    Flow Writing (Files × Except FileError Unit) :=
  if s.written < content.length then
    match s.file.write s.fs (content.drop s.written) (writes s.calls) with
    | (fs, file, .error errno) =>
        if errno = EINTR then
          .again { fs := fs, file := file, written := s.written, calls := s.calls + 1 }
        else .stop (fs, .error (throwFileError errno "cannot write file" path))
    | (fs, file, .ok count) =>
        if count = 0 then .stop (fs, .error (throwFileError EIO "cannot write file" path))
        else
          .again { fs := fs, file := file, written := s.written + count, calls := s.calls + 1 }
  else .stop (s.fs, .ok ())

/-- The files afterwards and what was thrown, if the loop has ended within so many turns. -/
def writeAll (fuel : Nat) (writes : Nat → Answer) (file : Descriptor) (content path : List UInt8)
    (fs : Files) : Option (Files × Except FileError Unit) :=
  run (writeTurn writes content path) fuel { fs := fs, file := file, written := 0, calls := 0 }

/-- What the kernel does while a file is written. -/
structure WriteKernel where
  umask : Mode
  opening : Option Errno
  writes : Nat → Answer
  closing : Option Errno

def closeFile (closing : Option Errno) (path : List UInt8) : Except FileError Unit :=
  match closing with
  | none => .ok ()
  | some errno => .error (throwFileError errno "cannot close file" path)

def writeFile (fuel : Nat) (kernel : WriteKernel) (path content : List UInt8) (fs : Files) :
    Option (Files × Except FileError Unit) :=
  match openTruncated fs (Paths.cString 0 path) (0o666 &&& ~~~kernel.umask) kernel.opening with
  | .error errno => some (fs, .error (throwFileError errno "cannot open file" path))
  | .ok (opened, file) =>
      (writeAll fuel kernel.writes file content path opened).map fun result =>
        (result.1, result.2.bind fun _ => closeFile kernel.closing path)

def writeFileBytes (fuel : Nat) (kernel : WriteKernel) (path : List UInt8) (content : Array UInt8)
    (fs : Files) : Option (Files × Except FileError Unit) :=
  let data := if content.isEmpty then [] else content.toList
  writeFile fuel kernel path data fs

/-! ## What is read -/

/-- The loop of `ReadInto` ends, and everything behind the position is in the sink.

Proof: a turn takes bytes from what is left and puts them into the sink, or it was interrupted. The
first can happen only as often as there are bytes left, and the second only a limited number of
times in between. -/
theorem read_takes (fs : Files) (path : List UInt8) {reads : Nat → Answer} (fair : Fair reads)
    (benign : ∀ call, Benign (reads call)) (file : Descriptor) (sink : σ) :
    ∃ turns result,
      Takes (readTurn fs reads path) { file := file, sink := sink, calls := 0 } turns result ∧
        ∃ final, result = .ok final ∧
          Sink.bytes final = Sink.bytes sink ++ (fs.content file.inode).drop file.offset := by
  generalize whole : Sink.bytes sink ++ (fs.content file.inode).drop file.offset = bytes
  refine fair.takes
    (fun s : Reading σ => Sink.bytes s.sink ++ (fs.content s.file.inode).drop s.file.offset = bytes)
    _ Reading.calls (fun s => ((fs.content s.file.inode).drop s.file.offset).length) ?_ _ whole
  intro s held
  rcases benign s.calls with interrupted | ⟨count, positive, answer⟩
  · refine .inr ⟨{ s with calls := s.calls + 1 }, ?_, held, rfl, .inr ⟨rfl, interrupted⟩⟩
    simp only [readTurn, Descriptor.read, interrupted, if_true]
  generalize left : (fs.content s.file.inode).drop s.file.offset = rest at held
  generalize taken : rest.take (min count kReadBufferSize) = data
  have turn : readTurn fs reads path s =
      if data = [] then .stop (.ok s.sink)
      else .again
        { file := s.file.advance data.length
          sink := Sink.append s.sink data
          calls := s.calls + 1 } := by
    simp only [readTurn, Descriptor.read, answer, left, taken]
  by_cases last : data = []
  · refine .inl ⟨_, turn.trans (if_pos last), s.sink, rfl, ?_⟩
    have room : min count kReadBufferSize ≠ 0 := by
      have buffer : 0 < kReadBufferSize := by decide
      omega
    have nothing : rest = [] := (List.take_eq_nil_iff.mp (taken.trans last)).resolve_left room
    rw [← held, nothing, List.append_nil]
  · have parts : data ++ rest.drop data.length = rest := by
      rw [← taken]
      exact List.prefix_iff_eq_append.mp (List.take_prefix _ _)
    have behind : (fs.content s.file.inode).drop (s.file.advance data.length).offset =
        rest.drop data.length := by
      rw [← left, List.drop_drop]
      rfl
    refine .inr ⟨_, turn.trans (if_neg last), ?_, rfl, .inl ?_⟩
    · change Sink.bytes (Sink.append s.sink data) ++ (fs.content s.file.inode).drop _ = bytes
      rw [behind, Sink.bytes_append, List.append_assoc, parts, held]
    · have shorter := congrArg List.length parts
      have positive := List.length_pos_of_ne_nil last
      change ((fs.content s.file.inode).drop _).length < _
      rw [behind]
      rw [List.length_append] at shorter
      omega

variable {fs : Files} {path content : List UInt8}

theorem readInto_eq (kernel : ReadKernel) (opens : kernel.opening = none)
    (fair : Fair kernel.reads) (benign : ∀ call, Benign (kernel.reads call)) (sink : σ)
    (present : fs.lookup (Paths.cString 0 path) = some content) :
    ∃ turns final, (∀ fuel > turns, readInto fuel kernel path sink fs = some (.ok final)) ∧
      Sink.bytes final = Sink.bytes sink ++ content := by
  obtain ⟨i, entry, rfl⟩ := Option.map_eq_some_iff.mp present
  obtain ⟨turns, _, takes, final, rfl, whole⟩ :=
    read_takes fs path fair benign { inode := i, offset := 0 } sink
  refine ⟨turns, final, ?_, whole⟩
  intro fuel enough
  simp only [readInto, openRead, opens, entry]
  exact takes.run enough

/-- Both ways of reading return the content, however the kernel cuts it. -/
def ReadsBack (fs : Files) (path content : List UInt8) : Prop :=
  ∀ kernel : ReadKernel, kernel.opening = none → Fair kernel.reads →
    (∀ call, Benign (kernel.reads call)) →
      ∃ turns, ∀ fuel > turns, readFile fuel kernel path fs = some (.ok content) ∧
        readFileBytes fuel kernel path fs = some (.ok content.toArray)

theorem reads_back (present : fs.lookup (Paths.cString 0 path) = some content) :
    ReadsBack fs path content := by
  intro kernel opens fair benign
  obtain ⟨first, string, strings, text⟩ :=
    readInto_eq kernel opens fair benign ({ value := [] } : StringSink) present
  obtain ⟨second, vector, vectors, bytes⟩ :=
    readInto_eq kernel opens fair benign ({ value := #[] } : BytesSink) present
  refine ⟨max first second, fun fuel enough => ⟨?_, ?_⟩⟩
  · have value : string.value = content := text
    rw [readFile, strings fuel (by omega), ← value]
    rfl
  · have value : vector.value.toList = content := bytes
    rw [readFileBytes, vectors fuel (by omega), ← value, Array.toArray_toList]
    rfl

/-! ## What is written -/

/-- What `WriteAll` throws after such an answer. -/
def refusal (answer : Answer) (path : List UInt8) : FileError :=
  match answer with
  | .error errno => throwFileError errno "cannot write file" path
  | .ok _ => throwFileError EIO "cannot write file" path

/-- Either the kernel was ready for everything, and it is written, or it refused before, and what
it was ready for until then is written. -/
def Settled (fs : Files) (file : Descriptor) (content path : List UInt8) (writes : Nat → Answer)
    (result : Files × Except FileError Unit) : Prop :=
  ∃ calls, (∀ earlier < calls, Benign (writes earlier)) ∧
    (content.length ≤ offered writes calls ∧ result = (store fs file content, .ok ()) ∨
      offered writes calls < content.length ∧ ¬ Benign (writes calls) ∧
        result = (store fs file (content.take (offered writes calls)),
          .error (refusal (writes calls) path)))

/-- What the loop of `WriteAll` keeps. -/
structure Progress (fs : Files) (file : Descriptor) (content : List UInt8)
    (writes : Nat → Answer) (s : Writing) : Prop where
  benign : ∀ earlier < s.calls, Benign (writes earlier)
  written : s.written = min (offered writes s.calls) content.length
  stored : s.fs = store fs file (content.take s.written)
  advanced : s.file = file.advance s.written

variable {file : Descriptor} {writes : Nat → Answer} {s : Writing}

theorem benign_before (benign : ∀ earlier < s.calls, Benign (writes earlier))
    (here : Benign (writes s.calls)) : ∀ earlier < s.calls + 1, Benign (writes earlier) := by
  intro earlier before
  rcases Nat.lt_succ_iff_lt_or_eq.mp before with less | rfl
  · exact benign earlier less
  · exact here

theorem Progress.interrupted (progress : Progress fs file content writes s)
    (answer : writes s.calls = .error EINTR) :
    Progress fs file content writes { s with calls := s.calls + 1 } where
  benign := benign_before progress.benign (.inl answer)
  written := by
    rw [offered, answer]
    exact progress.written
  stored := progress.stored
  advanced := progress.advanced

/-- A call that writes some bytes writes the next ones. -/
theorem Progress.write (progress : Progress fs file content writes s) {count : Nat}
    (answer : writes s.calls = .ok count) (positive : 0 < count)
    (more : s.written < content.length) {moved : List UInt8}
    (taken : (content.drop s.written).take count = moved) :
    Progress fs file content writes
      { fs := store s.fs s.file moved
        file := s.file.advance moved.length
        written := s.written + moved.length
        calls := s.calls + 1 } where
  benign := benign_before progress.benign (.inr ⟨count, positive, answer⟩)
  written := by
    have before := progress.written
    have length : moved.length = min count (content.length - s.written) := by
      rw [← taken, List.length_take, List.length_drop]
    rw [offered, answer, length]
    simp only [Except.toOption, Option.getD_some]
    omega
  stored := by
    have cut : (content.take s.written).length = s.written := by
      rw [List.length_take]
      omega
    have next : (content.drop s.written).take moved.length = moved := by
      rw [← taken]
      exact (List.prefix_iff_eq_take.mp (List.take_prefix _ _)).symm
    have both := store_append fs file (content.take s.written) moved
    rw [cut, ← progress.stored, ← progress.advanced] at both
    rw [both, List.take_add, next]
  advanced := by
    rw [progress.advanced]
    simp only [Descriptor.advance, Nat.add_assoc]

/-- While something is left the kernel was ready for less than all of it. -/
theorem Progress.offered_eq (progress : Progress fs file content writes s)
    (more : s.written < content.length) : offered writes s.calls = s.written := by
  have written := progress.written
  omega

theorem Progress.refused (progress : Progress fs file content writes s)
    (more : s.written < content.length) (obstacle : ¬ Benign (writes s.calls)) :
    Settled fs file content path writes (s.fs, .error (refusal (writes s.calls) path)) := by
  have sum := progress.offered_eq more
  refine ⟨s.calls, progress.benign, .inr ⟨sum.trans_lt more, obstacle, ?_⟩⟩
  rw [sum, ← progress.stored]

theorem Progress.complete (progress : Progress fs file content writes s)
    (done : ¬ s.written < content.length) :
    Settled fs file content path writes (s.fs, .ok ()) := by
  have written := progress.written
  refine ⟨s.calls, progress.benign, .inl ⟨by omega, ?_⟩⟩
  rw [progress.stored, List.take_of_length_le (by omega)]

/-- One turn of the loop of `WriteAll` ends it, writes some bytes, or was interrupted. -/
theorem writeTurn_cases (path : List UInt8) (progress : Progress fs file content writes s) :
    (∃ result, writeTurn writes content path s = .stop result ∧
        Settled fs file content path writes result) ∨
      ∃ next, writeTurn writes content path s = .again next ∧
        Progress fs file content writes next ∧ next.calls = s.calls + 1 ∧
          (content.length - next.written < content.length - s.written ∨
            content.length - next.written = content.length - s.written ∧
              writes s.calls = .error EINTR) := by
  by_cases more : s.written < content.length
  swap
  · exact .inl ⟨_, if_neg more, progress.complete more⟩
  cases answer : writes s.calls with
  | error errno =>
    by_cases interrupted : errno = EINTR
    · rw [interrupted] at answer
      refine .inr ⟨_, ?_, progress.interrupted answer, rfl, .inr ⟨rfl, by rw [interrupted]⟩⟩
      simp only [writeTurn, more, if_true, Descriptor.write, answer]
    · have obstacle : ¬ Benign (writes s.calls) := by
        rw [answer, benign_error_iff]
        exact interrupted
      refine .inl ⟨_, ?_, progress.refused more obstacle⟩
      simp only [writeTurn, more, if_true, Descriptor.write, answer, interrupted, if_false, refusal]
  | ok count =>
    by_cases zero : count = 0
    · have obstacle : ¬ Benign (writes s.calls) := by
        rw [answer, benign_ok_iff, zero]
        exact Nat.lt_irrefl 0
      refine .inl ⟨_, ?_, progress.refused more obstacle⟩
      simp only [writeTurn, more, if_true, Descriptor.write, answer, zero, List.take_zero,
        List.length_nil, store_nil, refusal]
    · have positive : 0 < count := Nat.pos_of_ne_zero zero
      have nonzero : ((content.drop s.written).take count).length ≠ 0 := by
        rw [List.length_take, List.length_drop]
        omega
      refine .inr ⟨_, ?_, progress.write answer positive more rfl, rfl, .inl ?_⟩
      · simp only [writeTurn, more, if_true, Descriptor.write, answer, nonzero, if_false]
      · dsimp only
        omega

/-- `WriteAll` ends, whatever the kernel does, if interruptions have an end.

Proof: a turn that goes on writes bytes, or it was interrupted. The first can happen only as often
as there are bytes left, and the second only a limited number of times in between. -/
theorem writeAll_settles (fs : Files) (file : Descriptor) (content path : List UInt8)
    (fair : Fair writes) :
    ∃ turns result, (∀ fuel > turns, writeAll fuel writes file content path fs = some result) ∧
      Settled fs file content path writes result := by
  have initial : Progress fs file content writes
      { fs := fs, file := file, written := 0, calls := 0 } :=
    { benign := fun _ before => absurd before (Nat.not_lt_zero _)
      written := (Nat.zero_min _).symm
      stored := (store_nil fs file).symm
      advanced := rfl }
  obtain ⟨turns, result, takes, settled⟩ := fair.takes (Progress fs file content writes)
    (Settled fs file content path writes) Writing.calls (fun s => content.length - s.written)
    (fun _ progress => writeTurn_cases path progress) _ initial
  exact ⟨turns, result, fun fuel enough => takes.run enough, settled⟩

/-- The call that is refused is the last one. -/
theorem Settled.thrown {result : Files × Except FileError Unit}
    (settled : Settled fs file content path writes result) {calls : Nat}
    (benign : ∀ earlier < calls, Benign (writes earlier))
    (left : offered writes calls < content.length) (obstacle : ¬ Benign (writes calls)) :
    result = (store fs file (content.take (offered writes calls)),
      .error (refusal (writes calls) path)) := by
  obtain ⟨last, before, ⟨all, -⟩ | ⟨-, refused, rfl⟩⟩ := settled
  · have early : last ≤ calls := Nat.le_of_not_lt fun late => obstacle (before calls late)
    exact absurd (all.trans (offered_mono early)) (Nat.not_le.mpr left)
  · rcases Nat.lt_trichotomy last calls with early | rfl | late
    · exact absurd (benign last early) refused
    · rfl
    · exact absurd (before calls late) obstacle

/-- Nothing is thrown exactly if all is written. -/
theorem Settled.returned {after : Files}
    (settled : Settled fs file content path writes (after, .ok ())) :
    after = store fs file content := by
  obtain ⟨last, -, ⟨-, same⟩ | ⟨-, -, thrown⟩⟩ := settled
  · exact (Prod.mk.inj same).1
  · cases (Prod.mk.inj thrown).2

theorem Settled.of_benign {result : Files × Except FileError Unit}
    (settled : Settled fs file content path writes result) (benign : ∀ call, Benign (writes call)) :
    result = (store fs file content, .ok ()) := by
  obtain ⟨last, -, ⟨-, same⟩ | ⟨-, refused, -⟩⟩ := settled
  · exact same
  · exact absurd (benign last) refused

/-! ## Whole files -/

/-- A new or empty file has exactly the bytes that were put into it from its beginning. -/
theorem lookup_store {name : List UInt8} (entry : fs.entry name = some file.inode)
    (empty : fs.content file.inode = []) (first : file.offset = 0) (bytes : List UInt8) :
    (store fs file bytes).lookup name = some bytes := by
  rw [FileSystem.lookup, store_entry, entry, Option.map_some, store_content, empty, first,
    overwrite_empty]

theorem writeFile_settles (fs : Files) (path content : List UInt8) (kernel : WriteKernel)
    (fair : Fair kernel.writes) :
    ∃ turns after outcome,
      (∀ fuel > turns, writeFile fuel kernel path content fs = some (after, outcome)) ∧
        (outcome = .ok () → after.lookup (Paths.cString 0 path) = some content) ∧
          (kernel.opening = none → kernel.closing = none →
            (∀ call, Benign (kernel.writes call)) → outcome = .ok ()) := by
  rcases openTruncated_cases fs (Paths.cString 0 path) (0o666 &&& ~~~kernel.umask)
    kernel.opening with ⟨errno, refused, failed⟩ | ⟨-, opened, file, done, entry, empty, first⟩
  · refine ⟨0, fs, .error (throwFileError errno "cannot open file" path), ?_, ?_, ?_⟩
    · intro fuel _
      rw [writeFile, failed]
    · intro returned
      cases returned
    · intro opens
      rw [opens] at refused
      cases refused
  · obtain ⟨turns, ⟨after, outcome⟩, ends, settled⟩ :=
      writeAll_settles opened file content path fair
    refine ⟨turns, after, outcome.bind fun _ => closeFile kernel.closing path, ?_, ?_, ?_⟩
    · intro fuel enough
      rw [writeFile, done]
      simp only [ends fuel enough, Option.map_some]
    · intro returned
      cases outcome with
      | error thrown => cases returned
      | ok _ =>
        rw [settled.returned]
        exact lookup_store entry empty first content
    · intro _ closes benign
      rw [(Prod.mk.inj (settled.of_benign benign)).2, closes]
      rfl

theorem writeFileBytes_eq (fuel : Nat) (kernel : WriteKernel) (path content : List UInt8)
    (fs : Files) :
    writeFileBytes fuel kernel path content.toArray fs = writeFile fuel kernel path content fs := by
  have data : (if content.toArray.isEmpty then [] else content.toArray.toList) = content := by
    cases content with
    | nil => rfl
    | cons first rest => rfl
  rw [writeFileBytes, data]

/-- A file has the content that was written, and the same content is read, however the kernel cuts
either of them. A call of `WriteAll` ends. It throws if the kernel refuses while something is left,
and then a prefix of the content is written.

Proof: both loops end because the interruptions do. What is written is what the kernel was ready
for, until that is everything, and what is read is everything behind the position. -/
theorem file_contents_survive (fs : Files) (path content : List UInt8) (kernel : WriteKernel)
    (fair : Fair kernel.writes) :
    (∃ turns after outcome,
      (∀ fuel > turns, writeFile fuel kernel path content fs = some (after, outcome) ∧
        writeFileBytes fuel kernel path content.toArray fs = some (after, outcome)) ∧
      (outcome = .ok () → after.lookup (Paths.cString 0 path) = some content ∧
        ReadsBack after path content) ∧
      (kernel.opening = none → kernel.closing = none →
        (∀ call, Benign (kernel.writes call)) → outcome = .ok ())) ∧
    ∀ (before : Files) (file : Descriptor),
      (∃ turns result, ∀ fuel > turns,
        writeAll fuel kernel.writes file content path before = some result) ∧
      ∀ calls, (∀ earlier < calls, Benign (kernel.writes earlier)) →
        offered kernel.writes calls < content.length → ¬ Benign (kernel.writes calls) →
          ∃ turns, ∀ fuel > turns, writeAll fuel kernel.writes file content path before =
            some (store before file (content.take (offered kernel.writes calls)),
              .error (refusal (kernel.writes calls) path)) := by
  constructor
  · obtain ⟨turns, after, outcome, ends, leaves, returns⟩ :=
      writeFile_settles fs path content kernel fair
    refine ⟨turns, after, outcome, ?_, ?_, returns⟩
    · intro fuel enough
      rw [writeFileBytes_eq]
      exact ⟨ends fuel enough, ends fuel enough⟩
    · intro returned
      exact ⟨leaves returned, reads_back (leaves returned)⟩
  · intro before file
    obtain ⟨turns, result, ends, settled⟩ := writeAll_settles before file content path fair
    refine ⟨⟨turns, result, ends⟩, ?_⟩
    intro calls benign left obstacle
    refine ⟨turns, ?_⟩
    rw [← settled.thrown benign left obstacle]
    exact ends

/-- A kernel that writes two bytes at a time, and that is interrupted once. -/
def shortWrites : WriteKernel where
  umask := 0o022
  opening := none
  writes := fun call => if call = 1 then .error EINTR else .ok 2
  closing := none

theorem shortWrites_fair : Fair shortWrites.writes := by
  intro calls
  refine ⟨calls + 2, by omega, ?_⟩
  simp [shortWrites]

theorem shortWrites_benign (call : Nat) : Benign (shortWrites.writes call) := by
  by_cases second : call = 1
  · exact .inl (if_pos second)
  · exact .inr ⟨2, by decide, if_neg second⟩

/-- Three bytes in two pieces. -/
theorem file_contents_survive_short : Fair shortWrites.writes ∧
      ∃ turns after, (∀ fuel > turns,
          writeFile fuel shortWrites [102] [7, 0, 255] .empty = some (after, .ok ())) ∧
        after.lookup [102] = some [7, 0, 255] ∧ ReadsBack after [102] [7, 0, 255] := by
  refine ⟨shortWrites_fair, ?_⟩
  obtain ⟨⟨turns, after, outcome, ends, leaves, returns⟩, -⟩ :=
    file_contents_survive .empty [102] [7, 0, 255] shortWrites shortWrites_fair
  have returned := returns rfl rfl shortWrites_benign
  rw [returned] at ends
  exact ⟨turns, after, fun fuel enough => (ends fuel enough).1, leaves returned⟩

end FileUtils

end Moban
