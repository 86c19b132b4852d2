import Moban.FileSystem
import Moban.Runs

/-!
# Replacing a file atomically

`write_file_atomic` writes a temporary file in the directory of the target and renames it
over the target. A step is one system call; its result is given by the environment, within
what the call can return in the directory as it is. An exception unwinds to the guard of the
temporary file, which unlinks it.

All names are names in the directory of the target, which exists. Since other calls may act
between any two system calls, each of them is a step of its own; only the system calls of
`SyncDirectory`, on which nothing depends, are one step.
-/

namespace Moban

/-- File names, as their bytes. -/
abbrev FileName := List Char

/-! ## Temporary names -/

def kMaxFileNameLength : Nat := 255

def hexString (value : BitVec 64) : FileName :=
  (List.range 16).reverse.map fun digit => Nat.digitChar (value.toNat / 16 ^ digit % 16)

def tempSuffix (pid counter : Nat) (random : BitVec 64) : FileName :=
  Nat.toDigits 10 pid ++ ['.'] ++ Nat.toDigits 10 counter ++ ['.'] ++ hexString random

/-- The candidate of `CreateTempFile`. Its first part is cut to leave room for the suffix. -/
def tempName (name : FileName) (pid counter : Nat) (random : BitVec 64) : FileName :=
  let suffix := tempSuffix pid counter random
  let budget := kMaxFileNameLength - suffix.length - 1
  (['.'] ++ name ++ ['.', 't', 'm', 'p', '.']).take budget ++ suffix

/-- A list that begins with one element before its own beginning repeats that element. -/
theorem take_shifted {α : Type} {list rest : List α} {first : α} {count : Nat}
    (shifted : list = (first :: list).take count ++ rest) :
    ∀ length ≤ count, list.take length = List.replicate length first := by
  intro length
  induction length with
  | zero => simp
  | succ length ih =>
    intro bound
    obtain ⟨budget, rfl⟩ : ∃ budget, count = budget + 1 :=
      Nat.exists_eq_succ_of_ne_zero (by omega)
    have earlier := ih (by omega)
    rw [List.take_succ_cons, List.cons_append] at shifted
    have inner : (list.take budget ++ rest).take length = list.take length := by
      have whole : length ≤ (list.take budget).length := by
        have size := congrArg List.length shifted
        rw [List.length_cons, List.length_append, List.length_take] at size
        rw [List.length_take]
        omega
      rw [List.take_append_of_le_length whole, List.take_take, Nat.min_eq_left (by omega)]
    calc list.take (length + 1) = (first :: (list.take budget ++ rest)).take (length + 1) := by
          rw [← shifted]
      _ = first :: list.take length := by rw [List.take_succ_cons, inner]
      _ = List.replicate (length + 1) first := by rw [earlier, List.replicate_succ]

/-- A temporary name is the name of the target itself exactly if that name consists of dots up
to the suffix, which makes it as long as a temporary name can be.

Proof: names of one length cut the first part, which begins with a dot and the name. -/
theorem tempName_eq_iff (name : FileName) (pid counter : Nat) (random : BitVec 64) :
    tempName name pid counter random = name ↔
      name = List.replicate (kMaxFileNameLength - (tempSuffix pid counter random).length - 1) '.' ++
        tempSuffix pid counter random := by
  generalize suffix : tempSuffix pid counter random = ending
  generalize room : kMaxFileNameLength - ending.length - 1 = budget
  have named : tempName name pid counter random =
      ('.' :: name ++ ['.', 't', 'm', 'p', '.']).take budget ++ ending := by
    rw [tempName, suffix, room]
    rfl
  rw [named]
  constructor
  · intro same
    have size := congrArg List.length same
    simp only [List.cons_append, List.length_append, List.length_take, List.length_cons,
      List.length_nil] at size
    have cut : ('.' :: name ++ ['.', 't', 'm', 'p', '.']).take budget = ('.' :: name).take budget :=
      List.take_append_of_le_length (by rw [List.length_cons]; omega)
    rw [cut] at same
    have dots := take_shifted same.symm budget le_rfl
    have head : ('.' :: name).take budget = name.take budget := by
      conv_rhs => rw [← same]
      exact (List.take_left' (by rw [List.length_take, List.length_cons]; omega)).symm
    rw [← dots, ← head]
    exact same.symm
  · intro same
    rw [same, ← List.cons_append, ← List.replicate_succ, List.append_assoc,
      List.take_append_of_le_length (by simp), List.take_replicate, Nat.min_eq_left (by omega)]

/-! ## A call -/

/-- The next system call, or how the call has ended. -/
inductive Stage where
  | targetMode
  | opening (attempt : Nat)
  | statCreated
  | protecting
  | writing (written : Nat)
  | restoring
  | flushing
  | statFd
  | statPath
  | closing
  | replacing
  | syncing
  /-- An exception is thrown, and the guard unlinks the temporary file. -/
  | cleaning
  | returned
  | thrown
deriving DecidableEq

namespace Stage

/-- The temporary file is in the directory. -/
def holds : Stage → Bool
  | statCreated | protecting | writing _ | restoring | flushing | statFd | statPath | closing
  | replacing | cleaning => true
  | targetMode | opening _ | syncing | returned | thrown => false

/-- The temporary file was renamed. -/
def installed : Stage → Bool
  | syncing | returned => true
  | _ => false

/-- The content of the temporary file was flushed. -/
def flushed : Stage → Bool
  | statFd | statPath | closing | replacing | syncing | returned => true
  | _ => false

/-- The temporary name was found to be that of the created file. -/
def verified : Stage → Bool
  | closing | replacing => true
  | _ => false

/-- The call has ended. -/
def ended : Stage → Bool
  | returned | thrown => true
  | _ => false

variable {stage : Stage}

theorem not_installed_of_holds (holds : stage.holds = true) : stage.installed = false := by
  cases stage <;> simp_all [Stage.holds, Stage.installed]

theorem not_ended_of_holds (holds : stage.holds = true) : stage.ended = false := by
  cases stage <;> simp_all [Stage.holds, Stage.ended]

theorem flushed_of_installed (installed : stage.installed = true) : stage.flushed = true := by
  cases stage <;> simp_all [Stage.installed, Stage.flushed]

end Stage

/-- The result of a system call. -/
inductive Outcome where
  | succeeds
  | fails
  /-- The number of the process, the counter and the random bits of the name to open. -/
  | opens (pid counter : Nat) (random : BitVec 64)
  | wrote (count : Nat)
  | interrupted
deriving DecidableEq

/-- A call of `write_file_atomic` with its local variables. -/
structure WriteCall where
  path : FileName
  content : List UInt8
  umask : Mode
  stage : Stage
  targetMode : Option Mode
  defaultMode : Mode
  temp : FileName
  fd : Nat
deriving DecidableEq

namespace WriteCall

def begin' (path : FileName) (content : List UInt8) (umask : Mode) : WriteCall where
  path := path
  content := content
  umask := umask
  stage := .targetMode
  targetMode := none
  defaultMode := 0
  temp := []
  fd := 0

def permissions : Mode := 0o777

/-- The permissions of the target, if it is a regular file. -/
def statTarget (fs : FileSystem FileName) (path : FileName) : Option Mode := do
  let i ← fs.entry path
  guard (fs.inode i).regular
  return (fs.inode i).mode &&& permissions

/-- The loop of `WriteAll` is left when everything is written. -/
def writeAll (call : WriteCall) (written : Nat) : WriteCall :=
  { call with stage := if written < call.content.length then .writing written else .restoring }

def moved (call : WriteCall) (stage : Stage) : WriteCall := { call with stage := stage }

/-- One system call with its result. -/
def advance (fs : FileSystem FileName) (call : WriteCall) (outcome : Outcome) :
    FileSystem FileName × WriteCall :=
  match call.stage, outcome with
  | .targetMode, .succeeds =>
      (fs, { call with stage := .opening 0, targetMode := statTarget fs call.path })
  | .targetMode, _ => (fs, call.moved (.opening 0))
  | .opening attempt, .opens pid counter random =>
      let candidate := tempName call.path pid counter random
      match fs.create candidate (0o666 &&& ~~~call.umask) with
      | some created =>
          (created, { call with stage := .statCreated, temp := candidate, fd := fs.size })
      | none => (fs, call.moved (if attempt + 1 < 128 then .opening (attempt + 1) else .thrown))
  | .opening _, _ => (fs, call.moved .thrown)
  | .statCreated, .succeeds =>
      (fs, { call with
        stage := .protecting
        defaultMode := (fs.inode call.fd).mode &&& permissions })
  | .protecting, .succeeds => (fs.fchmod call.fd 0o600, call.writeAll 0)
  | .writing written, .wrote count =>
      if count = 0 then (fs, call.moved .cleaning)
      else
        (fs.write call.fd ((call.content.drop written).take count), call.writeAll (written + count))
  | .writing _, .interrupted => (fs, call)
  | .restoring, .succeeds =>
      (fs.fchmod call.fd (call.targetMode.getD call.defaultMode), call.moved .flushing)
  | .flushing, .succeeds => (fs, call.moved .statFd)
  | .statFd, .succeeds => (fs, call.moved .statPath)
  | .statPath, .succeeds =>
      (fs, call.moved (if fs.entry call.temp = some call.fd then .closing else .cleaning))
  | .closing, .succeeds => (fs, call.moved .replacing)
  | .replacing, .succeeds =>
      match fs.rename call.temp call.path with
      | some renamed => (renamed, call.moved .syncing)
      | none => (fs, call.moved .cleaning)
  | .syncing, _ => (fs, call.moved .returned)
  | .cleaning, _ => (fs.unlink call.temp, call.moved .thrown)
  | .returned, _ => (fs, call)
  | .thrown, _ => (fs, call)
  | _, _ => (fs, call.moved .cleaning)

/-- What a system call can return. -/
def allows (fs : FileSystem FileName) (call : WriteCall) (outcome : Outcome) : Bool :=
  match call.stage, outcome with
  | .opening _, .opens .. => true
  | .opening _, .fails => true
  | .opening _, _ => false
  | .writing written, .wrote count => decide (count ≤ call.content.length - written)
  | .writing _, .interrupted => true
  | .writing _, .fails => true
  | .writing _, _ => false
  | .statPath, .succeeds => (fs.entry call.temp).isSome
  | .replacing, .succeeds => (fs.entry call.temp).isSome
  | .cleaning, .succeeds => true
  | .cleaning, _ => false
  | .returned, _ => false
  | .thrown, _ => false
  | _, .succeeds => true
  | _, .fails => true
  | _, _ => false

/-! ## What a system call does -/

/-- The call has created a file and has not unlinked it. -/
def owns (call : WriteCall) : Bool := call.stage.holds || call.stage.installed

theorem owns_of_holds {call : WriteCall} (holds : call.stage.holds = true) : call.owns = true := by
  rw [owns, holds, Bool.true_or]

theorem owns_of_installed {call : WriteCall} (installed : call.stage.installed = true) :
    call.owns = true := by
  rw [owns, installed, Bool.or_true]

theorem owns_of_flushed {call : WriteCall} (flushed : call.stage.flushed = true) :
    call.owns = true := by
  rw [owns]
  cases stage : call.stage <;> simp_all [Stage.holds, Stage.installed, Stage.flushed]

/-- How much of the content is in the temporary file, unless the call has given up. -/
def Wrote (call : WriteCall) (written : List UInt8) : Prop :=
  match call.stage with
  | .statCreated | .protecting => written = []
  | .writing count => written = call.content.take count
  | .restoring | .flushing | .statFd | .statPath | .closing | .replacing | .syncing | .returned =>
      written = call.content
  | .targetMode | .opening _ | .cleaning | .thrown => True

/-- The arguments of the call and its temporary file are the same. -/
structure Same (call next : WriteCall) : Prop where
  path : next.path = call.path
  content : next.content = call.content
  temp : next.temp = call.temp
  fd : next.fd = call.fd

/-- The effects of the system calls on the directory. -/
inductive Advances (fs : FileSystem FileName) (call : WriteCall) :
    Outcome → FileSystem FileName → WriteCall → Prop where
  | keeps {outcome : Outcome} {next : WriteCall} (same : call.Same next)
      (holds : next.stage.holds = call.stage.holds)
      (installed : next.stage.installed = call.stage.installed)
      (wrote : ∀ written, call.Wrote written → next.Wrote written)
      (flushed : next.stage.flushed = true →
        call.stage.flushed = true ∨ (call.stage = .flushing ∧ outcome = .succeeds))
      (verified : next.stage.verified = true →
        call.stage.verified = true ∨ fs.entry call.temp = some call.fd) :
      Advances fs call outcome fs next
  | creates {attempt pid counter : Nat} {random : BitVec 64} {created : FileSystem FileName}
      (opening : call.stage = .opening attempt)
      (done : fs.create (tempName call.path pid counter random) (0o666 &&& ~~~call.umask) =
        some created) :
      Advances fs call (.opens pid counter random) created
        { call with
          stage := .statCreated
          temp := tempName call.path pid counter random
          fd := fs.size }
  | changes {outcome : Outcome} {changed : FileSystem FileName} {next : WriteCall}
      (same : call.Same next) (holds : call.stage.holds = true) (still : next.stage.holds = true)
      (entry : changed.entry = fs.entry) (size : changed.size = fs.size)
      (others : ∀ i, i ≠ call.fd → changed.content i = fs.content i)
      (wrote : call.Wrote (fs.content call.fd) → next.Wrote (changed.content call.fd))
      (unflushed : next.stage.flushed = false) (unverified : next.stage.verified = false) :
      Advances fs call outcome changed next
  | renames {renamed : FileSystem FileName} (replacing : call.stage = .replacing)
      (done : fs.rename call.temp call.path = some renamed) :
      Advances fs call .succeeds renamed (call.moved .syncing)
  | unlinks {outcome : Outcome} (cleaning : call.stage = .cleaning) :
      Advances fs call outcome (fs.unlink call.temp) (call.moved .thrown)

section Advances

variable {fs : FileSystem FileName} {call : WriteCall} {outcome : Outcome}

theorem Same.moved (call : WriteCall) (stage : Stage) : call.Same (call.moved stage) :=
  ⟨rfl, rfl, rfl, rfl⟩

/-- An exception is thrown after the temporary file was created. -/
theorem Advances.throws (holds : call.stage.holds = true) :
    Advances fs call outcome fs (call.moved .cleaning) := by
  exact .keeps (.moved call _) holds.symm (Stage.not_installed_of_holds holds).symm
    (fun _ _ => trivial) (by simp [moved, Stage.flushed]) (by simp [moved, Stage.verified])

/-- The loop of `WriteAll` goes on with what is left. -/
theorem wrote_writeAll (call : WriteCall) (written : Nat) :
    (call.writeAll written).Wrote (call.content.take written) := by
  rw [writeAll]
  split_ifs with more
  · rfl
  · exact List.take_of_length_le (Nat.le_of_not_lt more)

theorem writeAll_stage (call : WriteCall) (written : Nat) :
    (call.writeAll written).stage.holds = true ∧ (call.writeAll written).stage.flushed = false ∧
      (call.writeAll written).stage.verified = false := by
  rw [writeAll]
  split_ifs <;> exact ⟨rfl, rfl, rfl⟩

/-- A call that only moves on to the next system call. -/
theorem Advances.moves {next : WriteCall} {stage : Stage} (here : call.stage = stage)
    (same : call.Same next) (holds : next.stage.holds = stage.holds)
    (installed : next.stage.installed = stage.installed)
    (wrote : ∀ written, call.Wrote written → next.Wrote written)
    (flushed : next.stage.flushed = false ∨ stage.flushed = true ∨
      (stage = .flushing ∧ outcome = .succeeds))
    (verified : next.stage.verified = false ∨ stage.verified = true ∨
      fs.entry call.temp = some call.fd) :
    Advances fs call outcome fs next := by
  subst here
  refine .keeps same holds installed wrote (fun done => ?_) (fun done => ?_)
  · exact flushed.resolve_left (by rw [done]; simp)
  · exact verified.resolve_left (by rw [done]; simp)

theorem advance_fails (allowed : call.allows fs .fails = true) :
    Advances fs call .fails (call.advance fs .fails).1 (call.advance fs .fails).2 := by
  cases stage : call.stage with
  | targetMode | opening _ =>
    simp only [advance.eq_def, stage]
    exact .moves stage (.moved call _) rfl rfl (fun _ _ => trivial) (.inl rfl) (.inl rfl)
  | syncing =>
    simp only [advance.eq_def, stage]
    refine .moves stage (.moved call _) rfl rfl (fun written wrote => ?_) (.inr (.inl rfl))
      (.inl rfl)
    simpa [Wrote, moved, stage] using wrote
  | statCreated | protecting | writing _ | restoring | flushing | statFd | statPath | closing
  | replacing =>
    simp only [advance.eq_def, stage]
    exact .throws (by rw [stage]; rfl)
  | cleaning | returned | thrown => simp [allows.eq_def, stage] at allowed

theorem advance_opens {pid counter : Nat} {random : BitVec 64}
    (allowed : call.allows fs (.opens pid counter random) = true) :
    Advances fs call (.opens pid counter random) (call.advance fs (.opens pid counter random)).1
      (call.advance fs (.opens pid counter random)).2 := by
  cases stage : call.stage with
  | opening attempt =>
    simp only [advance.eq_def, stage]
    split
    case h_1 created done => exact .creates stage done
    · split_ifs
      · exact .moves stage (.moved call _) rfl rfl (fun _ _ => trivial) (.inl rfl) (.inl rfl)
      · exact .moves stage (.moved call _) rfl rfl (fun _ _ => trivial) (.inl rfl) (.inl rfl)
  | _ => simp [allows.eq_def, stage] at allowed

theorem advance_wrote {count : Nat} (allowed : call.allows fs (.wrote count) = true) :
    Advances fs call (.wrote count) (call.advance fs (.wrote count)).1
      (call.advance fs (.wrote count)).2 := by
  cases stage : call.stage with
  | writing written =>
    obtain ⟨still, unflushed, unverified⟩ := writeAll_stage call (written + count)
    simp only [advance.eq_def, stage]
    split_ifs
    · exact .throws (by rw [stage]; rfl)
    · refine .changes ⟨rfl, rfl, rfl, rfl⟩ (by rw [stage]; rfl) still rfl rfl
        (fun i apart => FileSystem.content_write_other _ apart) (fun wrote => ?_) unflushed
        unverified
      have before : fs.content call.fd = call.content.take written := by
        simpa [Wrote, stage] using wrote
      rw [FileSystem.content_write_self, before, ← List.take_add]
      exact wrote_writeAll call (written + count)
  | _ => simp [allows.eq_def, stage] at allowed

theorem advance_interrupted (allowed : call.allows fs .interrupted = true) :
    Advances fs call .interrupted (call.advance fs .interrupted).1
      (call.advance fs .interrupted).2 := by
  cases stage : call.stage with
  | writing written =>
    simp only [advance.eq_def, stage]
    exact .keeps ⟨rfl, rfl, rfl, rfl⟩ rfl rfl (fun _ wrote => wrote) .inl .inl
  | _ => simp [allows.eq_def, stage] at allowed

theorem advance_succeeds (allowed : call.allows fs .succeeds = true) :
    Advances fs call .succeeds (call.advance fs .succeeds).1 (call.advance fs .succeeds).2 := by
  cases stage : call.stage with
  | targetMode =>
    simp only [advance.eq_def, stage]
    exact .moves stage ⟨rfl, rfl, rfl, rfl⟩ rfl rfl (fun _ _ => trivial) (.inl rfl) (.inl rfl)
  | statCreated =>
    simp only [advance.eq_def, stage]
    refine .moves stage ⟨rfl, rfl, rfl, rfl⟩ rfl rfl (fun written wrote => ?_) (.inl rfl) (.inl rfl)
    simpa [Wrote, stage] using wrote
  | protecting =>
    obtain ⟨still, unflushed, unverified⟩ := writeAll_stage call 0
    simp only [advance.eq_def, stage]
    refine .changes ⟨rfl, rfl, rfl, rfl⟩ (by rw [stage]; rfl) still rfl rfl
      (fun i _ => FileSystem.content_fchmod i) (fun wrote => ?_) unflushed unverified
    have empty : fs.content call.fd = [] := by simpa [Wrote, stage] using wrote
    rw [FileSystem.content_fchmod, empty]
    exact wrote_writeAll call 0
  | restoring =>
    simp only [advance.eq_def, stage]
    refine .changes (.moved call _) (by rw [stage]; rfl) rfl rfl rfl
      (fun i _ => FileSystem.content_fchmod i) (fun wrote => ?_) rfl rfl
    rw [FileSystem.content_fchmod]
    simpa [Wrote, moved, stage] using wrote
  | flushing =>
    simp only [advance.eq_def, stage]
    refine .moves stage (.moved call _) rfl rfl (fun written wrote => ?_)
      (.inr (.inr ⟨rfl, rfl⟩)) (.inl rfl)
    simpa [Wrote, moved, stage] using wrote
  | statFd | syncing =>
    simp only [advance.eq_def, stage]
    refine .moves stage (.moved call _) rfl rfl (fun written wrote => ?_) (.inr (.inl rfl))
      (.inl rfl)
    simpa [Wrote, moved, stage] using wrote
  | statPath =>
    simp only [advance.eq_def, stage]
    split_ifs with found
    · refine .moves stage (.moved call _) rfl rfl (fun written wrote => ?_) (.inr (.inl rfl))
        (.inr (.inr found))
      simpa [Wrote, moved, stage] using wrote
    · exact .throws (by rw [stage]; rfl)
  | closing =>
    simp only [advance.eq_def, stage]
    refine .moves stage (.moved call _) rfl rfl (fun written wrote => ?_) (.inr (.inl rfl))
      (.inr (.inl rfl))
    simpa [Wrote, moved, stage] using wrote
  | replacing =>
    simp only [advance.eq_def, stage]
    split
    case h_1 renamed done => exact .renames stage done
    · exact .throws (by rw [stage]; rfl)
  | cleaning =>
    simp only [advance.eq_def, stage]
    exact .unlinks stage
  | opening _ | writing _ | returned | thrown => simp [allows.eq_def, stage] at allowed

/-- What a system call can do, whatever its result.

Proof: by the result. A failure after the temporary file was created is an exception, and every
other result belongs to one system call or to one of those that succeed. -/
theorem advance_advances (allowed : call.allows fs outcome = true) :
    Advances fs call outcome (call.advance fs outcome).1 (call.advance fs outcome).2 := by
  cases outcome with
  | succeeds => exact advance_succeeds allowed
  | fails => exact advance_fails allowed
  | opens pid counter random => exact advance_opens allowed
  | wrote count => exact advance_wrote allowed
  | interrupted => exact advance_interrupted allowed

/-- A file that is flushed has been flushed before, unless this system call has done it. -/
theorem Advances.flushed_before {after : FileSystem FileName} {next : WriteCall}
    (advances : Advances fs call outcome after next) (flushed : next.stage.flushed = true) :
    next.fd = call.fd ∧ next.content = call.content ∧
      (call.stage.flushed = true ∨ (call.stage = .flushing ∧ outcome = .succeeds)) := by
  cases advances with
  | keeps same _ _ _ before _ => exact ⟨same.fd, same.content, before flushed⟩
  | creates | unlinks => cases flushed
  | changes _ _ _ _ _ _ _ unflushed _ =>
    rw [unflushed] at flushed
    cases flushed
  | renames replacing _ => exact ⟨rfl, rfl, .inl (by rw [replacing]; rfl)⟩

/-- A file that was renamed stays so. -/
theorem Advances.still_installed {after : FileSystem FileName} {next : WriteCall}
    (advances : Advances fs call outcome after next) (installed : call.stage.installed = true) :
    next.stage.installed = true ∧ next.fd = call.fd := by
  cases advances with
  | keeps same _ still _ _ _ => exact ⟨still.trans installed, same.fd⟩
  | creates stage _ | renames stage _ | unlinks stage =>
    rw [stage] at installed
    cases installed
  | changes _ holds _ _ _ _ _ _ _ =>
    rw [Stage.not_installed_of_holds holds] at installed
    cases installed

end Advances

end WriteCall

end Moban
