import Moban.AtomicFile

/-!
# Replacing a file next to another process

Another process unlinks names of the directory and creates files and links under free names
while a call of `write_file_atomic` is performed. The call compares its temporary name with the
file that it has created before it renames; the name is only compared, and then it is used in
another system call.
-/

namespace Moban

open Function

/-- The directory, the call, and the file that its `rename` has placed at the path. -/
structure Contested where
  fs : FileSystem FileName
  call : WriteCall
  placed : Option Nat

namespace Contested

/-- A system call of the call, or what the other process does. -/
inductive Label where
  | proceeds (outcome : Outcome)
  | unlinks (name : FileName)
  | creates (name : FileName) (file : Inode)
  | links (name : FileName) (file : Nat)
deriving DecidableEq

def start (fs : FileSystem FileName) (path : FileName) (content : List UInt8) (umask : Mode) :
    Contested where
  fs := fs
  call := .begin' path content umask
  placed := none

def step (s : Contested) : Label → Option Contested
  | .proceeds outcome =>
      let after := s.call.advance s.fs outcome
      some
        { fs := after.1
          call := after.2
          placed :=
            if after.2.stage.installed && !s.call.stage.installed then after.1.entry s.call.path
            else s.placed }
  | .unlinks name => some { s with fs := s.fs.unlink name }
  | .creates name file => some { s with
      fs :=
        { entry := update s.fs.entry name (some s.fs.size)
          inode := update s.fs.inode s.fs.size file
          size := s.fs.size + 1 } }
  | .links name file => some { s with
      fs := { s.fs with entry := update s.fs.entry name (some file) } }

def enabled (s : Contested) : Label → Prop
  | .proceeds outcome => s.call.allows s.fs outcome = true
  | .unlinks _ => True
  | .creates name _ => s.fs.entry name = none
  | .links name file => s.fs.entry name = none ∧ file < s.fs.size

def system : Runs.System Contested Label where
  step := step
  enabled := enabled

instance (s : Contested) : (label : Label) → Decidable (system.enabled s label)
  | .proceeds _ | .creates .. => decEq _ _
  | .unlinks _ => instDecidableTrue
  | .links .. => instDecidableAnd

/-- The temporary name is not unlinked after it was compared. -/
def Spares (s : Contested) : Label → Prop
  | .unlinks name => s.call.stage.verified = true → name ≠ s.call.temp
  | _ => True

instance (s : Contested) : (label : Label) → Decidable (s.Spares label)
  | .unlinks _ => instDecidableForall
  | .proceeds _ | .creates .. | .links .. => instDecidableTrue

/-- The file of the call holds what the call has written, the temporary name that was compared is
its name, and `rename` has placed it at the path. -/
structure Genuine (first : FileSystem FileName) (path : FileName) (content : List UInt8)
    (s : Contested) : Prop where
  aimed : s.call.path = path
  given : s.call.content = content
  grown : first.size ≤ s.fs.size
  created : s.call.owns = true → first.size ≤ s.call.fd ∧ s.call.fd < s.fs.size
  wrote : s.call.owns = true → s.call.Wrote (s.fs.content s.call.fd)
  verified : s.call.stage.verified = true → s.fs.entry s.call.temp = some s.call.fd
  placed : s.call.stage.installed = true → s.placed = some s.call.fd

section Genuine

variable {first fs : FileSystem FileName} {path : FileName} {content : List UInt8} {s : Contested}
  {label : Label}

/-- What the other process has to leave alone. -/
theorem Genuine.disturb (genuine : s.Genuine first path content) (grown : s.fs.size ≤ fs.size)
    (kept : ∀ i < s.fs.size, fs.content i = s.fs.content i)
    (entry : s.call.stage.verified = true → fs.entry s.call.temp = s.fs.entry s.call.temp) :
    ({ s with fs := fs } : Contested).Genuine first path content where
  aimed := genuine.aimed
  given := genuine.given
  grown := genuine.grown.trans grown
  created := fun owns =>
    ⟨(genuine.created owns).1, (genuine.created owns).2.trans_le grown⟩
  wrote := fun owns => by
    show s.call.Wrote (fs.content s.call.fd)
    rw [kept _ (genuine.created owns).2]
    exact genuine.wrote owns
  verified := fun verified => (entry verified).trans (genuine.verified verified)
  placed := genuine.placed

/-- A name that was compared is not free. -/
theorem Genuine.taken (genuine : s.Genuine first path content) {name : FileName}
    (free : s.fs.entry name = none)
    (verified : s.call.stage.verified = true) : s.call.temp ≠ name := by
  intro same
  have named := genuine.verified verified
  rw [same, free] at named
  cases named

/-- A call that only writes to its own file and does not rename. -/
theorem Genuine.revise (genuine : s.Genuine first path content) {next : WriteCall}
    (same : s.call.Same next) (holds : next.stage.holds = s.call.stage.holds)
    (installed : next.stage.installed = s.call.stage.installed) (size : fs.size = s.fs.size)
    (wrote : s.call.Wrote (s.fs.content s.call.fd) → next.Wrote (fs.content s.call.fd))
    (verified : next.stage.verified = true → fs.entry s.call.temp = some s.call.fd) :
    Genuine first path content { fs := fs, call := next, placed := s.placed } := by
  have owns : next.owns = s.call.owns := by rw [WriteCall.owns, holds, installed, WriteCall.owns]
  constructor
  · exact same.path.trans genuine.aimed
  · exact same.content.trans genuine.given
  · rw [size]
    exact genuine.grown
  · intro owned
    rw [same.fd, size]
    exact genuine.created (owns.symm.trans owned)
  · intro owned
    rw [same.fd]
    exact wrote (genuine.wrote (owns.symm.trans owned))
  · intro compared
    rw [same.temp, same.fd]
    exact verified compared
  · intro renamed
    rw [same.fd]
    exact genuine.placed (installed.symm.trans renamed)

/-- A call renames the file that it has created. -/
theorem Genuine.rename (genuine : s.Genuine first path content)
    (replacing : s.call.stage = .replacing) (done : s.fs.rename s.call.temp s.call.path = some fs) :
    Genuine first path content
      { fs := fs, call := s.call.moved .syncing, placed := fs.entry s.call.path } := by
  obtain ⟨named, kept, size⟩ := FileSystem.rename_places done
  have owned : s.call.owns = true := WriteCall.owns_of_holds (by rw [replacing]; rfl)
  constructor
  · exact genuine.aimed
  · exact genuine.given
  · rw [size]
    exact genuine.grown
  · intro _
    rw [size]
    exact genuine.created owned
  · intro _
    have wrote := genuine.wrote owned
    rw [WriteCall.Wrote, replacing] at wrote
    rw [kept]
    exact wrote
  · intro verified
    cases verified
  · intro _
    exact named.trans (genuine.verified (by rw [replacing]; rfl))

theorem Genuine.create (genuine : s.Genuine first path content) {name : FileName} {mode : Mode}
    (done : s.fs.create name mode = some fs) :
    Genuine first path content
      { fs := fs
        call := { s.call with stage := .statCreated, temp := name, fd := s.fs.size }
        placed := s.placed } := by
  obtain ⟨-, -, bytes, size⟩ := FileSystem.create_inv done
  constructor
  · exact genuine.aimed
  · exact genuine.given
  · rw [size]
    exact Nat.le_succ_of_le genuine.grown
  · intro _
    rw [size]
    exact ⟨genuine.grown, Nat.lt_succ_self _⟩
  · intro _
    show fs.content s.fs.size = []
    rw [bytes, update_self]
  · intro verified
    cases verified
  · intro installed
    cases installed

/-- The system calls of the call keep its file genuine. -/
theorem Genuine.advance (genuine : s.Genuine first path content) {outcome : Outcome}
    (allowed : s.call.allows s.fs outcome = true) :
    ∃ next, system.step s (.proceeds outcome) = some next ∧ next.Genuine first path content := by
  refine ⟨_, rfl, ?_⟩
  have advances := WriteCall.advance_advances allowed
  generalize (s.call.advance s.fs outcome).1 = fs, (s.call.advance s.fs outcome).2 = next
    at advances ⊢
  cases advances with
  | keeps same holds installed wrote _ verified =>
    rw [installed, Bool.and_not_self, if_neg Bool.false_ne_true]
    refine genuine.revise same holds installed rfl (wrote _) fun compared => ?_
    exact (verified compared).elim genuine.verified id
  | creates opening done => exact genuine.create done
  | changes same holds still _ size _ wrote _ unverified =>
    have unchanged : next.stage.installed = s.call.stage.installed := by
      rw [Stage.not_installed_of_holds still, Stage.not_installed_of_holds holds]
    rw [unchanged, Bool.and_not_self, if_neg Bool.false_ne_true]
    refine genuine.revise same (still.trans holds.symm) unchanged size wrote fun compared => ?_
    rw [unverified] at compared
    cases compared
  | renames replacing done =>
    rw [replacing]
    exact genuine.rename replacing done
  | unlinks cleaning =>
    constructor
    · exact genuine.aimed
    · exact genuine.given
    · exact genuine.grown
    all_goals
      intro impossible
      cases impossible

theorem start_genuine (fs : FileSystem FileName) (path : FileName) (content : List UInt8)
    (umask : Mode) : (start fs path content umask).Genuine fs path content := by
  constructor
  · rfl
  · rfl
  · exact le_rfl
  all_goals
    intro impossible
    cases impossible

/-- The other process cannot take the place of the file of the call if it spares the temporary
name after it was compared. -/
theorem step_genuine (genuine : s.Genuine first path content) (enabled : s.enabled label)
    (spares : s.Spares label) :
    ∃ next, system.step s label = some next ∧ next.Genuine first path content := by
  cases label with
  | proceeds outcome => exact genuine.advance enabled
  | unlinks name =>
    refine ⟨_, rfl, genuine.disturb le_rfl (fun _ _ => rfl) fun verified => ?_⟩
    exact update_of_ne (spares verified).symm ..
  | creates name file =>
    refine ⟨_, rfl, genuine.disturb (Nat.le_succ _) (fun i old => ?_) fun verified => ?_⟩
    · simp [FileSystem.content, old.ne]
    · exact update_of_ne (genuine.taken enabled verified) ..
  | links name file =>
    refine ⟨_, rfl, genuine.disturb le_rfl (fun _ _ => rfl) fun verified => ?_⟩
    exact update_of_ne (genuine.taken enabled.1 verified) ..

/-- A call that returns has placed the file that it has created and written at the path, whatever
the other process does, as long as the temporary name is not unlinked between the comparison and
`rename`.

Proof: `step_genuine` keeps the compared name the name of the file of the call, since names that
are taken cannot be created again, and `rename` places the file with that name. -/
theorem renamed_own_file (fs : FileSystem FileName) (path : FileName) (content : List UInt8)
    (umask : Mode) (labels : List Label)
    (admitted : system.Valid (start fs path content umask) labels)
    (spared : system.Along Spares (start fs path content umask) labels) :
    ∃ s, system.run (start fs path content umask) labels = some s ∧
      s.call.path = path ∧
      (s.call.stage = .returned →
        s.placed = some s.call.fd ∧ fs.size ≤ s.call.fd ∧ s.fs.content s.call.fd = content) := by
  obtain ⟨s, finished, genuine⟩ := Runs.System.run_safe (Genuine fs path content)
    (fun s label genuine ⟨enabled, spares⟩ => step_genuine genuine enabled spares)
    (start fs path content umask) labels (start_genuine fs path content umask)
    ((Runs.System.along_and _ _ _ _).mpr ⟨admitted, spared⟩)
  refine ⟨s, finished, genuine.aimed, fun returned => ?_⟩
  have owned : s.call.owns = true := WriteCall.owns_of_installed (by rw [returned]; rfl)
  have wrote := genuine.wrote owned
  rw [WriteCall.Wrote, returned] at wrote
  exact ⟨genuine.placed (by rw [returned]; rfl), (genuine.created owned).1,
    wrote.trans genuine.given⟩

/-- The other process replaces the temporary file while it is written, and puts it back before the
comparison. -/
def putBack : List Label :=
  [.proceeds .fails, .proceeds (.opens 1 0 7), .links ['b'] 0, .unlinks (tempName ['a'] 1 0 7),
    .creates (tempName ['a'] 1 0 7) ⟨[9], 0o644, true⟩, .proceeds .succeeds, .proceeds .succeeds,
    .proceeds (.wrote 1), .proceeds .succeeds, .proceeds .succeeds, .proceeds .succeeds,
    .unlinks (tempName ['a'] 1 0 7), .links (tempName ['a'] 1 0 7) 0, .proceeds .succeeds,
    .creates ['a'] ⟨[9], 0o644, true⟩, .proceeds .succeeds, .proceeds .succeeds, .proceeds .fails]

/-- The call returns, and has placed its own file in spite of the other process. -/
theorem renamed_own_file_disturbed :
    ∃ s, system.run (start .empty ['a'] [1] 0o022) putBack = some s ∧
      s.call.path = ['a'] ∧ s.call.stage = .returned ∧
      s.placed = some s.call.fd ∧ 0 ≤ s.call.fd ∧ s.fs.content s.call.fd = [1] := by
  obtain ⟨s, finished, aimed, placed⟩ :=
    renamed_own_file .empty ['a'] [1] 0o022 putBack (by decide) (by decide)
  have returned : s.call.stage = .returned := by cases finished; rfl
  exact ⟨s, finished, aimed, returned, placed returned⟩

/-- The other process replaces the temporary file after the comparison. -/
def replacedLate : List Label :=
  [.proceeds .fails, .proceeds (.opens 1 0 7), .proceeds .succeeds, .proceeds .succeeds,
    .proceeds (.wrote 1), .proceeds .succeeds, .proceeds .succeeds, .proceeds .succeeds,
    .proceeds .succeeds, .unlinks (tempName ['a'] 1 0 7),
    .creates (tempName ['a'] 1 0 7) ⟨[9], 0o644, true⟩, .proceeds .succeeds, .proceeds .succeeds,
    .proceeds .succeeds]

/-- The file of the other process is placed at the path by a call that returns. -/
theorem renamed_foreign_file : system.Valid (start .empty ['a'] [1] 0o022) replacedLate ∧
    ∃ s, system.run (start .empty ['a'] [1] 0o022) replacedLate = some s ∧
      s.call.stage = .returned ∧ s.call.fd = 0 ∧ s.placed = some 1 ∧
      s.fs.lookup ['a'] = some [9] := by
  constructor
  · decide
  · exact ⟨_, rfl, rfl, rfl, by decide, by decide⟩

end Genuine

end Contested

end Moban
