import Mathlib

/-!
# One directory of a file system

A directory maps names to inodes, and an inode holds what is reached through every name and
descriptor of the file. Creating a name exclusively, renaming and unlinking are atomic.
Inode numbers are not used again.
-/

namespace Moban

open Function

/-- Permission bits with the set-id and sticky bits above them. -/
abbrev Mode := BitVec 12

structure Inode where
  content : List UInt8
  mode : Mode
  regular : Bool
deriving DecidableEq

/-- The entries of a directory, the inodes, and the number of inodes ever used. -/
structure FileSystem (Name : Type) where
  entry : Name → Option Nat
  inode : Nat → Inode
  size : Nat

namespace FileSystem

variable {Name : Type}

/-- Every entry names an inode in use. -/
def WellFormed (fs : FileSystem Name) : Prop := ∀ name i, fs.entry name = some i → i < fs.size

def content (fs : FileSystem Name) (i : Nat) : List UInt8 := (fs.inode i).content

/-- A directory without files. -/
def empty : FileSystem Name where
  entry := fun _ => none
  inode := fun _ => ⟨[], 0, true⟩
  size := 0

theorem empty_wellFormed : (empty : FileSystem Name).WellFormed := by
  intro _ _ named
  cases named

/-- The content of the file with this name. -/
def lookup (fs : FileSystem Name) (name : Name) : Option (List UInt8) :=
  (fs.entry name).map fs.content

/-- Append to a file through a descriptor. -/
def write (fs : FileSystem Name) (i : Nat) (bytes : List UInt8) : FileSystem Name :=
  let file : Inode := { fs.inode i with content := fs.content i ++ bytes }
  { fs with inode := update fs.inode i file }

def fchmod (fs : FileSystem Name) (i : Nat) (mode : Mode) : FileSystem Name :=
  let file : Inode := { fs.inode i with mode := mode }
  { fs with inode := update fs.inode i file }

variable [DecidableEq Name]

/-- Create an empty file under a name that is not taken. -/
def create (fs : FileSystem Name) (name : Name) (mode : Mode) : Option (FileSystem Name) :=
  if fs.entry name = none then
    some
      { entry := update fs.entry name (some fs.size)
        inode := update fs.inode fs.size ⟨[], mode, true⟩
        size := fs.size + 1 }
  else
    none

/-- Replace the new name by the old one. Two names of one file are left alone. -/
def rename (fs : FileSystem Name) (old new : Name) : Option (FileSystem Name) :=
  match fs.entry old with
  | none => none
  | some i =>
      if fs.entry new = some i then some fs
      else some { fs with
        entry := update (update fs.entry old none) new (some i) }

def unlink (fs : FileSystem Name) (name : Name) : FileSystem Name :=
  { fs with entry := update fs.entry name none }

section Operations

variable {fs next : FileSystem Name} {name : Name} {mode : Mode} {i : Nat}

omit [DecidableEq Name] in
@[simp] theorem content_write_self (bytes : List UInt8) :
    (fs.write i bytes).content i = fs.content i ++ bytes := by
  simp [write, content]

omit [DecidableEq Name] in
theorem content_write_other (bytes : List UInt8) {other : Nat} (apart : other ≠ i) :
    (fs.write i bytes).content other = fs.content other := by
  simp [write, content, apart]

omit [DecidableEq Name] in
@[simp] theorem content_fchmod (other : Nat) :
    (fs.fchmod i mode).content other = fs.content other := by
  by_cases same : other = i
  · rw [same]
    simp [fchmod, content]
  · simp [fchmod, content, same]

theorem create_inv (done : fs.create name mode = some next) :
    fs.entry name = none ∧ next.entry = update fs.entry name (some fs.size) ∧
      next.content = update fs.content fs.size [] ∧ next.size = fs.size + 1 := by
  rw [create] at done
  split_ifs at done with free
  cases done
  refine ⟨free, rfl, ?_, rfl⟩
  funext other
  by_cases same : other = fs.size
  · simp [content, same]
  · simp [content, same]

/-- An entry may be set to an inode in use, or removed. -/
theorem WellFormed.update (wellFormed : fs.WellFormed) {file : Option Nat}
    (used : ∀ i, file = some i → i < fs.size) :
    { fs with entry := update fs.entry name file }.WellFormed := by
  intro other i named
  by_cases here : other = name
  · simp only [here, update_self] at named
    exact used i named
  · simp only [update_of_ne here] at named
    exact wellFormed other i named

theorem WellFormed.unlink (wellFormed : fs.WellFormed) : (fs.unlink name).WellFormed :=
  wellFormed.update fun _ absent => by cases absent

theorem WellFormed.create (wellFormed : fs.WellFormed) (done : fs.create name mode = some next) :
    next.WellFormed := by
  obtain ⟨-, entry, -, size⟩ := create_inv done
  intro other i named
  rw [entry] at named
  rw [size]
  by_cases new : other = name
  · rw [new, update_self] at named
    cases named
    omega
  · rw [update_of_ne new] at named
    exact (wellFormed other i named).trans (Nat.lt_succ_self _)

/-- The new name is the file that the old name was. -/
theorem rename_places {old new : Name} (done : fs.rename old new = some next) :
    next.entry new = fs.entry old ∧ next.content = fs.content ∧ next.size = fs.size := by
  rw [rename] at done
  cases found : fs.entry old with
  | none =>
    rw [found] at done
    cases done
  | some i =>
    rw [found] at done
    dsimp only at done
    split_ifs at done with same
    · cases done
      exact ⟨same, rfl, rfl⟩
    · cases done
      exact ⟨update_self .., rfl, rfl⟩

/-- Renaming the only name of a file moves its entry. -/
theorem rename_moves {old new : Name} (found : fs.entry old = some i)
    (apart : fs.entry new ≠ some i) :
    fs.rename old new = some { fs with
      entry := update (update fs.entry old none) new (some i) } := by
  simp [rename, found, apart]

end Operations

end FileSystem

end Moban
