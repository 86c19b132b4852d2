import Moban.FileSystem
import Moban.Loops

/-!
# Descriptors

A descriptor refers to a file and has a position in it. Reading and writing begin at the position
and move it behind what was transferred. The kernel may transfer fewer bytes than it was asked for,
and it may fail without transferring any.

What the kernel does in a sequence of calls is given by its answers, one for each call. An answer
is the greatest number of bytes that the call transfers, or an error. A call that a signal has
interrupted is an error as well. The answers are fair if the interruptions have an end, each time.
A loop that makes one call in every turn then has an end, if the calls that are not interrupted
leave less to do.
-/

namespace Moban.Descriptors

open Loops

abbrev Errno := Nat

def EINTR : Errno := 4

def EIO : Errno := 5

def ENOENT : Errno := 2

abbrev Answer := Except Errno Nat

structure Descriptor where
  inode : Nat
  offset : Nat
deriving DecidableEq

/-! ## Bytes in a file -/

/-- Put the bytes at the position. What the file lacks before it becomes zeros. -/
def overwrite (content : List UInt8) (offset : Nat) (bytes : List UInt8) : List UInt8 :=
  if bytes = [] then content
  else
    (content ++ List.replicate (offset - content.length) 0).take offset ++ bytes ++
      content.drop (offset + bytes.length)

theorem overwrite_empty (bytes : List UInt8) : overwrite [] 0 bytes = bytes := by
  by_cases empty : bytes = []
  · rw [empty]
    rfl
  · simp [overwrite, empty]

/-- Two parts that are put one behind the other are put there as one. -/
theorem overwrite_append (content first second : List UInt8) (offset : Nat) :
    overwrite (overwrite content offset first) (offset + first.length) second =
      overwrite content offset (first ++ second) := by
  by_cases empty : first = []
  · simp [overwrite, empty]
  by_cases last : second = []
  · simp [overwrite, last]
  generalize front : (content ++ List.replicate (offset - content.length) 0).take offset = before
  have length : before.length = offset := by
    rw [← front, List.length_take, List.length_append, List.length_replicate]
    omega
  have once : overwrite content offset first =
      before ++ first ++ content.drop (offset + first.length) := by
    rw [overwrite, if_neg empty, front]
  have inside : (before ++ first).length = offset + first.length := by
    rw [List.length_append, length]
  have both : first ++ second ≠ [] := List.append_ne_nil_of_left_ne_nil empty _
  rw [once, overwrite, if_neg last, overwrite, if_neg both, front, List.append_assoc _ _
    (List.replicate _ _), List.take_left' inside, List.drop_append, inside,
    List.drop_eq_nil_of_le (by omega), List.drop_drop, List.length_append]
  simp only [List.nil_append, List.append_assoc]
  congr 4
  omega

section Files

variable {Name : Type} (fs : FileSystem Name) (file : Descriptor)

/-- The bytes are in the file, at the position of the descriptor. -/
def store (bytes : List UInt8) : FileSystem Name :=
  let node : Inode :=
    { fs.inode file.inode with content := overwrite (fs.content file.inode) file.offset bytes }
  { fs with inode := Function.update fs.inode file.inode node }

/-- The position is so many bytes further on. -/
def Descriptor.advance (count : Nat) : Descriptor := { file with offset := file.offset + count }

@[simp] theorem store_nil : store fs file [] = fs := by simp [store, overwrite, FileSystem.content]

@[simp] theorem store_entry (bytes : List UInt8) : (store fs file bytes).entry = fs.entry := rfl

@[simp] theorem store_content (bytes : List UInt8) : (store fs file bytes).content file.inode =
      overwrite (fs.content file.inode) file.offset bytes := by
  simp [store, FileSystem.content]

theorem store_append (first second : List UInt8) :
    store (store fs file first) (file.advance first.length) second =
      store fs file (first ++ second) := by
  have content := overwrite_append (fs.content file.inode) first second file.offset
  rw [← store_content fs file first] at content
  simp only [store, Descriptor.advance] at content ⊢
  rw [content]
  simp

/-! ## System calls -/

/-- At most as many bytes as the kernel is ready for are written. -/
def Descriptor.write (bytes : List UInt8) (answer : Answer) :
    FileSystem Name × Descriptor × Except Errno Nat :=
  match answer with
  | .error errno => (fs, file, .error errno)
  | .ok count =>
      let moved := bytes.take count
      (store fs file moved, file.advance moved.length, .ok moved.length)

/-- At most as many bytes as fit into the buffer are read. -/
def Descriptor.read (size : Nat) (answer : Answer) : Descriptor × Except Errno (List UInt8) :=
  match answer with
  | .error errno => (file, .error errno)
  | .ok count =>
      let moved := ((fs.content file.inode).drop file.offset).take (min count size)
      (file.advance moved.length, .ok moved)

/-- Open a file for reading, unless the kernel refuses. -/
def openRead (name : Name) (refused : Option Errno) : Except Errno Descriptor :=
  match refused, fs.entry name with
  | some errno, _ => .error errno
  | none, none => .error ENOENT
  | none, some i => .ok { inode := i, offset := 0 }

/-- An existing file becomes empty and keeps its permissions. -/
def truncate (i : Nat) : FileSystem Name :=
  let node : Inode := { fs.inode i with content := [] }
  { fs with inode := Function.update fs.inode i node }

/-- Open an empty file for writing, unless the kernel refuses. -/
def openTruncated [DecidableEq Name] (name : Name) (mode : Mode) (refused : Option Errno) :
    Except Errno (FileSystem Name × Descriptor) :=
  match refused, fs.entry name with
  | some errno, _ => .error errno
  | none, some i => .ok (truncate fs i, { inode := i, offset := 0 })
  | none, none =>
      match fs.create name mode with
      | none => .error ENOENT
      | some next => .ok (next, { inode := fs.size, offset := 0 })

/-- The file that was opened is empty. It can be opened if the kernel does not refuse. -/
theorem openTruncated_cases [DecidableEq Name] (name : Name) (mode : Mode)
    (refused : Option Errno) :
    (∃ errno, refused = some errno ∧ openTruncated fs name mode refused = .error errno) ∨
      refused = none ∧ ∃ next file, openTruncated fs name mode refused = .ok (next, file) ∧
        next.entry name = some file.inode ∧ next.content file.inode = [] ∧ file.offset = 0 := by
  cases refused with
  | some errno => exact .inl ⟨errno, rfl, rfl⟩
  | none =>
    refine .inr ⟨rfl, ?_⟩
    cases found : fs.entry name with
    | some i =>
      refine ⟨truncate fs i, { inode := i, offset := 0 }, ?_, found, ?_, rfl⟩
      · simp only [openTruncated, found]
      · simp [truncate, FileSystem.content]
    | none =>
      obtain ⟨next, created⟩ : ∃ next, fs.create name mode = some next :=
        ⟨_, by rw [FileSystem.create, if_pos found]⟩
      obtain ⟨-, entry, content, -⟩ := FileSystem.create_inv created
      refine ⟨next, { inode := fs.size, offset := 0 }, ?_, ?_, ?_, rfl⟩
      · simp only [openTruncated, found, created]
      · rw [entry, Function.update_self]
      · rw [content, Function.update_self]

end Files

/-! ## Answers -/

/-- The answer is no obstacle: bytes are transferred, or the call may be made again. -/
def Benign (answer : Answer) : Prop :=
  answer = .error EINTR ∨ ∃ count, 0 < count ∧ answer = .ok count

theorem benign_ok_iff {count : Nat} : Benign (.ok count) ↔ 0 < count := by simp [Benign]

theorem benign_error_iff {errno : Errno} : Benign (.error errno) ↔ errno = EINTR := by simp [Benign]

/-- Every sequence of interruptions has an end. -/
def Fair (answers : Nat → Answer) : Prop :=
  ∀ calls, ∃ later, calls ≤ later ∧ answers later ≠ .error EINTR

/-- The bytes that the kernel is ready for in the first calls. -/
def offered (answers : Nat → Answer) : Nat → Nat
  | 0 => 0
  | calls + 1 => offered answers calls + (answers calls).toOption.getD 0

variable {answers : Nat → Answer} {calls : Nat}

theorem offered_mono : Monotone (offered answers) :=
  monotone_nat_of_le_succ fun _ => Nat.le_add_right _ _

open Classical in
/-- The number of interruptions before the next other answer. -/
noncomputable def Fair.wait (fair : Fair answers) (calls : Nat) : Nat :=
  Nat.find (fair calls) - calls

open Classical in
theorem Fair.wait_lt (fair : Fair answers) (interrupted : answers calls = .error EINTR) :
    fair.wait (calls + 1) < fair.wait calls := by
  obtain ⟨behind, other⟩ := Nat.find_spec (fair calls)
  have apart : Nat.find (fair calls) ≠ calls := by
    intro same
    rw [same] at other
    exact other interrupted
  have next : Nat.find (fair (calls + 1)) ≤ Nat.find (fair calls) :=
    Nat.find_min' _ ⟨by omega, other⟩
  unfold Fair.wait
  omega

/-- A loop that makes one call in every turn has an end, if every turn that is not interrupted
leaves less to do.

Proof: what is left becomes smaller, or it stays and the number of interruptions before the next
other answer becomes smaller. -/
theorem Fair.takes {State Result : Type} {body : State → Flow State Result} (fair : Fair answers)
    (invariant : State → Prop) (post : Result → Prop) (calls left : State → Nat)
    (turn : ∀ state, invariant state →
      (∃ result, body state = .stop result ∧ post result) ∨
        ∃ next, body state = .again next ∧ invariant next ∧ calls next = calls state + 1 ∧
          (left next < left state ∨
            left next = left state ∧ answers (calls state) = .error EINTR))
    (state : State) (held : invariant state) :
    ∃ turns result, Takes body state turns result ∧ post result := by
  refine takes_of_decreasing invariant post _
    (WellFounded.prod_lex Nat.lt_wfRel.wf Nat.lt_wfRel.wf)
    (fun state => (left state, fair.wait (calls state))) ?_ state held
  intro state kept
  rcases turn state kept with ends | ⟨next, again, keeps, call, less⟩
  · exact .inl ends
  refine .inr ⟨next, again, keeps, ?_⟩
  rcases less with fewer | ⟨same, interrupted⟩
  · exact .left _ _ fewer
  · rw [same, call]
    exact .right _ (fair.wait_lt interrupted)

end Moban.Descriptors
