import Mathlib

/-!
# Ranges of a flat store

A flat store is a list of cells. Consecutive stores and an element-by-element
forward move are the two ways of copying a range; the move reads the store that
its own earlier writes have already changed. When the target starts no later than
the source, the overlapping move still delivers the original range.

The laws describe the half-open range between two positions after each copy. They
require the touched range to lie inside the store; a position outside it is never
repaired here.
-/

namespace Moban.Slices

universe u
variable {α : Type u}

/-- The cells from one position up to, and excluding, another. -/
def slice (cells : List α) (start stop : Nat) : List α :=
  (cells.drop start).take (stop - start)

/-- Write the values to consecutive cells, first value first. -/
def store (cells : List α) (position : Nat) : List α → List α
  | [] => cells
  | value :: rest => store (cells.set position value) (position + 1) rest

/-- Copy cells forward one at a time. Every read sees the earlier writes. -/
def move (cells : List α) (source target : Nat) : Nat → List α
  | 0 => cells
  | count + 1 =>
      move ((cells[source]?.map (cells.set target)).getD cells) (source + 1) (target + 1) count

@[simp] theorem store_length (cells : List α) (position : Nat) (values : List α) :
    (store cells position values).length = cells.length := by
  induction values generalizing cells position with
  | nil => rfl
  | cons value rest ih => simp [store, ih]

/-- One write of the forward move, when its source cell exists. -/
theorem move_succ (cells : List α) (source target count : Nat) (inside : source < cells.length) :
    move cells source target (count + 1) =
      move (cells.set target cells[source]) (source + 1) (target + 1) count := by
  simp [move, List.getElem?_eq_getElem inside]

theorem move_length (cells : List α) (source target count : Nat) :
    (move cells source target count).length = cells.length := by
  induction count generalizing cells source target with
  | zero => rfl
  | succ count ih =>
    rw [move, ih]
    cases cells[source]? <;> simp

/-- Stores change exactly their own range of cells. -/
theorem store_get (cells : List α) (position : Nat) (values : List α) (index : Nat)
    (room : position + values.length ≤ cells.length) :
    (store cells position values)[index]? =
      if position ≤ index ∧ index < position + values.length then values[index - position]?
      else cells[index]? := by
  induction values generalizing cells position with
  | nil =>
    rw [if_neg (by simp only [List.length_nil]; omega)]
    rfl
  | cons value rest ih =>
    simp only [List.length_cons] at room
    rw [store, ih _ _ (by simp only [List.length_set]; omega)]
    rcases Nat.lt_trichotomy index position with before | same | after
    · rw [if_neg (by omega), if_neg (by omega), List.getElem?_set_ne (by omega)]
    · subst same
      rw [if_neg (by omega), if_pos (by simp only [List.length_cons]; omega),
        List.getElem?_set_self (by omega)]
      simp
    · rw [List.getElem?_set_ne (by omega)]
      have shifted : index - position = (index - (position + 1)) + 1 := by omega
      rw [shifted, List.getElem?_cons_succ]
      simp only [List.length_cons]
      by_cases covered : index < position + 1 + rest.length
      · rw [if_pos (by omega), if_pos (by omega)]
      · rw [if_neg (by omega), if_neg (by omega)]

/-- A forward move onto an earlier or equal position delivers the original source
range and leaves every other cell alone.

Proof: induction on the number of remaining writes. A write at the target cannot
disturb a source cell that is still to be read, because those lie strictly later. -/
theorem move_get (cells : List α) (source target count : Nat) (index : Nat)
    (backward : target ≤ source) (room : source + count ≤ cells.length) :
    (move cells source target count)[index]? =
      if target ≤ index ∧ index < target + count then cells[index - target + source]?
      else cells[index]? := by
  induction count generalizing cells source target with
  | zero =>
    rw [if_neg (by omega)]
    rfl
  | succ count ih =>
    have inside : source < cells.length := by omega
    rw [move_succ _ _ _ _ inside,
      ih _ _ _ (by omega) (by simp only [List.length_set]; omega)]
    rcases Nat.lt_trichotomy index target with before | same | after
    · rw [if_neg (by omega), if_neg (by omega), List.getElem?_set_ne (by omega)]
    · subst same
      rw [if_neg (by omega), if_pos (by omega), List.getElem?_set_self (by omega)]
      simp [List.getElem?_eq_getElem inside]
    · by_cases covered : index < target + 1 + count
      · rw [if_pos (by omega), if_pos (by omega), List.getElem?_set_ne (by omega)]
        congr 1
        omega
      · rw [if_neg (by omega), if_neg (by omega), List.getElem?_set_ne (by omega)]

theorem slice_get (cells : List α) (start stop index : Nat) : (slice cells start stop)[index]? =
      if index < stop - start then cells[start + index]? else none := by
  rw [slice, List.getElem?_take, List.getElem?_drop]

theorem slice_length (cells : List α) (start stop : Nat) (inside : stop ≤ cells.length) :
    (slice cells start stop).length = stop - start := by
  simp only [slice, List.length_take, List.length_drop]
  omega

@[simp] theorem slice_empty (cells : List α) (position : Nat) :
    slice cells position position = [] := by
  simp [slice]

/-- Dropping from the front of a range moves its start. -/
theorem slice_drop (cells : List α) (start stop count : Nat) :
    (slice cells start stop).drop count = slice cells (start + count) stop := by
  rw [slice, slice, List.drop_take, List.drop_drop, Nat.sub_sub]

/-- A shorter range is a prefix of a longer one with the same start. -/
theorem slice_take (cells : List α) (start stop count : Nat) (inside : start + count ≤ stop) :
    (slice cells start stop).take count = slice cells start (start + count) := by
  rw [slice, slice, List.take_take]
  congr 1
  omega

/-- Extending the store changes no range that was already inside it. -/
theorem slice_append (cells more : List α) (start stop : Nat) (inside : stop ≤ cells.length) :
    slice (cells ++ more) start stop = slice cells start stop := by
  apply List.ext_getElem?
  intro index
  simp only [slice_get]
  by_cases covered : index < stop - start
  · rw [if_pos covered, if_pos covered, List.getElem?_append_left (by omega)]
  · rw [if_neg covered, if_neg covered]

/-- Storing at the end of a range extends it by the stored values. -/
theorem slice_store_back (cells values : List α) (start stop : Nat) (ordered : start ≤ stop)
    (room : stop + values.length ≤ cells.length) :
    slice (store cells stop values) start (stop + values.length) =
      slice cells start stop ++ values := by
  have width : (slice cells start stop).length = stop - start :=
    slice_length cells start stop (by omega)
  apply List.ext_getElem?
  intro index
  rw [slice_get, store_get _ _ _ _ room, List.getElem?_append, width, slice_get]
  by_cases old : index < stop - start
  · rw [if_pos (by omega), if_neg (by omega), if_pos old, if_pos old]
  · by_cases fresh : index < stop + values.length - start
    · rw [if_pos fresh, if_pos (by omega), if_neg old]
      congr 1
      omega
    · rw [if_neg fresh, if_neg old, List.getElem?_eq_none (by omega)]

/-- Storing immediately before a range extends it at the front. -/
theorem slice_store_front (cells values : List α) (start stop : Nat)
    (ordered : start + values.length ≤ stop) (room : stop ≤ cells.length) :
    slice (store cells start values) start stop =
      values ++ slice cells (start + values.length) stop := by
  apply List.ext_getElem?
  intro index
  rw [slice_get, store_get _ _ _ _ (by omega), List.getElem?_append, slice_get]
  by_cases fresh : index < values.length
  · rw [if_pos (by omega), if_pos (by omega), if_pos fresh]
    congr 1
    omega
  · by_cases old : index < stop - start
    · rw [if_pos old, if_neg (by omega), if_neg fresh, if_pos (by omega)]
      congr 1
      omega
    · rw [if_neg old, if_neg fresh, if_neg (by omega)]

/-- A range moved to an earlier position reads back unchanged there. -/
theorem slice_move (cells : List α) (source target count : Nat) (backward : target ≤ source)
    (room : source + count ≤ cells.length) :
    slice (move cells source target count) target (target + count) =
      slice cells source (source + count) := by
  apply List.ext_getElem?
  intro index
  simp only [slice_get, Nat.add_sub_cancel_left]
  by_cases covered : index < count
  · rw [if_pos covered, if_pos covered, move_get _ _ _ _ _ backward room, if_pos (by omega)]
    congr 1
    omega
  · rw [if_neg covered, if_neg covered]

end Moban.Slices
