import Mathlib

/-!
# Tables changed at one place

A table is a partial function, a family of queues, or a list. After a change at one place, what is
found elsewhere was there before, and a sum over a list has changed by the difference of the two
entries.
-/

namespace Moban

/-! ## Partial functions -/

section Functions

variable {Key α : Type} [DecidableEq Key] {table : Key → Option α} {key other : Key}
  {value found : α}

/-- An entry of an updated table is the new one or an earlier one. -/
theorem update_inv (present : Function.update table key (some value) other = some found) :
    (other = key ∧ found = value) ∨ (other ≠ key ∧ table other = some found) := by
  by_cases same : other = key
  · rw [same, Function.update_self] at present
    exact .inl ⟨same, (Option.some.inj present).symm⟩
  · rw [Function.update_of_ne same] at present
    exact .inr ⟨same, present⟩

/-- An entry that is left after a removal was there before. -/
theorem update_none_inv (present : Function.update table key none other = some found) :
    table other = some found := by
  by_cases same : other = key
  · rw [same, Function.update_self] at present
    cases present
  · rwa [Function.update_of_ne same] at present

end Functions

/-! ## Queues -/

section Queues

variable {Key α : Type} [DecidableEq Key] {queues : Key → List α} {key other : Key}
  {entry value first : α} {rest : List α}

/-- An entry of a queue that was appended to is the new one or an earlier one. -/
theorem mem_update_snoc
    (member : entry ∈ Function.update queues key (queues key ++ [value]) other) :
    entry ∈ queues other ∨ other = key ∧ entry = value := by
  by_cases same : other = key
  · subst same
    rw [Function.update_self, List.mem_append, List.mem_singleton] at member
    exact member.imp_right fun new => ⟨rfl, new⟩
  · rw [Function.update_of_ne same] at member
    exact .inl member

/-- What is left after the first entry was taken was there before. -/
theorem mem_update_tail (taken : queues key = first :: rest)
    (member : entry ∈ Function.update queues key rest other) : entry ∈ queues other := by
  by_cases same : other = key
  · subst same
    rw [Function.update_self] at member
    rw [taken]
    exact List.mem_cons_of_mem _ member
  · rwa [Function.update_of_ne same] at member

end Queues

/-! ## Lists -/

section Lists

variable {α : Type} {list : List α} {index other : Nat} {new entry : α}

theorem getElem?_set_inv (found : (list.set index new)[other]? = some entry) :
    (other = index ∧ entry = new) ∨ (other ≠ index ∧ list[other]? = some entry) := by
  by_cases same : other = index
  · rw [same, List.getElem?_set, if_pos rfl] at found
    split_ifs at found
    cases found
    exact .inl ⟨same, rfl⟩
  · rw [List.getElem?_set_ne (Ne.symm same)] at found
    exact .inr ⟨same, found⟩

theorem getElem?_set_found {old : α} (found : list[index]? = some old) (new : α) :
    (list.set index new)[index]? = some new := by
  obtain ⟨bound, _⟩ := List.getElem?_eq_some_iff.mp found
  rw [List.getElem?_set_self bound]

/-- A change that a view does not see leaves the views of all entries alone. -/
theorem map_modify_same {β : Type} (view : α → β) {change : α → α}
    (same : ∀ entry, view (change entry) = view entry) (list : List α) (index : Nat) :
    (list.modify index change).map view = list.map view := by
  apply List.ext_getElem?
  intro place
  simp only [List.getElem?_map, List.getElem?_modify]
  cases list[place]? with
  | none => rfl
  | some entry =>
    by_cases here : index = place
    · simp [here, same]
    · simp [here]

/-- Replacing an entry by one that looks the same leaves the views of all entries alone. -/
theorem map_set_same {β : Type} (view : α → β) {old : α} (found : list[index]? = some old)
    (same : view new = view old) : (list.set index new).map view = list.map view := by
  apply List.ext_getElem?
  intro place
  by_cases here : index = place
  · subst here
    rw [List.getElem?_map, List.getElem?_map, getElem?_set_found found, found]
    exact congrArg some same
  · rw [List.getElem?_map, List.getElem?_map, List.getElem?_set_ne here]

/-- A change that adds to what one entry contributes adds to what all contribute. -/
theorem flatMap_modify_perm {β : Type} (view : α → List β) {change : α → α} {more : List β}
    (found : list[index]? = some entry) (grows : view (change entry) = view entry ++ more) :
    ((list.modify index change).flatMap view).Perm (list.flatMap view ++ more) := by
  induction list generalizing index with
  | nil => simp at found
  | cons first rest ih =>
    cases index with
    | zero =>
      obtain rfl : first = entry := by simpa using found
      rw [List.modify_zero_cons, List.flatMap_cons, List.flatMap_cons, grows, List.append_assoc,
        List.append_assoc]
      exact List.perm_append_comm.append_left _
    | succ index =>
      rw [List.modify_succ_cons, List.flatMap_cons, List.flatMap_cons, List.append_assoc]
      exact (ih (by simpa using found)).append_left _

theorem modify_snoc (list : List α) (new : α) (operation : α → α) :
    (list ++ [new]).modify list.length operation = list ++ [operation new] := by
  induction list with
  | nil => rfl
  | cons head tail ih => exact congrArg (head :: ·) ih

/-- A new entry is added at the end and changed at once. -/
theorem getElem?_snoc_modify (list : List α) (new : α) (operation : α → α) (index : Nat) :
    ((list ++ [new]).modify list.length operation)[index]? =
      if index = list.length then some (operation new) else list[index]? := by
  rw [modify_snoc]
  by_cases last : index = list.length
  · simp [last]
  · rw [if_neg last]
    by_cases bound : index < list.length
    · rw [List.getElem?_append_left bound]
    · rw [List.getElem?_eq_none (by simp; omega), List.getElem?_eq_none (by omega)]

/-- The sum over a list changes with the replaced entry. -/
theorem sum_map_set (rank : α → Nat) {old : α} (found : list[index]? = some old) (new : α) :
    ((list.set index new).map rank).sum + rank old = (list.map rank).sum + rank new := by
  induction list generalizing index with
  | nil => cases found
  | cons first rest ih =>
    cases index with
    | zero =>
      cases found
      simp only [List.set_cons_zero, List.map_cons, List.sum_cons]
      omega
    | succ index =>
      have later := ih found
      simp only [List.set_cons_succ, List.map_cons, List.sum_cons]
      omega

end Lists

end Moban
