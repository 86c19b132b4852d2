import Mathlib

/-!
# Windows of a circular list

A list read circularly from a given place represents a queue: the values at the place and
behind it, up to the length of the queue, with the end of the list followed by its start. The
two queue operations are a write just behind the window and a move of its first place.
-/

namespace Moban

universe u
variable {α : Type u}

/-- The values stand in the cells one after the other, circularly from the given place. -/
structure Window (cells : List α) (front : Nat) (values : List α) : Prop where
  fits : values.length ≤ cells.length
  stands : ∀ index < values.length, cells[(front + index) % cells.length]? = values[index]?

namespace Window

theorem nil (cells : List α) (front : Nat) : Window cells front [] := ⟨by simp, by simp⟩

end Window

/-- Different offsets of less than one turn lead to different places. -/
theorem mod_add_ne {length first second : Nat} (front : Nat) (less : first < second)
    (bounded : second < length) : (front + first) % length ≠ (front + second) % length := by
  intro same
  have congruent : first ≡ second [MOD length] := Nat.ModEq.add_left_cancel' front same
  exact less.ne (congruent.eq_of_lt_of_lt (less.trans bounded) bounded)

namespace Window

variable {cells values : List α} {front : Nat} {value : α}

/-- A window that does not fill the cells grows by a write just behind it. -/
theorem push (window : Window cells front values) (space : values.length < cells.length)
    (value : α) :
    Window (cells.set ((front + values.length) % cells.length) value) front
      (values ++ [value]) := by
  refine ⟨by simpa using space, ?_⟩
  intro index bounded
  rw [List.length_append, List.length_singleton] at bounded
  rw [List.length_set]
  rcases Nat.lt_succ_iff_lt_or_eq.mp bounded with earlier | last
  · have apart := mod_add_ne front earlier space
    rw [List.getElem?_set_ne apart.symm, window.stands index earlier,
      List.getElem?_append_left earlier]
  · have inside : (front + values.length) % cells.length < cells.length :=
      Nat.mod_lt _ (by omega)
    subst last
    simp [List.getElem?_set_self inside]

/-- The first value of a window stands at its first place. -/
theorem head (window : Window cells front (value :: values)) (inside : front < cells.length) :
    cells[front]? = some value := by
  simpa [Nat.mod_eq_of_lt inside] using window.stands 0 (by simp)

/-- A window shrinks by a move of its first place. -/
theorem pop (window : Window cells front (value :: values)) :
    Window cells ((front + 1) % cells.length) values := by
  have fits := window.fits
  rw [List.length_cons] at fits
  refine ⟨by omega, ?_⟩
  intro index bounded
  have stands := window.stands (index + 1) (by simpa using bounded)
  rw [Nat.mod_add_mod, Nat.add_assoc, Nat.add_comm 1 index]
  simpa using stands

end Window

end Moban
