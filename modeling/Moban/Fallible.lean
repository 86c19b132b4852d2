import Mathlib

/-!
# Computations that may fail

A computation returns a value or a failure. A sequence of two succeeds when both do, and fails
with the first failure; a traversal of a list succeeds when every element does. Two options are
related when both are empty or both hold related values.
-/

namespace Moban

section Failures

variable {ε α β : Type} {first : Except ε α} {continuation : α → Except ε β}

theorem bind_eq_ok_iff {result : β} : first >>= continuation = .ok result ↔
      ∃ value, first = .ok value ∧ continuation value = .ok result := by
  cases first <;> simp [bind, Except.bind]

theorem bind_eq_error_iff {failure : ε} : first >>= continuation = .error failure ↔
      first = .error failure ∨
        ∃ value, first = .ok value ∧ continuation value = .error failure := by
  cases first <;> simp [bind, Except.bind]

end Failures

/-! ## Lists -/

section Traversal

variable {ε α β : Type} {step : α → Except ε β} {inputs : List α}

/-- A traversal that succeeds gives the result of every input at its position. -/
theorem mapM_rel {results : List β} (done : inputs.mapM step = .ok results) (position : Nat) :
    Option.Rel (fun input result => step input = .ok result)
      inputs[position]? results[position]? := by
  induction inputs generalizing results position with
  | nil =>
    cases done
    exact .none
  | cons first rest ih =>
    rw [List.mapM_cons] at done
    obtain ⟨result, here, following⟩ := bind_eq_ok_iff.mp done
    obtain ⟨others, remaining, same⟩ := bind_eq_ok_iff.mp following
    cases same
    cases position with
    | zero => exact .some here
    | succ position => exact ih remaining position

theorem mapM_succeeds (each : ∀ input ∈ inputs, ∃ result, step input = .ok result) :
    ∃ results, inputs.mapM step = .ok results := by
  induction inputs with
  | nil => exact ⟨[], rfl⟩
  | cons first rest ih =>
    rw [List.forall_mem_cons] at each
    obtain ⟨result, here⟩ := each.1
    obtain ⟨results, remaining⟩ := ih each.2
    refine ⟨result :: results, ?_⟩
    rw [List.mapM_cons, here, remaining]
    rfl

/-- A traversal fails with the failure of an input. -/
theorem mapM_error {failure : ε} (failed : inputs.mapM step = .error failure) :
    ∃ input ∈ inputs, step input = .error failure := by
  induction inputs with
  | nil => cases failed
  | cons first rest ih =>
    rw [List.mapM_cons] at failed
    rcases bind_eq_error_iff.mp failed with here | ⟨_, _, following⟩
    · exact ⟨first, List.mem_cons_self, here⟩
    · rcases bind_eq_error_iff.mp following with later | ⟨_, _, made⟩
      · obtain ⟨input, member, there⟩ := ih later
        exact ⟨input, List.mem_cons_of_mem _ member, there⟩
      · cases made

end Traversal

/-! ## Options -/

section Relations

variable {α β γ δ : Type} {relation : α → β → Prop} {left : Option α} {right : Option β}

/-- Related options stay related through related continuations. -/
theorem rel_bind {result : γ → δ → Prop} {first : α → Option γ} {second : β → Option δ}
    (related : Option.Rel relation left right)
    (continued : ∀ a b, relation a b → Option.Rel result (first a) (second b)) :
    Option.Rel result (left.bind first) (right.bind second) := by
  cases related with
  | none => exact .none
  | some holds => exact continued _ _ holds

theorem rel_mono {weaker : α → β → Prop} (related : Option.Rel relation left right)
    (implied : ∀ a b, relation a b → weaker a b) : Option.Rel weaker left right := by
  cases related with
  | none => exact .none
  | some holds => exact .some (implied _ _ holds)

theorem rel_map {result : γ → δ → Prop} {first : α → γ} {second : β → δ}
    (related : Option.Rel relation left right)
    (implied : ∀ a b, relation a b → result (first a) (second b)) :
    Option.Rel result (left.map first) (right.map second) := by
  cases related with
  | none => exact .none
  | some holds => exact .some (implied _ _ holds)

theorem rel_map_eq {first : α → γ} {second : β → γ} (related : Option.Rel relation left right)
    (same : ∀ a b, relation a b → first a = second b) : left.map first = right.map second := by
  cases related with
  | none => rfl
  | some holds => exact congrArg some (same _ _ holds)

end Relations

end Moban
