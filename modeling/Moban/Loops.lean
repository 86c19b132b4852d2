import Mathlib

/-!
# Loops

The body of a loop either goes on with another state or ends the loop with a result. A loop that
is run for a limited number of turns may not have ended yet. A loop that ends does so after a
certain number of turns, and more turns change nothing.

Every loop has an end if each turn keeps an invariant and makes something smaller in a
well-founded order.
-/

namespace Moban.Loops

universe u v w
variable {State : Type u} {Result : Type v}

/-- What the body of a loop does. -/
inductive Flow (State : Type u) (Result : Type v) where
  | again (next : State)
  | stop (result : Result)
deriving DecidableEq

/-- The result of the loop, if it has ended within so many turns. -/
def run (body : State → Flow State Result) : Nat → State → Option Result
  | 0, _ => none
  | fuel + 1, state =>
      match body state with
      | .again next => run body fuel next
      | .stop result => some result

/-- The loop goes on for so many turns, and the next one ends it. -/
inductive Takes (body : State → Flow State Result) : State → Nat → Result → Prop where
  | stop {state : State} {result : Result} (ends : body state = .stop result) :
      Takes body state 0 result
  | again {state next : State} {result : Result} {turns : Nat}
      (continues : body state = .again next) (rest : Takes body next turns result) :
      Takes body state (turns + 1) result

variable {body : State → Flow State Result} {state : State} {result : Result} {turns fuel : Nat}

/-- More turns than it takes change nothing.

Proof: induction over the turns that are taken. -/
theorem Takes.run (takes : Takes body state turns result) (enough : turns < fuel) :
    run body fuel state = some result := by
  induction takes generalizing fuel with
  | stop ends =>
    obtain ⟨less, rfl⟩ := Nat.exists_eq_succ_of_ne_zero (Nat.ne_of_gt enough)
    rw [Nat.succ_eq_add_one, Loops.run, ends]
  | again continues _ ih =>
    obtain ⟨less, rfl⟩ := Nat.exists_eq_succ_of_ne_zero (Nat.ne_zero_of_lt enough)
    rw [Nat.succ_eq_add_one, Loops.run, continues]
    exact ih (Nat.lt_of_succ_lt_succ enough)

/-- A loop has an end, and what holds there, if its turns keep an invariant and something becomes
smaller.

Proof: well-founded induction over what becomes smaller. -/
theorem takes_of_decreasing {Measure : Type w} (invariant : State → Prop) (post : Result → Prop)
    (less : Measure → Measure → Prop) (founded : WellFounded less) (measure : State → Measure)
    (turn : ∀ state, invariant state →
      (∃ result, body state = .stop result ∧ post result) ∨
        ∃ next, body state = .again next ∧ invariant next ∧ less (measure next) (measure state))
    (state : State) (held : invariant state) :
    ∃ turns result, Takes body state turns result ∧ post result := by
  induction state using (InvImage.wf measure founded).induction with
  | _ state ih =>
    rcases turn state held with ⟨result, ends, holds⟩ | ⟨next, continues, kept, smaller⟩
    · exact ⟨0, result, .stop ends, holds⟩
    · obtain ⟨turns, result, rest, holds⟩ := ih next smaller kept
      exact ⟨turns + 1, result, .again continues rest, holds⟩

end Moban.Loops
