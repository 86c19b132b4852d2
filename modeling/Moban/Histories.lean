import Mathlib

/-!
# Histories

A history lists what has happened, the latest event last. Two notions speak about the past of a
history. `Since` is the past operator of temporal logic: an event happened, and only certain
events have happened since. `Each` says of every event of the history what it found.

A development shows what the next events add to a history, and the rules below carry over what
was known of the history before.
-/

namespace Moban.Histories

universe u
variable {Event : Type u}

/-- The event happened when the history was as said, and only allowed events have happened
since. -/
def Since (Allowed : Event → Prop) (event : Event) (Before : List Event → Prop)
    (history : List Event) : Prop :=
  ∃ before after, history = before ++ event :: after ∧ (∀ later ∈ after, Allowed later) ∧
    Before before

/-- Every event of the history has found what is said of it. -/
def Each (Found : List Event → Event → Prop) (history : List Event) : Prop :=
  ∀ before event after, history = before ++ event :: after → Found before event

section Since

variable {Allowed : Event → Prop} {event : Event} {Before : List Event → Prop}
  {history more : List Event}

theorem Since.now (before : Before history) : Since Allowed event Before (history ++ [event]) :=
  ⟨history, [], rfl, by simp, before⟩

/-- Allowed events change nothing. -/
theorem Since.append (since : Since Allowed event Before history)
    (allowed : ∀ later ∈ more, Allowed later) : Since Allowed event Before (history ++ more) := by
  obtain ⟨before, after, rfl, between, held⟩ := since
  refine ⟨before, after ++ more, by simp, ?_, held⟩
  intro later member
  rcases List.mem_append.mp member with old | new
  · exact between later old
  · exact allowed later new

end Since

section Each

variable {Found : List Event → Event → Prop} {history more : List Event} {event : Event}

theorem each_nil : Each Found [] := by
  intro before event after split
  simp at split

theorem Each.snoc (each : Each Found history) (found : Found history event) :
    Each Found (history ++ [event]) := by
  intro before other after split
  rcases List.eq_nil_or_concat after with rfl | ⟨others, last, rfl⟩
  · obtain ⟨rfl, same⟩ := List.append_inj' split rfl
    cases same
    exact found
  · have longer : history ++ [event] = (before ++ other :: others) ++ [last] := by simpa using split
    exact each before other others (List.append_inj' longer rfl).1

/-- Events of which nothing is said may always happen.

Proof: induction over the new events, from the latest one back. -/
theorem Each.append (each : Each Found history)
    (found : ∀ event ∈ more, ∀ before, Found before event) : Each Found (history ++ more) := by
  induction more using List.reverseRecOn with
  | nil => simpa using each
  | append_singleton earlier last ih =>
    have known : Each Found (history ++ earlier) :=
      ih fun event member => found event (List.mem_append_left _ member)
    rw [← List.append_assoc]
    exact known.snoc (found last (by simp) _)

end Each

end Moban.Histories
