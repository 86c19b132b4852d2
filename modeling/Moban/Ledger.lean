import Mathlib

/-!
# Ledgers of resources

A ledger lists what was acquired and what was released, in order. It is accounted for if at most
one resource is held at any time, only what is held is released, and in the end everything that
was acquired has been released exactly once.
-/

namespace Moban.Ledger

universe u
variable {α : Type u}

inductive Posting (α : Type u) where
  | acquired (resource : α)
  | released (resource : α)
deriving DecidableEq

def Posting.acquired? : Posting α → Option α
  | .acquired resource => some resource
  | .released _ => none

def Posting.released? : Posting α → Option α
  | .acquired _ => none
  | .released resource => some resource

def acquired (entries : List (Posting α)) : List α := entries.filterMap Posting.acquired?

def released (entries : List (Posting α)) : List α := entries.filterMap Posting.released?

/-- Only what was acquired and not released yet is released. -/
def Owned (entries : List (Posting α)) : Prop :=
  ∀ before, before <+: entries → (released before).Subperm (acquired before)

/-- At most one resource is held at any time. -/
def Single (entries : List (Posting α)) : Prop :=
  ∀ before, before <+: entries → (acquired before).length ≤ (released before).length + 1

/-- At most one resource is held at any time, and each is released exactly once. -/
structure Accounted (entries : List (Posting α)) : Prop where
  owned : Owned entries
  single : Single entries
  once : (released entries).Perm (acquired entries)

section Append

variable (entries more : List (Posting α)) (resource : α) (resources : List α)

@[simp] theorem acquired_nil : acquired ([] : List (Posting α)) = [] := rfl

@[simp] theorem released_nil : released ([] : List (Posting α)) = [] := rfl

@[simp] theorem acquired_append : acquired (entries ++ more) = acquired entries ++ acquired more :=
  List.filterMap_append

@[simp] theorem released_append : released (entries ++ more) = released entries ++ released more :=
  List.filterMap_append

@[simp] theorem acquired_acquired :
    acquired (.acquired resource :: more) = resource :: acquired more := rfl

@[simp] theorem released_acquired : released (.acquired resource :: more) = released more := rfl

@[simp] theorem acquired_released : acquired (.released resource :: more) = acquired more := rfl

@[simp] theorem released_released :
    released (.released resource :: more) = resource :: released more := rfl

@[simp] theorem acquired_map_released : acquired (resources.map Posting.released) = [] := by
  simp [acquired, List.filterMap_map, Function.comp_def, Posting.acquired?]

@[simp] theorem released_map_released : released (resources.map Posting.released) = resources := by
  simp [released, List.filterMap_map, Function.comp_def, Posting.released?]

end Append

variable {entries : List (Posting α)} {resource : α} {held : List α}

theorem owned_nil : Owned ([] : List (Posting α)) := by
  intro before part
  rw [List.prefix_nil.mp part]
  exact List.Subperm.refl _

theorem accounted_nil : Accounted ([] : List (Posting α)) := by
  refine ⟨owned_nil, ?_, List.Perm.refl _⟩
  intro before part
  simp [List.prefix_nil.mp part]

theorem Owned.acquire (owned : Owned entries) : Owned (entries ++ [.acquired resource]) := by
  intro before part
  rcases List.prefix_concat_iff.mp part with rfl | earlier
  · have now : (released entries).Subperm (acquired entries) := owned entries (List.prefix_refl _)
    simpa using now.trans (List.sublist_append_left _ [resource]).subperm
  · exact owned before earlier

/-- What is held may be released.

Proof: induction over what is held, from the last that is released back. -/
theorem Owned.release (owned : Owned entries)
    (holds : (released entries ++ held).Subperm (acquired entries)) :
    Owned (entries ++ held.map Posting.released) := by
  induction held using List.reverseRecOn with
  | nil => simpa using owned
  | append_singleton others last ih =>
    have fewer : (released entries ++ others).Subperm (acquired entries) := by
      refine List.Subperm.trans ?_ holds
      rw [← List.append_assoc]
      exact (List.sublist_append_left _ _).subperm
    rw [List.map_append, ← List.append_assoc]
    intro before part
    rcases List.prefix_concat_iff.mp part with rfl | earlier
    · simpa using holds
    · exact ih fewer before earlier

/-- Acquiring one more resource and releasing it changes nothing. -/
theorem accounted_cycle :
    Accounted (entries ++ [.acquired resource, .released resource]) ↔ Accounted entries := by
  constructor
  · intro accounted
    refine ⟨fun before part => accounted.owned before (part.trans (List.prefix_append _ _)),
      fun before part => accounted.single before (part.trans (List.prefix_append _ _)), ?_⟩
    have once := accounted.once
    simp only [released_append, released_acquired, released_released, released_nil,
      acquired_append, acquired_acquired, acquired_released, acquired_nil] at once
    exact (List.perm_append_right_iff [resource]).mp once
  · intro accounted
    have once : (released entries ++ [resource]).Perm (acquired entries ++ [resource]) :=
      accounted.once.append_right [resource]
    have length := accounted.once.length_eq
    have split : entries ++ [.acquired resource, .released resource] =
        (entries ++ [.acquired resource]) ++ [resource].map Posting.released := by simp
    refine ⟨?_, ?_, by simpa using once⟩
    · rw [split]
      exact accounted.owned.acquire.release (by simpa using once.subperm)
    · intro before part
      rw [split] at part
      rcases List.prefix_concat_iff.mp part with rfl | earlier
      · simp [length]
      · rcases List.prefix_concat_iff.mp earlier with rfl | within
        · simp [length]
        · exact accounted.single before within

/-- While something is held, nothing else may be acquired. -/
theorem not_accounted_of_second (holds : (released entries).length < (acquired entries).length)
    (resource : α) (more : List (Posting α)) :
    ¬ Accounted (entries ++ .acquired resource :: more) := by
  intro accounted
  have second := accounted.single (entries ++ [.acquired resource]) (by simp)
  simp at second
  omega

/-- What was acquired and is not released in the end is not accounted for. -/
theorem not_accounted_of_lost (lost : (released entries).length < (acquired entries).length) :
    ¬ Accounted entries := by
  intro accounted
  have same := accounted.once.length_eq
  omega

end Moban.Ledger
