import Moban.TimerQueue

/-!
# Where live timers are

Every live timer is in exactly one place: it is queued in both sets, or it stands
outside them, either created and not yet added or in the batch being dispatched. The
addresses outside are one list, so an operation moves one address between the two
places, changes a timer that is outside, or removes one.
-/

namespace Moban

open OrderedSets Function

namespace TimerQueue

@[simp] theorem entry_time (time : Int) (address : Nat) :
    Entry.time (toLex (time, address)) = time := rfl

@[simp] theorem entry_timer (time : Int) (address : Nat) :
    Entry.timer (toLex (time, address)) = address := rfl

theorem entry_eq (entry : Entry) : entry = toLex (Entry.time entry, Entry.timer entry) := rfl

theorem pair_eq {α β : Type} (first second : α) (left right : β) :
    toLex (first, left) = toLex (second, right) ↔ first = second ∧ left = right :=
  Prod.mk.injEq first left second right ▸ toLex.injective.eq_iff

/-- The two sets hold the same timers, under their current expiration and sequence
number, and the listed addresses are exactly the live timers in neither set. -/
structure Shape (heap : Nat → Option Timer) (timers : OrderedSet Entry)
    (activeTimers : OrderedSet ActiveTimer) (outside : List Nat) : Prop where
  bounded : ∀ address timer, heap address = some timer → address < UINTPTR_MAX
  keyed : ∀ time address, toLex (time, address) ∈ timers →
    ∃ timer, heap address = some timer ∧ timer.expiration = time
  active : ∀ address sequence, toLex (address, sequence) ∈ activeTimers ↔
    ∃ timer, heap address = some timer ∧ timer.sequence = sequence ∧
      toLex (timer.expiration, address) ∈ timers
  sizes : timers.size = activeTimers.size
  nodup : outside.Nodup
  places : ∀ address, address ∈ outside ↔
    (∃ timer, heap address = some timer) ∧ ∀ time, toLex (time, address) ∉ timers

namespace Shape

variable {heap : Nat → Option Timer} {timers : OrderedSet Entry}
  {activeTimers : OrderedSet ActiveTimer} {outside : List Nat} {address : Nat} {timer : Timer}

/-- Only the listed addresses matter, not their order. -/
theorem perm {other : List Nat} (shape : Shape heap timers activeTimers outside)
    (same : outside.Perm other) : Shape heap timers activeTimers other where
  bounded := shape.bounded
  keyed := shape.keyed
  active := shape.active
  sizes := shape.sizes
  nodup := same.nodup_iff.mp shape.nodup
  places address := same.mem_iff.symm.trans (shape.places address)

/-- A timer outside the sets is absent from both of them. -/
theorem absent (shape : Shape heap timers activeTimers outside) (member : address ∈ outside)
    (sequence : Int) : toLex (address, sequence) ∉ activeTimers := by
  intro present
  obtain ⟨_, _, _, queued⟩ := (shape.active address sequence).mp present
  exact ((shape.places address).mp member).2 _ queued

/-- What is stored at an address that is in neither set may change. The address is listed exactly
if a timer is stored there. -/
theorem overwrite {listed : List Nat} {stored : Option Timer}
    (shape : Shape heap timers activeTimers outside)
    (unqueued : ∀ time, toLex (time, address) ∉ timers)
    (below : stored.isSome = true → address < UINTPTR_MAX) (nodup : listed.Nodup)
    (places : ∀ other, other ∈ listed ↔
      (other = address ∧ stored.isSome = true) ∨ (other ≠ address ∧ other ∈ outside)) :
    Shape (update heap address stored) timers activeTimers listed := by
  refine ⟨?_, ?_, ?_, shape.sizes, nodup, ?_⟩
  · intro other object live
    by_cases same : other = address
    · rw [same, update_self] at live
      exact same ▸ below (by rw [live]; rfl)
    · rw [update_of_ne same] at live
      exact shape.bounded other object live
  · intro time other queued
    have different : other ≠ address := fun same => unqueued time (same ▸ queued)
    rw [update_of_ne different]
    exact shape.keyed time other queued
  · intro other sequence
    by_cases same : other = address
    · subst same
      constructor
      · intro present
        obtain ⟨_, _, _, queued⟩ := (shape.active other sequence).mp present
        exact absurd queued (unqueued _)
      · rintro ⟨_, _, _, queued⟩
        exact absurd queued (unqueued _)
    · rw [update_of_ne same]
      exact shape.active other sequence
  · intro other
    rw [places]
    by_cases same : other = address
    · subst same
      simp [Option.isSome_iff_exists, unqueued]
    · rw [update_of_ne same, ← shape.places other]
      simp [same]

/-- A newly allocated timer stands outside the sets. -/
theorem create (shape : Shape heap timers activeTimers outside) (free : heap address = none)
    (below : address < UINTPTR_MAX) (timer : Timer) :
    Shape (update heap address (some timer)) timers activeTimers
      (address :: outside) := by
  refine shape.overwrite ?_ (fun _ => below) (List.nodup_cons.mpr ⟨?_, shape.nodup⟩) ?_
  · intro time queued
    obtain ⟨_, live, _⟩ := shape.keyed time address queued
    rw [free] at live
    cases live
  · intro member
    obtain ⟨⟨_, live⟩, _⟩ := (shape.places address).mp member
    rw [free] at live
    cases live
  · intro other
    by_cases same : other = address <;> simp [same]

/-- Inserting a timer from outside puts it into both sets. -/
theorem enqueue (shape : Shape heap timers activeTimers outside) (member : address ∈ outside)
    (live : heap address = some timer) :
    Shape heap (timers.insert (toLex (timer.expiration, address)))
      (activeTimers.insert (toLex (address, timer.sequence))) (outside.erase address) := by
  have unqueued := ((shape.places address).mp member).2
  refine ⟨shape.bounded, ?_, ?_, ?_, shape.nodup.erase _, ?_⟩
  · intro time other queued
    rcases (OrderedSet.mem_insert _ _ _).mp queued with same | old
    · obtain ⟨rfl, rfl⟩ := (pair_eq _ _ _ _).mp same
      exact ⟨timer, live, rfl⟩
    · exact shape.keyed time other old
  · intro other sequence
    rw [OrderedSet.mem_insert, shape.active other sequence, pair_eq]
    constructor
    · rintro (⟨rfl, rfl⟩ | ⟨object, found, numbered, queued⟩)
      · exact ⟨timer, live, rfl, (OrderedSet.mem_insert _ _ _).mpr (Or.inl rfl)⟩
      · exact ⟨object, found, numbered, (OrderedSet.mem_insert _ _ _).mpr (Or.inr queued)⟩
    · rintro ⟨object, found, numbered, queued⟩
      rcases (OrderedSet.mem_insert _ _ _).mp queued with same | old
      · obtain ⟨_, rfl⟩ := (pair_eq _ _ _ _).mp same
        rw [live] at found
        cases found
        exact Or.inl ⟨rfl, numbered.symm⟩
      · exact Or.inr ⟨object, found, numbered, old⟩
  · rw [OrderedSet.size_insert _ _ (unqueued _),
      OrderedSet.size_insert _ _ (shape.absent member _), shape.sizes]
  · intro other
    rw [shape.nodup.mem_erase_iff, shape.places other]
    constructor
    · rintro ⟨different, found, outside⟩
      refine ⟨found, ?_⟩
      intro time queued
      rcases (OrderedSet.mem_insert _ _ _).mp queued with same | old
      · exact different ((pair_eq _ _ _ _).mp same).2
      · exact outside time old
    · rintro ⟨found, outside⟩
      refine ⟨?_, found, ?_⟩
      · rintro rfl
        exact outside timer.expiration ((OrderedSet.mem_insert _ _ _).mpr (Or.inl rfl))
      · intro time queued
        exact outside time ((OrderedSet.mem_insert _ _ _).mpr (Or.inr queued))

/-- A timer outside the sets may change its expiration in place. -/
theorem restart (shape : Shape heap timers activeTimers outside) (member : address ∈ outside)
    (live : heap address = some timer) (restarted : Timer) :
    Shape (update heap address (some restarted)) timers activeTimers outside := by
  refine shape.overwrite ((shape.places address).mp member).2
    (fun _ => shape.bounded address timer live) shape.nodup ?_
  intro other
  by_cases same : other = address <;> simp [same, member]

/-- Deleting a timer outside the sets forgets its address. -/
theorem delete (shape : Shape heap timers activeTimers outside) (member : address ∈ outside) :
    Shape (update heap address none) timers activeTimers (outside.erase address) := by
  refine shape.overwrite ((shape.places address).mp member).2 (by simp) (shape.nodup.erase _) ?_
  intro other
  rw [shape.nodup.mem_erase_iff]
  simp

/-- Cancelling a queued timer takes it out of both sets and deletes it. -/
theorem cancel (shape : Shape heap timers activeTimers outside) (live : heap address = some timer)
    (queued : toLex (timer.expiration, address) ∈ timers) :
    Shape (update heap address none)
      (timers.erase (toLex (timer.expiration, address)))
      (activeTimers.erase (toLex (address, timer.sequence))) outside := by
  have present : toLex (address, timer.sequence) ∈ activeTimers :=
    (shape.active _ _).mpr ⟨timer, live, rfl, queued⟩
  -- A queued entry at this address carries the current expiration.
  have only : ∀ time, toLex (time, address) ∈ timers → time = timer.expiration := by
    intro time other
    obtain ⟨object, found, rfl⟩ := shape.keyed time address other
    rw [live] at found
    cases found
    rfl
  refine ⟨?_, ?_, ?_, ?_, shape.nodup, ?_⟩
  · intro other object found
    have different : other ≠ address := by
      rintro rfl
      simp at found
    rw [update_of_ne different] at found
    exact shape.bounded other object found
  · intro time other kept
    obtain ⟨changed, old⟩ := (OrderedSet.mem_erase _ _ _).mp kept
    have different : other ≠ address := by
      rintro rfl
      exact changed ((pair_eq _ _ _ _).mpr ⟨only time old, rfl⟩)
    rw [update_of_ne different]
    exact shape.keyed time other old
  · intro other sequence
    rw [OrderedSet.mem_erase, Ne, pair_eq]
    by_cases same : other = address
    · subst same
      simp only [update_self, reduceCtorEq, false_and, exists_false, iff_false]
      rintro ⟨changed, old⟩
      obtain ⟨object, found, rfl, _⟩ := (shape.active other sequence).mp old
      rw [live] at found
      cases found
      exact changed ⟨trivial, rfl⟩
    · rw [update_of_ne same, shape.active other sequence]
      constructor
      · rintro ⟨_, object, found, numbered, old⟩
        exact ⟨object, found, numbered, (OrderedSet.mem_erase _ _ _).mpr
          ⟨fun equal => same ((pair_eq _ _ _ _).mp equal).2, old⟩⟩
      · rintro ⟨object, found, numbered, kept⟩
        exact ⟨fun equal => same equal.1, object, found, numbered,
          ((OrderedSet.mem_erase _ _ _).mp kept).2⟩
  · have fewer := OrderedSet.size_erase _ _ queued
    have less := OrderedSet.size_erase _ _ present
    have sizes := shape.sizes
    omega
  · intro other
    rw [shape.places other]
    by_cases same : other = address
    · subst same
      simp only [update_self, reduceCtorEq, exists_false, false_and, iff_false]
      rintro ⟨_, unqueued⟩
      exact unqueued _ queued
    · rw [update_of_ne same]
      constructor
      · rintro ⟨found, unqueued⟩
        exact ⟨found, fun time kept => unqueued time ((OrderedSet.mem_erase _ _ _).mp kept).2⟩
      · rintro ⟨found, unqueued⟩
        refine ⟨found, fun time old => unqueued time ((OrderedSet.mem_erase _ _ _).mpr ⟨?_, old⟩)⟩
        exact fun equal => same ((pair_eq _ _ _ _).mp equal).2

/-- Distinct queued entries have distinct addresses. -/
theorem addresses (shape : Shape heap timers activeTimers outside) (entries : List Entry)
    (queued : ∀ entry ∈ entries, entry ∈ timers) (nodup : entries.Nodup) :
    (entries.map Entry.timer).Nodup := by
  refine List.Nodup.map_on ?_ nodup
  intro first left second right same
  obtain ⟨timer, live, time⟩ :=
    shape.keyed (Entry.time first) (Entry.timer first) (queued first left)
  obtain ⟨object, found, when⟩ :=
    shape.keyed (Entry.time second) (Entry.timer second) (queued second right)
  rw [← same, live] at found
  cases found
  rw [entry_eq first, entry_eq second, same, ← time, ← when]

/-- The timers below a bound are those whose own entry is below it. -/
theorem below_iff (shape : Shape heap timers activeTimers outside) (bound : Entry) :
    address ∈ (timers.below bound).map Entry.timer ↔
      ∃ timer, heap address = some timer ∧ toLex (timer.expiration, address) ∈ timers ∧
        toLex (timer.expiration, address) < bound := by
  constructor
  · intro member
    obtain ⟨entry, expired, rfl⟩ := List.mem_map.mp member
    obtain ⟨queued, below⟩ := (OrderedSet.mem_below _ _ _).mp expired
    obtain ⟨timer, live, same⟩ := shape.keyed (Entry.time entry) (Entry.timer entry) queued
    exact ⟨timer, live, same ▸ queued, same ▸ below⟩
  · rintro ⟨timer, _, queued, below⟩
    have expired := (OrderedSet.mem_below _ _ _).mpr ⟨queued, below⟩
    exact List.mem_map_of_mem (f := Entry.timer) expired

/-- When the entries below a bound leave the first set and their timers the second, these
timers stand outside. -/
theorem expire (shape : Shape heap timers activeTimers outside) (bound : Entry)
    {active : OrderedSet ActiveTimer} (sizes : (timers.cut bound).size = active.size)
    (membership : ∀ address sequence, toLex (address, sequence) ∈ active ↔
      toLex (address, sequence) ∈ activeTimers ∧
        ∀ timer, address ∈ (timers.below bound).map Entry.timer → heap address = some timer →
          timer.sequence ≠ sequence) :
    Shape heap (timers.cut bound) active
      (outside ++ (timers.below bound).map Entry.timer) := by
  have queued : ∀ entry ∈ timers.below bound, entry ∈ timers :=
    fun entry member => ((OrderedSet.mem_below _ _ _).mp member).1
  refine ⟨shape.bounded, ?_, ?_, sizes, ?_, ?_⟩
  · intro time address kept
    exact shape.keyed time address ((OrderedSet.mem_cut _ _ _).mp kept).1
  · intro address sequence
    rw [membership, shape.active address sequence, shape.below_iff]
    constructor
    · rintro ⟨⟨timer, live, number, old⟩, unaffected⟩
      refine ⟨timer, live, number, (OrderedSet.mem_cut _ _ _).mpr ⟨old, fun below => ?_⟩⟩
      exact unaffected timer ⟨timer, live, old, below⟩ live number
    · rintro ⟨timer, live, number, kept⟩
      obtain ⟨old, above⟩ := (OrderedSet.mem_cut _ _ _).mp kept
      refine ⟨⟨timer, live, number, old⟩, ?_⟩
      rintro object ⟨other, known, _, below⟩ _
      cases live.symm.trans known
      exact absurd below above
  · refine List.nodup_append.mpr
      ⟨shape.nodup, shape.addresses _ queued (OrderedSet.below_nodup _ _), ?_⟩
    rintro address unqueued other expired rfl
    obtain ⟨timer, _, old, _⟩ := (shape.below_iff bound).mp expired
    exact ((shape.places address).mp unqueued).2 _ old
  · intro address
    rw [List.mem_append, shape.places address, shape.below_iff]
    constructor
    · rintro (⟨live, unqueued⟩ | ⟨timer, live, _, below⟩)
      · exact ⟨live, fun time kept => unqueued time ((OrderedSet.mem_cut _ _ _).mp kept).1⟩
      · refine ⟨⟨timer, live⟩, fun time kept => ?_⟩
        obtain ⟨old, above⟩ := (OrderedSet.mem_cut _ _ _).mp kept
        obtain ⟨object, found, same⟩ := shape.keyed time address old
        cases live.symm.trans found
        exact above (same ▸ below)
    · rintro ⟨⟨timer, live⟩, unkept⟩
      by_cases expired : toLex (timer.expiration, address) ∈ timers ∧
          toLex (timer.expiration, address) < bound
      · exact Or.inr ⟨timer, live, expired⟩
      · refine Or.inl ⟨⟨timer, live⟩, fun time old => ?_⟩
        obtain ⟨object, found, same⟩ := shape.keyed time address old
        cases live.symm.trans found
        subst same
        exact unkept _ ((OrderedSet.mem_cut _ _ _).mpr ⟨old, fun below => expired ⟨old, below⟩⟩)

end Shape

end TimerQueue

end Moban
