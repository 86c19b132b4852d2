import Moban.TimerPlaces

/-!
# What has happened to timers

Sequence numbers are never given twice, so a deleted timer is gone for good, a one-shot
timer that has been called waits only for its deletion, and a timer is deleted only
after its own call or a cancel of its own number. Each of these accounts is kept by
itself, with one law for every kind of step that touches it.
-/

namespace Moban

open OrderedSets Function

namespace TimerQueue

/-- Sequence numbers are given once and in order, and every live timer was created
under its own number. A timer that has been added is no longer waiting for that. -/
structure Numbering (heap : Nat → Option Timer) (numCreated : Int) (posted : List Nat)
    (log : List TimerEvent) : Prop where
  counted : 0 ≤ numCreated
  distinct : ∀ address other timer object, heap address = some timer →
    heap other = some object → timer.sequence = object.sequence → address = other
  recorded : ∀ address timer, heap address = some timer →
    .created address timer.sequence timer.repeats ∈ log
  created : ∀ address sequence repeats, .created address sequence repeats ∈ log →
    0 < sequence ∧ sequence ≤ numCreated
  createdOnce : ∀ address other sequence repeats repeated,
    .created address sequence repeats ∈ log → .created other sequence repeated ∈ log →
      address = other ∧ repeats = repeated
  added : ∀ address sequence, .added address sequence ∈ log →
    (∃ repeats, .created address sequence repeats ∈ log) ∧
      ∀ timer, heap address = some timer → timer.sequence = sequence → address ∉ posted

/-- A numbered timer is alive or has been deleted exactly once. -/
structure Deletions (heap : Nat → Option Timer) (numCreated : Int) (log : List TimerEvent) :
    Prop where
  kept : ∀ address timer, heap address = some timer →
    TimerEvent.deletions log timer.sequence = 0
  gone : ∀ sequence, 0 < sequence → sequence ≤ numCreated →
    (∀ address timer, heap address = some timer → timer.sequence ≠ sequence) →
      TimerEvent.deletions log sequence = 1
  future : ∀ sequence, numCreated < sequence → TimerEvent.deletions log sequence = 0
  past : ∀ sequence, sequence ≤ 0 → TimerEvent.deletions log sequence = 0

/-- No call is early, and a one-shot timer has been called only if it stands in the
called part of the batch. Every timer of that part has been called. -/
structure Calls (heap : Nat → Option Timer) (numCreated : Int) (log : List TimerEvent)
    (batch waiting : List Nat) : Prop where
  punctual : ∀ sequence expiration now, .ran sequence expiration now ∈ log → expiration ≤ now
  future : ∀ sequence, numCreated < sequence → TimerEvent.runs log sequence = 0
  oneShot : ∀ address sequence, .created address sequence false ∈ log →
    TimerEvent.runs log sequence ≤ 1
  fresh : ∀ address timer, heap address = some timer → timer.repeats = false →
    (address ∉ batch ∨ address ∈ waiting) → TimerEvent.runs log timer.sequence = 0
  called : ∀ address timer, heap address = some timer → address ∈ batch →
    address ∉ waiting → 0 < TimerEvent.runs log timer.sequence

/-- Every pending or executed removal has its own reason: the call of a one-shot timer
or a cancel of the same sequence number. -/
structure Causes (canceling : OrderedSet ActiveTimer) (log : List TimerEvent) : Prop where
  requested : ∀ address sequence, toLex (address, sequence) ∈ canceling →
    .cancelled ⟨address, sequence⟩ ∈ log
  justified : ∀ sequence, 0 < TimerEvent.deletions log sequence →
    (∃ address, .created address sequence false ∈ log ∧ 0 < TimerEvent.runs log sequence) ∨
      ∃ id, .cancelled id ∈ log ∧ id.sequence = sequence

section History

variable {heap : Nat → Option Timer} {numCreated : Int} {posted : List Nat}
  {canceling : OrderedSet ActiveTimer} {log : List TimerEvent} {batch waiting : List Nat}
  {address : Nat} {timer : Timer}

/-- Sequence numbers in use are positive and already counted. -/
theorem Numbering.numbered (numbering : Numbering heap numCreated posted log)
    (live : heap address = some timer) : 0 < timer.sequence ∧ timer.sequence ≤ numCreated :=
  numbering.created address _ _ (numbering.recorded address timer live)

/-- A new timer takes the next sequence number, which no earlier event mentions. -/
theorem Numbering.create (numbering : Numbering heap numCreated posted log)
    (sequence : timer.sequence = numCreated + 1) :
    Numbering (update heap address (some timer)) (numCreated + 1) (address :: posted)
      (log ++ [.created address (numCreated + 1) timer.repeats]) := by
  have counted := numbering.counted
  have unused : ∀ other repeats, .created other (numCreated + 1) repeats ∉ log := by
    intro other repeats member
    have known := numbering.created other _ repeats member
    omega
  have older : ∀ other object, heap other = some object → object.sequence ≠ timer.sequence := by
    intro other object live
    have known := numbering.numbered live
    omega
  refine ⟨by omega, ?_, ?_, ?_, ?_, ?_⟩
  · intro first second left right liveLeft liveRight equal
    rw [update_apply] at liveLeft liveRight
    split at liveLeft <;> split at liveRight
    case isTrue.isTrue atFirst atSecond => exact atFirst.trans atSecond.symm
    · cases liveLeft
      exact absurd equal.symm (older second right liveRight)
    · cases liveRight
      exact absurd equal (older first left liveLeft)
    · exact numbering.distinct first second left right liveLeft liveRight equal
  · intro other object live
    rw [update_apply] at live
    split at live
    case isTrue same =>
      cases live
      simp [same, sequence]
    · exact List.mem_append_left _ (numbering.recorded other object live)
  · intro other number repeats member
    rcases List.mem_append.mp member with old | new
    · have known := numbering.created other number repeats old
      omega
    · simp only [List.mem_singleton, TimerEvent.created.injEq] at new
      omega
  · intro first second number repeats repeated left right
    rcases List.mem_append.mp left with oldLeft | newLeft <;>
      rcases List.mem_append.mp right with oldRight | newRight
    · exact numbering.createdOnce first second number repeats repeated oldLeft oldRight
    · simp only [List.mem_singleton, TimerEvent.created.injEq] at newRight
      exact absurd (newRight.2.1 ▸ oldLeft) (unused first repeats)
    · simp only [List.mem_singleton, TimerEvent.created.injEq] at newLeft
      exact absurd (newLeft.2.1 ▸ oldRight) (unused second repeated)
    · simp only [List.mem_singleton, TimerEvent.created.injEq] at newLeft newRight
      exact ⟨newLeft.1.trans newRight.1.symm, newLeft.2.2.trans newRight.2.2.symm⟩
  · intro other number member
    have old : .added other number ∈ log := by simpa using member
    obtain ⟨⟨repeats, was⟩, outside⟩ := numbering.added other number old
    have known := numbering.created other number repeats was
    refine ⟨⟨repeats, List.mem_append_left _ was⟩, ?_⟩
    intro object live equal
    rw [update_apply] at live
    split at live
    · cases live
      omega
    case isFalse different => simpa [different] using outside object live equal

/-- Adding a posted timer records it and ends its wait. -/
theorem Numbering.add (numbering : Numbering heap numCreated posted log)
    (nodup : posted.Nodup) (live : heap address = some timer) :
    Numbering heap numCreated (posted.erase address)
      (log ++ [.added address timer.sequence]) := by
  refine ⟨numbering.counted, numbering.distinct, ?_, ?_, ?_, ?_⟩
  · intro other object found
    exact List.mem_append_left _ (numbering.recorded other object found)
  · intro other number repeats member
    exact numbering.created other number repeats (by simpa using member)
  · intro first second number repeats repeated left right
    exact numbering.createdOnce first second number repeats repeated (by simpa using left)
      (by simpa using right)
  · intro other number member
    rcases List.mem_append.mp member with old | new
    · obtain ⟨⟨repeats, was⟩, outside⟩ := numbering.added other number old
      refine ⟨⟨repeats, List.mem_append_left _ was⟩, ?_⟩
      intro object found equal posting
      exact outside object found equal (List.mem_of_mem_erase posting)
    · simp only [List.mem_singleton, TimerEvent.added.injEq] at new
      obtain ⟨rfl, rfl⟩ := new
      refine ⟨⟨_, List.mem_append_left _ (numbering.recorded _ timer live)⟩, ?_⟩
      intro object found equal posting
      exact (nodup.mem_erase_iff.mp posting).1 rfl

/-- Numbering survives a change of the heap that keeps the number and the kind of every
surviving timer. -/
theorem Numbering.survive {after : Nat → Option Timer}
    (numbering : Numbering heap numCreated posted log)
    (survives : ∀ other object, after other = some object →
      ∃ before, heap other = some before ∧ before.sequence = object.sequence ∧
        before.repeats = object.repeats) :
    Numbering after numCreated posted log := by
  refine ⟨numbering.counted, ?_, ?_, numbering.created, numbering.createdOnce, ?_⟩
  · intro first second left right liveLeft liveRight equal
    obtain ⟨before, found, number, _⟩ := survives first left liveLeft
    obtain ⟨previous, known, sequence, _⟩ := survives second right liveRight
    exact numbering.distinct first second before previous found known
      (number.trans (equal.trans sequence.symm))
  · intro other object live
    obtain ⟨before, found, number, kind⟩ := survives other object live
    rw [← number, ← kind]
    exact numbering.recorded other before found
  · intro other sequence member
    obtain ⟨was, outside⟩ := numbering.added other sequence member
    refine ⟨was, ?_⟩
    intro object live equal
    obtain ⟨before, found, number, _⟩ := survives other object live
    exact outside before found (number.trans equal)

/-- Events other than creations and additions leave the numbering alone. -/
theorem Numbering.note (numbering : Numbering heap numCreated posted log) (event : TimerEvent)
    (uncreated : ∀ other sequence repeats, event ≠ .created other sequence repeats)
    (unadded : ∀ other sequence, event ≠ .added other sequence) :
    Numbering heap numCreated posted (log ++ [event]) := by
  have creation : ∀ other sequence repeats,
      .created other sequence repeats ∈ log ++ [event] → .created other sequence repeats ∈ log := by
    intro other sequence repeats member
    rcases List.mem_append.mp member with old | new
    · exact old
    · exact absurd (List.mem_singleton.mp new).symm (uncreated other sequence repeats)
  refine ⟨numbering.counted, numbering.distinct, ?_, ?_, ?_, ?_⟩
  · intro other object live
    exact List.mem_append_left _ (numbering.recorded other object live)
  · intro other sequence repeats member
    exact numbering.created other sequence repeats (creation _ _ _ member)
  · intro first second sequence repeats repeated left right
    exact numbering.createdOnce first second sequence repeats repeated (creation _ _ _ left)
      (creation _ _ _ right)
  · intro other sequence member
    have old : .added other sequence ∈ log := by
      rcases List.mem_append.mp member with old | new
      · exact old
      · exact absurd (List.mem_singleton.mp new).symm (unadded other sequence)
    obtain ⟨⟨repeats, was⟩, outside⟩ := numbering.added other sequence old
    exact ⟨⟨repeats, List.mem_append_left _ was⟩, outside⟩

/-- Events that delete nothing leave the deletions alone. -/
theorem Deletions.note (deletions : Deletions heap numCreated log) (event : TimerEvent)
    (harmless : ∀ sequence, event.isDeletion sequence = false) :
    Deletions heap numCreated (log ++ [event]) := by
  have same : ∀ sequence, TimerEvent.deletions (log ++ [event]) sequence =
      TimerEvent.deletions log sequence := by
    intro sequence
    simp [TimerEvent.deletions_snoc, harmless]
  constructor
  · intro other object live
    rw [same]
    exact deletions.kept other object live
  · intro sequence positive bound none
    rw [same]
    exact deletions.gone sequence positive bound none
  · intro sequence beyond
    rw [same]
    exact deletions.future sequence beyond
  · intro sequence early
    rw [same]
    exact deletions.past sequence early

/-- A new timer has never been deleted. -/
theorem Deletions.create (deletions : Deletions heap numCreated log)
    (free : heap address = none) (sequence : timer.sequence = numCreated + 1) :
    Deletions (update heap address (some timer)) (numCreated + 1) log := by
  constructor
  · intro other object live
    rw [update_apply] at live
    split at live
    · cases live
      exact deletions.future _ (by omega)
    · exact deletions.kept other object live
  · intro number positive bound none
    have different : number ≠ numCreated + 1 := by
      rintro rfl
      exact none address timer (update_self _ _ _) sequence
    refine deletions.gone number positive (by omega) ?_
    intro other object live
    have occupied : other ≠ address := by
      rintro rfl
      rw [free] at live
      cases live
    exact none other object (by rw [update_of_ne occupied]; exact live)
  · intro number beyond
    exact deletions.future number (by omega)
  · exact deletions.past

/-- Restarting keeps the sequence number and therefore the account of deletions. -/
theorem Deletions.restart (deletions : Deletions heap numCreated log)
    (live : heap address = some timer) {restarted : Timer}
    (sequence : restarted.sequence = timer.sequence) :
    Deletions (update heap address (some restarted)) numCreated log := by
  constructor
  · intro other object found
    rw [update_apply] at found
    split at found
    · cases found
      rw [sequence]
      exact deletions.kept address timer live
    · exact deletions.kept other object found
  · intro number positive bound none
    refine deletions.gone number positive bound ?_
    intro other object found equal
    by_cases same : other = address
    · subst same
      rw [live] at found
      cases found
      exact none other restarted (update_self _ _ _) (sequence.trans equal)
    · exact none other object (by rw [update_of_ne same]; exact found) equal
  · exact deletions.future
  · exact deletions.past

/-- Deleting a live timer is its first and only deletion. -/
theorem Deletions.delete (deletions : Deletions heap numCreated log)
    (numbering : Numbering heap numCreated posted log) (live : heap address = some timer) :
    Deletions (update heap address none) numCreated
      (log ++ [.deleted timer.sequence]) := by
  have range := numbering.numbered live
  have other : ∀ sequence, sequence ≠ timer.sequence →
      TimerEvent.deletions (log ++ [.deleted timer.sequence]) sequence =
        TimerEvent.deletions log sequence := by
    intro sequence different
    simp [TimerEvent.deletions_snoc, TimerEvent.isDeletion, Ne.symm different]
  constructor
  · intro tested object found
    rw [update_apply] at found
    split at found
    · cases found
    case isFalse apart =>
      rw [other]
      · exact deletions.kept tested object found
      · intro equal
        exact apart (numbering.distinct tested address object timer found live equal)
  · intro sequence positive bound none
    by_cases same : sequence = timer.sequence
    · subst same
      simp [TimerEvent.deletions_snoc, TimerEvent.isDeletion, deletions.kept address timer live]
    · rw [other sequence same]
      refine deletions.gone sequence positive bound ?_
      intro tested object found equal
      have apart : tested ≠ address := by
        rintro rfl
        rw [live] at found
        cases found
        exact same equal.symm
      exact none tested object (by rw [update_of_ne apart]; exact found) equal
  · intro sequence beyond
    rw [other sequence (by omega)]
    exact deletions.future sequence beyond
  · intro sequence early
    rw [other sequence (by omega)]
    exact deletions.past sequence early

/-- Events that neither call nor create leave the calls alone. -/
theorem Calls.note (calls : Calls heap numCreated log batch waiting) (event : TimerEvent)
    (silent : ∀ sequence, event.isRun sequence = false)
    (uncreated : ∀ other sequence repeats, event ≠ .created other sequence repeats) :
    Calls heap numCreated (log ++ [event]) batch waiting := by
  have same : ∀ sequence,
      TimerEvent.runs (log ++ [event]) sequence = TimerEvent.runs log sequence := by
    intro sequence
    simp [TimerEvent.runs_snoc, silent]
  constructor
  · intro sequence expiration now member
    rcases List.mem_append.mp member with old | new
    · exact calls.punctual sequence expiration now old
    · have quiet := silent sequence
      rw [← List.mem_singleton.mp new] at quiet
      simp [TimerEvent.isRun] at quiet
  · intro sequence beyond
    rw [same]
    exact calls.future sequence beyond
  · intro other sequence member
    rw [same]
    rcases List.mem_append.mp member with old | new
    · exact calls.oneShot other sequence old
    · exact absurd (List.mem_singleton.mp new).symm (uncreated other sequence false)
  · intro other object live single place
    rw [same]
    exact calls.fresh other object live single place
  · intro other object live member left
    rw [same]
    exact calls.called other object live member left

/-- A new timer has never been called. -/
theorem Calls.create (calls : Calls heap numCreated log batch waiting) (idle : address ∉ batch)
    (sequence : timer.sequence = numCreated + 1) :
    Calls (update heap address (some timer)) (numCreated + 1)
      (log ++ [.created address (numCreated + 1) timer.repeats]) batch waiting := by
  have unused : TimerEvent.runs log (numCreated + 1) = 0 := calls.future _ (by omega)
  have same : ∀ number, TimerEvent.runs
      (log ++ [.created address (numCreated + 1) timer.repeats]) number =
        TimerEvent.runs log number := by
    intro number
    simp [TimerEvent.runs_snoc, TimerEvent.isRun]
  constructor
  · intro number expiration now member
    exact calls.punctual number expiration now (by simpa using member)
  · intro number beyond
    rw [same]
    exact calls.future number (by omega)
  · intro other number member
    rw [same]
    rcases List.mem_append.mp member with old | new
    · exact calls.oneShot other number old
    · simp only [List.mem_singleton, TimerEvent.created.injEq] at new
      rw [new.2.1, unused]
      exact Nat.zero_le _
  · intro other object live single place
    rw [same]
    rw [update_apply] at live
    split at live
    · cases live
      rw [sequence]
      exact unused
    · exact calls.fresh other object live single place
  · intro other object live member left
    rw [same]
    have apart : other ≠ address := fun equal => idle (equal ▸ member)
    rw [update_of_ne apart] at live
    exact calls.called other object live member left

/-- Removing a timer removes its obligations. -/
theorem Calls.forget (calls : Calls heap numCreated log batch waiting) :
    Calls (update heap address none) numCreated log batch waiting := by
  have before : ∀ other object, update heap address none other = some object →
      heap other = some object := by
    intro other object live
    rw [update_apply] at live
    split at live
    · cases live
    · exact live
  exact ⟨calls.punctual, calls.future, calls.oneShot,
    fun other object live => calls.fresh other object (before other object live),
    fun other object live => calls.called other object (before other object live)⟩

/-- Settling the first timer of a batch that has been called completely. What remains
at its address, if anything, is a repeating timer. -/
theorem Calls.settle {after : Nat → Option Timer} {rest : List Nat}
    (calls : Calls heap numCreated log (address :: rest) []) (nodup : (address :: rest).Nodup)
    (others : ∀ other, other ≠ address → after other = heap other)
    (repeating : ∀ object, after address = some object → object.repeats = true) :
    Calls after numCreated log rest [] := by
  refine ⟨calls.punctual, calls.future, calls.oneShot, ?_, ?_⟩
  · intro other object live single place
    have apart : other ≠ address := by
      rintro rfl
      rw [repeating object live] at single
      cases single
    rw [others other apart] at live
    refine calls.fresh other object live single (Or.inl ?_)
    rcases place with outside | impossible
    · simp [apart, outside]
    · exact absurd impossible List.not_mem_nil
  · intro other object live member _
    have apart : other ≠ address := by
      rintro rfl
      exact (List.nodup_cons.mp nodup).1 member
    rw [others other apart] at live
    exact calls.called other object live (List.mem_cons_of_mem _ member) List.not_mem_nil

/-- A batch starts with all of its calls still to be made. -/
theorem Calls.begin (calls : Calls heap numCreated log [] waiting) (expired : List Nat) :
    Calls heap numCreated log expired expired := by
  refine ⟨calls.punctual, calls.future, calls.oneShot, ?_, ?_⟩
  · intro other object live single _
    exact calls.fresh other object live single (Or.inl List.not_mem_nil)
  · intro other object live member left
    exact absurd member left

/-- Calling the next timer of the batch. A one-shot timer has its only call here. -/
theorem Calls.run {rest : List Nat} {now : Int}
    (calls : Calls heap numCreated log batch (address :: rest))
    (numbering : Numbering heap numCreated posted log) (live : heap address = some timer)
    (member : address ∈ batch) (later : address ∉ rest) (due : timer.expiration ≤ now) :
    Calls heap numCreated (log ++ [.ran timer.sequence timer.expiration now]) batch rest := by
  have range := numbering.numbered live
  have other : ∀ sequence, sequence ≠ timer.sequence →
      TimerEvent.runs (log ++ [.ran timer.sequence timer.expiration now]) sequence =
        TimerEvent.runs log sequence := by
    intro sequence different
    simp [TimerEvent.runs_snoc, TimerEvent.isRun, Ne.symm different]
  constructor
  · intro sequence expiration moment noted
    rcases List.mem_append.mp noted with old | new
    · exact calls.punctual sequence expiration moment old
    · simp only [List.mem_singleton, TimerEvent.ran.injEq] at new
      obtain ⟨_, rfl, rfl⟩ := new
      exact due
  · intro sequence beyond
    rw [other sequence (by omega)]
    exact calls.future sequence beyond
  · intro tested sequence noted
    have was : .created tested sequence false ∈ log := by simpa using noted
    by_cases same : sequence = timer.sequence
    · subst same
      have kind := (numbering.createdOnce _ _ _ _ _ was
        (numbering.recorded address timer live)).2.symm
      have unused := calls.fresh address timer live kind (Or.inr List.mem_cons_self)
      simp [TimerEvent.runs_snoc, TimerEvent.isRun, unused]
    · rw [other sequence same]
      exact calls.oneShot tested sequence was
  · intro tested object found single place
    have apart : tested ≠ address := by
      rintro rfl
      rcases place with outside | waits
      · exact outside member
      · exact later waits
    rw [other]
    · refine calls.fresh tested object found single (place.imp_right ?_)
      exact List.mem_cons_of_mem _
    · intro equal
      exact apart (numbering.distinct tested address object timer found live equal)
  · intro tested object found batched left
    by_cases same : tested = address
    · subst same
      rw [live] at found
      cases found
      simp [TimerEvent.runs_snoc, TimerEvent.isRun]
    · rw [TimerEvent.runs_snoc]
      have before := calls.called tested object found batched (by simp [same, left])
      exact Nat.lt_of_lt_of_le before (Nat.le_add_right _ _)

/-- Further events cannot take a reason away. -/
theorem Causes.note (causes : Causes canceling log) (event : TimerEvent)
    (harmless : ∀ sequence, event.isDeletion sequence = false) :
    Causes canceling (log ++ [event]) := by
  constructor
  · intro other sequence member
    exact List.mem_append_left _ (causes.requested other sequence member)
  · intro sequence positive
    rw [TimerEvent.deletions_snoc, harmless] at positive
    have deleted := causes.justified sequence (by simpa using positive)
    rcases deleted with ⟨other, was, ran⟩ | ⟨id, was, same⟩
    · refine Or.inl ⟨other, List.mem_append_left _ was, ?_⟩
      rw [TimerEvent.runs_snoc]
      exact Nat.lt_of_lt_of_le ran (Nat.le_add_right _ _)
    · exact Or.inr ⟨id, List.mem_append_left _ was, same⟩

/-- A deletion with a reason of its own. -/
theorem Causes.delete (causes : Causes canceling log) (sequence : Int)
    (reason : (∃ address, .created address sequence false ∈ log ∧
        0 < TimerEvent.runs log sequence) ∨
      ∃ id, .cancelled id ∈ log ∧ id.sequence = sequence) :
    Causes canceling (log ++ [.deleted sequence]) := by
  have runs : ∀ number, TimerEvent.runs (log ++ [.deleted sequence]) number =
      TimerEvent.runs log number := by
    intro number
    simp [TimerEvent.runs_snoc, TimerEvent.isRun]
  constructor
  · intro other number member
    exact List.mem_append_left _ (causes.requested other number member)
  · intro number positive
    have before : (∃ address, .created address number false ∈ log ∧
        0 < TimerEvent.runs log number) ∨ ∃ id, .cancelled id ∈ log ∧ id.sequence = number := by
      by_cases same : number = sequence
      · exact same ▸ reason
      · refine causes.justified number ?_
        simpa [TimerEvent.deletions_snoc, TimerEvent.isDeletion, Ne.symm same] using positive
    rcases before with ⟨other, was, ran⟩ | ⟨id, was, same⟩
    · exact Or.inl ⟨other, List.mem_append_left _ was, by rw [runs]; exact ran⟩
    · exact Or.inr ⟨id, List.mem_append_left _ was, same⟩

end History

end TimerQueue

end Moban
