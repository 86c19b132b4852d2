import Moban.TimerInvariant

/-!
# Dispatching expired timers

A dispatch takes the expired batch out of both sets, calls its callbacks one by one, and
then restarts or deletes every timer of the batch. The invariant holds at each of these
points: while callbacks run the batch stands outside the sets, and settling brings each
of its timers back or frees it.
-/

namespace Moban

open OrderedSets Runs Function

namespace TimerQueue

variable {s : TimerQueue}

/-- Expired entries are those whose time has come. The sentry decides ties by the
largest pointer value, which no timer has. -/
theorem below_sentry {outside : List Nat}
    (shape : Shape s.heap s.timers s.activeTimers outside) (now : Int) (entry : Entry)
    (queued : entry ∈ s.timers) :
    entry < toLex (now, UINTPTR_MAX) ↔ Entry.time entry ≤ now := by
  obtain ⟨timer, live, _⟩ := shape.keyed (Entry.time entry) (Entry.timer entry) queued
  have bounded : Entry.timer entry < UINTPTR_MAX := shape.bounded _ timer live
  rw [entry_eq entry, Prod.Lex.toLex_lt_toLex]
  simp only [entry_time]
  constructor
  · rintro (earlier | ⟨same, _⟩)
    · exact le_of_lt earlier
    · exact le_of_eq same
  · intro due
    rcases lt_or_eq_of_le due with earlier | same
    · exact Or.inl earlier
    · exact Or.inr ⟨same, bounded⟩

/-- Erasing a batch from the set of active timers, one assertion at a time.

Proof: induction over the batch. Addresses in it are distinct, so erasing one timer
leaves the others present. -/
theorem eraseActive_fold (expired : List Entry) (s : TimerQueue)
    (present : ∀ entry ∈ expired, ∃ timer, s.heap (Entry.timer entry) = some timer ∧
      toLex (Entry.timer entry, timer.sequence) ∈ s.activeTimers)
    (nodup : (expired.map Entry.timer).Nodup) :
    ∃ active, expired.foldlM eraseActive s = some { s with activeTimers := active } ∧
      active.size + expired.length = s.activeTimers.size ∧
      ∀ address sequence, toLex (address, sequence) ∈ active ↔
        toLex (address, sequence) ∈ s.activeTimers ∧
          ∀ timer, address ∈ expired.map Entry.timer → s.heap address = some timer →
            timer.sequence ≠ sequence := by
  induction expired generalizing s with
  | nil => exact ⟨s.activeTimers, rfl, rfl, by simp⟩
  | cons entry rest ih =>
    obtain ⟨timer, live, member⟩ := present entry List.mem_cons_self
    obtain ⟨apart, distinct⟩ := List.nodup_cons.mp (List.map_cons ▸ nodup)
    have smaller := OrderedSet.size_erase _ _ member
    have stepped : s.eraseActive entry = some
        { s with activeTimers :=
            s.activeTimers.erase (toLex (Entry.timer entry, timer.sequence)) } := by
      simp [eraseActive, live, member]
    obtain ⟨active, folded, size, membership⟩ := ih
      { s with activeTimers := s.activeTimers.erase (toLex (Entry.timer entry, timer.sequence)) }
      (by
        intro other later
        obtain ⟨object, found, active⟩ := present other (List.mem_cons_of_mem _ later)
        refine ⟨object, found, (OrderedSet.mem_erase _ _ _).mpr ⟨?_, active⟩⟩
        intro same
        have equal := ((pair_eq _ _ _ _).mp same).1
        exact apart (equal ▸ List.mem_map_of_mem later))
      distinct
    refine ⟨active, ?_, ?_, ?_⟩
    · rw [List.foldlM_cons, stepped]
      exact folded
    · simp only [List.length_cons]
      simp only at size
      omega
    · intro address sequence
      rw [membership, OrderedSet.mem_erase, Ne, pair_eq]
      constructor
      · rintro ⟨⟨different, old⟩, unaffected⟩
        refine ⟨old, ?_⟩
        intro object inside found
        rcases List.mem_cons.mp (List.map_cons ▸ inside) with rfl | later
        · rw [live] at found
          cases found
          exact fun equal => different ⟨rfl, equal.symm⟩
        · exact unaffected object later found
      · rintro ⟨old, unaffected⟩
        refine ⟨⟨?_, old⟩, ?_⟩
        · rintro ⟨rfl, rfl⟩
          exact unaffected timer (by simp) live rfl
        · intro object later found
          exact unaffected object
            (by simp only [List.map_cons, List.mem_cons, later, or_true]) found

/-- Taking the expired batch out of both sets satisfies every assertion; the batch
consists of the queued entries whose time has come, and these now stand outside. -/
theorem getExpired_exact {outside : List Nat}
    (shape : Shape s.heap s.timers s.activeTimers outside) (now : Int) :
    ∃ active, s.getExpired now = some (s.timers.below (toLex (now, UINTPTR_MAX)),
        { s with timers := s.timers.cut (toLex (now, UINTPTR_MAX)), activeTimers := active }) ∧
      Shape s.heap (s.timers.cut (toLex (now, UINTPTR_MAX))) active
        (outside ++ (s.timers.below (toLex (now, UINTPTR_MAX))).map Entry.timer) := by
  generalize bound : (toLex (now, UINTPTR_MAX) : Entry) = sentry
  have queued : ∀ entry ∈ s.timers.below sentry, entry ∈ s.timers :=
    fun entry member => ((OrderedSet.mem_below _ _ _).mp member).1
  have distinct := shape.addresses _ queued (OrderedSet.below_nodup _ _)
  obtain ⟨active, folded, size, membership⟩ :=
    eraseActive_fold (s.timers.below sentry) { s with timers := s.timers.cut sentry }
      (by
        intro entry member
        obtain ⟨timer, live, same⟩ :=
          shape.keyed (Entry.time entry) (Entry.timer entry) (queued entry member)
        exact ⟨timer, live, (shape.active _ _).mpr ⟨timer, live, rfl, same ▸ queued entry member⟩⟩)
      distinct
  have total := OrderedSet.size_cut s.timers sentry
  have balanced : (s.timers.cut sentry).size = active.size := by
    have sizes := shape.sizes
    simp only at size
    omega
  have ahead : ∀ earliest ∈ (s.timers.cut sentry).first, now < Entry.time earliest := by
    intro earliest found
    obtain ⟨kept, above⟩ := (OrderedSet.mem_cut _ _ _).mp (OrderedSet.first_mem _ _ found)
    rw [← bound, below_sentry shape now earliest kept] at above
    exact not_le.mp above
  refine ⟨active, ?_, shape.expire sentry balanced membership⟩
  have sizes := shape.sizes
  simp only [getExpired, bound, sizes, eq_true ahead, folded, balanced, guard_true,
    Option.bind_eq_bind, Option.pure_def, Option.bind_some]

/-- What the beginning of a dispatch changes, and what it leaves alone. -/
structure Begun (now : Int) (s next : TimerQueue) : Prop where
  timers : next.timers = s.timers.cut (toLex (now, UINTPTR_MAX))
  dispatch : next.dispatch = some
    { now := now, expired := s.timers.below (toLex (now, UINTPTR_MAX))
      remaining := s.timers.below (toLex (now, UINTPTR_MAX)) }
  heap : next.heap = s.heap
  created : next.numCreated = s.numCreated
  posted : next.posted = s.posted
  log : next.log = s.log

/-- Beginning a dispatch takes the expired batch and leaves every call still to make. -/
theorem handleRead_invariant (invariant : Invariant s)
    (idle : s.dispatch = none) (now readAt : Int) :
    ∃ next, s.handleRead now readAt = some next ∧ Invariant next ∧ Begun now s next := by
  have vacant : s.batch = [] := by simp [batch, idle]
  have shape := invariant.shape
  have calls := invariant.calls
  rw [vacant] at shape calls
  simp only [List.map_nil, List.append_nil] at shape calls
  have unread : Shape (s.readTimerfd readAt).heap (s.readTimerfd readAt).timers
      (s.readTimerfd readAt).activeTimers s.posted := shape
  obtain ⟨active, taken, split⟩ := getExpired_exact unread now
  have begun : ∃ next : TimerQueue, s.handleRead now readAt = some next ∧ next =
      { s.readTimerfd readAt with
        timers := s.timers.cut (toLex (now, UINTPTR_MAX))
        activeTimers := active
        callingExpiredTimers := true
        cancelingTimers := .empty
        dispatch := some
          { now := now, expired := s.timers.below (toLex (now, UINTPTR_MAX))
            remaining := s.timers.below (toLex (now, UINTPTR_MAX)) } } := by
    refine ⟨_, ?_, rfl⟩
    simp only [handleRead, taken, Option.bind_eq_bind, Option.bind_some, Option.pure_def]
    rfl
  obtain ⟨next, stepped, rfl⟩ := begun
  refine ⟨_, stepped, ⟨split, invariant.numbering, invariant.deletions, ?_,
    ⟨?_, invariant.causes.justified⟩, ?_, ?_, rfl⟩, ⟨rfl, rfl, rfl, rfl, rfl, rfl⟩⟩
  · exact calls.begin _
  · intro address sequence member
    exact absurd member (OrderedSet.not_mem_empty _)
  · intro entry batched
    exact shape.keyed _ _ ((OrderedSet.mem_below _ _ _).mp batched).1
  · intro dispatch same
    cases same
    refine ⟨?_, List.suffix_refl _⟩
    intro entry batched
    obtain ⟨queued, below⟩ := (OrderedSet.mem_below _ _ _).mp batched
    exact (below_sentry shape now entry queued).mp below

/-- Calling the next timer of the batch finds it alive. -/
theorem runNext_invariant (invariant : Invariant s) (pending : s.waiting ≠ []) :
    ∃ dispatch entry rest timer, s.dispatch = some dispatch ∧
      dispatch.remaining = entry :: rest ∧ s.heap (Entry.timer entry) = some timer ∧
      let next : TimerQueue :=
        { s with
          dispatch := some { dispatch with remaining := rest }
          log := s.log ++ [.ran timer.sequence timer.expiration dispatch.now] }
      s.runNext = some next ∧ Invariant next := by
  cases found : s.dispatch with
  | none => simp [waiting, found] at pending
  | some dispatch =>
    cases remaining : dispatch.remaining with
    | nil => simp [waiting, found, remaining] at pending
    | cons entry rest =>
      obtain ⟨due, suffix⟩ := invariant.due dispatch found
      have batch : s.batch = dispatch.expired := by simp [batch, found]
      have waits : s.waiting = entry :: rest := by simp [waiting, found, remaining]
      have batched : entry ∈ dispatch.expired :=
        suffix.subset (remaining ▸ List.mem_cons_self)
      obtain ⟨timer, live, time⟩ := invariant.timed entry (batch ▸ batched)
      have nodup : (dispatch.expired.map Entry.timer).Nodup := by
        have whole := invariant.shape.nodup
        rw [batch] at whole
        exact whole.sublist (List.sublist_append_right _ _)
      have later : Entry.timer entry ∉ rest.map Entry.timer := by
        have ordered := nodup.sublist ((suffix.sublist).map Entry.timer)
        rw [remaining, List.map_cons] at ordered
        exact (List.nodup_cons.mp ordered).1
      have calls := invariant.calls
      rw [waits, List.map_cons] at calls
      refine ⟨dispatch, entry, rest, timer, rfl, remaining, live, ?_, ?_⟩
      · simp [runNext, found, remaining, live]
      · have shape := invariant.shape
        have timed := invariant.timed
        rw [batch] at shape timed calls
        refine ⟨shape, ?_, ?_, ?_, ?_, timed, ?_, ?_⟩
        · exact invariant.numbering.note _ (by simp) (by simp)
        · exact invariant.deletions.note _ (fun _ => rfl)
        · exact calls.run invariant.numbering live (List.mem_map_of_mem batched) later
            (time ▸ due entry batched)
        · exact invariant.causes.note _ (fun _ => rfl)
        · intro other same
          cases same
          exact ⟨due, (List.suffix_cons entry rest).trans (remaining ▸ suffix)⟩
        · rw [invariant.calling, found]
          rfl

/-- What holds while a batch is being settled: the rest of it has been called and stands
outside the sets. -/
structure Settling (s : TimerQueue) (rest : List Entry) : Prop where
  shape : Shape s.heap s.timers s.activeTimers (s.posted ++ rest.map Entry.timer)
  numbering : Numbering s.heap s.numCreated s.posted s.log
  deletions : Deletions s.heap s.numCreated s.log
  calls : Calls s.heap s.numCreated s.log (rest.map Entry.timer) []
  causes : Causes s.cancelingTimers s.log

/-- The queue in which one timer outside the sets has been restarted and inserted. -/
def restarted (s : TimerQueue) (address : Nat) (timer : Timer) (now : Int) : TimerQueue :=
  { s with heap := update s.heap address (some (Timer.restart timer now)) }.enqueued
    address (Timer.restart timer now)

/-- The queue in which one timer outside the sets has been deleted. -/
def discarded (s : TimerQueue) (address : Nat) (timer : Timer) : TimerQueue :=
  { s with
    heap := update s.heap address none
    log := s.log ++ [.deleted timer.sequence] }

theorem restart_sequence (timer : Timer) (now : Int) :
    (Timer.restart timer now).sequence = timer.sequence := by
  unfold Timer.restart
  split <;> rfl

theorem restart_repeats (timer : Timer) (now : Int) :
    (Timer.restart timer now).repeats = timer.repeats := by
  unfold Timer.restart
  split <;> rfl

/-- Everything that settling one timer can do: a repeating timer that was not cancelled
is restarted and inserted, any other is deleted. -/
theorem resetOne_cases {entry : Entry} {rest : List Entry}
    (settling : Settling s (entry :: rest)) (now : Int) :
    ∃ timer, s.heap (Entry.timer entry) = some timer ∧
      ((timer.repeats = true ∧
          toLex (Entry.timer entry, timer.sequence) ∉ s.cancelingTimers ∧
          resetOne now s entry = some (s.restarted (Entry.timer entry) timer now)) ∨
        ((timer.repeats = false ∨
            toLex (Entry.timer entry, timer.sequence) ∈ s.cancelingTimers) ∧
          resetOne now s entry = some (s.discarded (Entry.timer entry) timer))) := by
  have member : Entry.timer entry ∈ s.posted ++ (entry :: rest).map Entry.timer :=
    List.mem_append_right _ List.mem_cons_self
  obtain ⟨⟨timer, live⟩, _⟩ := (settling.shape.places _).mp member
  refine ⟨timer, live, ?_⟩
  by_cases restarting : timer.repeats = true ∧
      toLex (Entry.timer entry, timer.sequence) ∉ s.cancelingTimers
  · have inserted := insert_exact
      (s := { s with
        heap := update s.heap (Entry.timer entry) (some (Timer.restart timer now)) })
      (settling.shape.restart member live (Timer.restart timer now)) member
      (update_self _ _ _)
    refine Or.inl ⟨restarting.1, restarting.2, ?_⟩
    simp only [resetOne, live, restarting, not_false_eq_true, and_self, if_true,
      Option.bind_eq_bind, Option.bind_some, Option.pure_def]
    rw [inserted]
    rfl
  · refine Or.inr ⟨?_, ?_⟩
    · by_cases repeating : timer.repeats = true
      · exact Or.inr (by_contra fun absent => restarting ⟨repeating, absent⟩)
      · exact Or.inl (Bool.eq_false_iff.mpr repeating)
    · simp only [resetOne, live, restarting, if_false, delete, Option.bind_eq_bind,
        Option.bind_some, Option.pure_def]
      rfl

/-- Settling one timer keeps everything for the rest of the batch. -/
theorem resetOne_settling {entry : Entry} {rest : List Entry}
    (settling : Settling s (entry :: rest)) (now : Int) :
    ∃ next, resetOne now s entry = some next ∧ Settling next rest := by
  have member : Entry.timer entry ∈ s.posted ++ (entry :: rest).map Entry.timer :=
    List.mem_append_right _ List.mem_cons_self
  have nodup : (Entry.timer entry :: rest.map Entry.timer).Nodup :=
    settling.shape.nodup.sublist (List.sublist_append_right _ _)
  have remaining : ((s.posted ++ (entry :: rest).map Entry.timer).erase (Entry.timer entry)).Perm
      (s.posted ++ rest.map Entry.timer) := by
    have moved : ((s.posted ++ Entry.timer entry :: rest.map Entry.timer).erase
        (Entry.timer entry)).Perm _ := List.perm_middle.erase _
    rwa [List.erase_cons_head] at moved
  obtain ⟨timer, live, ⟨repeating, _, stepped⟩ | ⟨reason, stepped⟩⟩ :=
    resetOne_cases settling now
  · refine ⟨_, stepped, ?_, ?_, ?_, ?_, settling.causes⟩
    · have changed := settling.shape.restart member live (Timer.restart timer now)
      exact (changed.enqueue member (update_self _ _ _)).perm remaining
    · refine settling.numbering.survive ?_
      intro other object found
      simp only [restarted, enqueued, update_apply] at found
      split at found
      case isTrue same =>
        cases found
        exact ⟨timer, same ▸ live, (restart_sequence timer now).symm,
          (restart_repeats timer now).symm⟩
      · exact ⟨object, found, rfl, rfl⟩
    · exact settling.deletions.restart live (restart_sequence timer now)
    · refine settling.calls.settle nodup (fun other apart => update_of_ne apart _ _) ?_
      intro object found
      simp only [restarted, enqueued, update_self, Option.some.injEq] at found
      rw [← found, restart_repeats, repeating]
  · refine ⟨_, stepped, (settling.shape.delete member).perm remaining, ?_, ?_, ?_, ?_⟩
    · refine (settling.numbering.survive ?_).note _ (fun _ _ _ => nofun) (fun _ _ => nofun)
      intro other object found
      simp only [discarded, update_apply] at found
      split at found
      · cases found
      · exact ⟨object, found, rfl, rfl⟩
    · exact settling.deletions.delete settling.numbering live
    · refine (settling.calls.settle nodup
        (fun other apart => update_of_ne apart _ _) ?_).note _ (fun _ => rfl)
        (fun _ _ _ => nofun)
      intro object found
      simp only [discarded, update_self] at found
      cases found
    · refine settling.causes.delete _ ?_
      rcases reason with single | requested
      · refine Or.inl ⟨_, single ▸ settling.numbering.recorded _ timer live, ?_⟩
        exact settling.calls.called _ timer live List.mem_cons_self List.not_mem_nil
      · exact Or.inr ⟨_, settling.causes.requested _ _ requested, rfl⟩

/-- The rule for settling a whole batch: what every single settling keeps for the rest
of the batch holds at the end for the empty one.

Proof: induction over the batch, whose head is settled first. -/
theorem settle_batch (Property : TimerQueue → List Entry → Prop) (now : Int)
    (kept : ∀ s entry rest next, Settling s (entry :: rest) → Property s (entry :: rest) →
      resetOne now s entry = some next → Property next rest)
    (s : TimerQueue) (expired : List Entry) (settling : Settling s expired)
    (initially : Property s expired) :
    ∃ settled, expired.foldlM (resetOne now) s = some settled ∧ Settling settled [] ∧
      Property settled [] := by
  induction expired generalizing s with
  | nil => exact ⟨s, rfl, settling, initially⟩
  | cons entry rest ih =>
    obtain ⟨next, stepped, later⟩ := resetOne_settling settling now
    obtain ⟨settled, folded, final, holds⟩ :=
      ih next later (kept s entry rest next settling initially stepped)
    refine ⟨settled, ?_, final, holds⟩
    rw [List.foldlM_cons, stepped]
    exact folded

/-- The queue as the end of a dispatch hands it to the settling of the batch. -/
def called (s : TimerQueue) : TimerQueue :=
  { s with callingExpiredTimers := false, dispatch := none }

theorem called_settling (invariant : Invariant s) {dispatch : Dispatch}
    (found : s.dispatch = some dispatch) (finished : s.waiting = []) :
    Settling s.called dispatch.expired := by
  have batch : s.batch = dispatch.expired := by simp [batch, found]
  have shape := invariant.shape
  have calls := invariant.calls
  rw [batch] at shape calls
  rw [finished] at calls
  exact ⟨shape, invariant.numbering, invariant.deletions, calls, invariant.causes⟩

/-- The descriptor after a dispatch: armed for the earliest timer if its expiration is a
valid timestamp, and otherwise left as it is. -/
def rearmed (s : TimerQueue) (clock : Readings) : TimerQueue :=
  match s.timers.first with
  | none => s
  | some earliest =>
      if Timestamp.valid (Entry.time earliest) then s.resetTimerfd (Entry.time earliest) clock
      else s

theorem reset_exact {s settled : TimerQueue} {expired : List Entry} {now : Int}
    (folded : expired.foldlM (resetOne now) s = some settled) (settling : Settling settled [])
    (clock : Readings) : s.reset expired now clock = some (settled.rearmed clock) := by
  simp only [reset, folded, Option.bind_eq_bind, Option.bind_some, Option.pure_def, rearmed]
  cases first : settled.timers.first with
  | none => simp [Timestamp.valid]
  | some earliest =>
    obtain ⟨timer, live, same⟩ := settling.shape.keyed (Entry.time earliest)
      (Entry.timer earliest) (OrderedSet.first_mem _ _ first)
    simp only [live, Option.map_some, same, Option.bind_some]
    split <;> rfl

/-- Arming the descriptor touches nothing that the invariant speaks about. -/
theorem resetTimerfd_invariant (invariant : Invariant s)
    (expiration : Int) (clock : Readings) : Invariant (s.resetTimerfd expiration clock) :=
  ⟨invariant.shape, invariant.numbering, invariant.deletions, invariant.calls,
    invariant.causes, invariant.timed, invariant.due, invariant.calling⟩

theorem rearmed_frame (s : TimerQueue) (clock : Readings) :
    (s.rearmed clock).heap = s.heap ∧ (s.rearmed clock).numCreated = s.numCreated ∧
      (s.rearmed clock).log = s.log := by
  unfold rearmed
  split
  · exact ⟨rfl, rfl, rfl⟩
  · split <;> exact ⟨rfl, rfl, rfl⟩

theorem rearmed_posted (s : TimerQueue) (clock : Readings) :
    (s.rearmed clock).posted = s.posted := by
  unfold rearmed
  split
  · rfl
  · split <;> rfl

theorem rearmed_dispatch (s : TimerQueue) (clock : Readings) :
    (s.rearmed clock).dispatch = s.dispatch := by
  unfold rearmed
  split
  · rfl
  · split <;> rfl

theorem rearmed_invariant (invariant : Invariant s) (clock : Readings) :
    Invariant (s.rearmed clock) := by
  unfold rearmed
  split
  · exact invariant
  · split
    · exact resetTimerfd_invariant invariant _ clock
    · exact invariant

/-- Finishing a dispatch settles the batch and leaves no dispatch behind. -/
theorem finishRead_invariant (invariant : Invariant s) {dispatch : Dispatch}
    (found : s.dispatch = some dispatch) (finished : s.waiting = []) (clock : Readings) :
    ∃ settled, dispatch.expired.foldlM (resetOne dispatch.now) s.called = some settled ∧
      s.finishRead clock = some (settled.rearmed clock) ∧ Invariant settled ∧
      settled.dispatch = none := by
  obtain ⟨settled, folded, settling, idle, flag⟩ := settle_batch
    (fun s _ => s.dispatch = none ∧ s.callingExpiredTimers = false) dispatch.now
    (by
      intro s entry rest next settling property stepped
      obtain ⟨timer, _, ⟨_, _, done⟩ | ⟨_, done⟩⟩ := resetOne_cases settling dispatch.now <;>
        (rw [done] at stepped; cases stepped; exact property))
    s.called dispatch.expired (called_settling invariant found finished) ⟨rfl, rfl⟩
  have vacant : settled.batch = [] := by simp [batch, idle]
  have nothing : settled.waiting = [] := by simp [waiting, idle]
  refine ⟨settled, folded, ?_, ⟨?_, settling.numbering, settling.deletions, ?_,
    settling.causes, ?_, ?_, ?_⟩, idle⟩
  · simp only [finishRead, found, Option.bind_eq_bind, Option.bind_some]
    exact reset_exact folded settling clock
  · rw [vacant]
    exact settling.shape
  · rw [vacant, nothing]
    exact settling.calls
  · intro entry batched
    rw [vacant] at batched
    exact absurd batched List.not_mem_nil
  · intro other impossible
    rw [idle] at impossible
    cases impossible
  · rw [flag, idle]
    rfl

end TimerQueue

end Moban
