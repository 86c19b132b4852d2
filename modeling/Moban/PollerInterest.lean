import Moban.PollerChannels

/-!
# What a poll may report

The kernel reports errors and hang-ups of every descriptor that it watches, whatever events it
watches it for. A channel whose owner has disabled all events is therefore left alone only if
the kernel does not watch its descriptor at all.

`updateChannel` deletes the entry of a channel that wants no events, but only when the channel is
added. A channel that is new or deleted is added, even if there is nothing to wait for. So events
that are disabled before any were enabled, or disabled twice, leave an entry with an empty mask.
-/

namespace Moban

open Runs Channel

/-- A poll may report these events for the descriptor: it is watched, and apart from errors and
hang-ups they are among the events it is watched for. -/
def EPollPoller.MayReport (p : EPollPoller) (fd : Nat) (revents : BitVec 32) : Prop :=
  ∃ mask ∈ p.interest fd, revents ≠ 0 ∧ revents &&& ~~~(mask ||| POLLERR ||| POLLHUP) = 0

namespace PollerChannels

variable {ι : Type} [DecidableEq ι] {fd : ι → Nat} {s next : PollerChannels ι} {label : Label ι}

/-- The kernel does not watch a channel that wants no events, and nothing is reported for it. -/
def Quiet (s : PollerChannels ι) : Prop :=
  ∀ i, (s.channel i).events = KNoneEvent → s.poller.interest (s.channel i).fd = none ∧
    ∀ revents, ¬s.poller.MayReport (s.channel i).fd revents

/-- Every channel that is added wants events. -/
def Wanting (s : PollerChannels ι) : Prop :=
  ∀ i, (s.channel i).index = .KAdded → (s.channel i).isNoneEvent = false

/-- The channel as the operation leaves it. -/
def updated (operation : ChannelUpdate) (c : Channel) : Channel :=
  { operation.apply c with index := (operation.apply c).nextIndex }

/-- Events are disabled only while the channel is added, unless others remain. -/
def Considerate (s : PollerChannels ι) : Label ι → Prop
  | .update i operation =>
      (operation.apply (s.channel i)).isNoneEvent = true → (s.channel i).index = .KAdded
  | .remove _ _ => True

instance (s : PollerChannels ι) : DecidablePred s.Considerate
  | .update .. => instDecidableForall
  | .remove .. => instDecidableTrue

omit [DecidableEq ι] in
/-- The index says whether the kernel watches a channel. -/
theorem Agrees.quiet_iff (distinct : Function.Injective fd) (agrees : s.Agrees fd) :
    s.Quiet ↔ s.Wanting := by
  have watched (i : ι) : s.poller.interest (s.channel i).fd = none ↔
      (s.channel i).index ≠ .KAdded := by
    rw [(agrees.mirrors distinct i).interest]
    split_ifs with added
    · simp [added]
    · simp [added]
  constructor
  · intro quiet i added
    by_contra wants
    have unwanted : (s.channel i).events = KNoneEvent := by simpa [isNoneEvent] using wants
    exact (watched i).mp (quiet i unwanted).1 added
  · intro wanting i unwanted
    have unwatched : s.poller.interest (s.channel i).fd = none := by
      refine (watched i).mpr fun added => ?_
      simpa [isNoneEvent, unwanted] using wanting i added
    refine ⟨unwatched, fun revents reported => ?_⟩
    obtain ⟨mask, found, _⟩ := reported
    rw [unwatched] at found
    cases found

/-- A channel is replaced among others that are added only if they want events. -/
theorem Wanting.set_iff (wanting : s.Wanting) (i : ι) (c : Channel) :
    (s.set i c).Wanting ↔ (c.index = .KAdded → c.isNoneEvent = false) := by
  constructor
  · intro kept
    simpa [PollerChannels.set] using kept i
  · intro here j
    by_cases same : j = i
    · simpa [PollerChannels.set, same] using here
    · simpa [PollerChannels.set, same] using wanting j

/-- An update leaves an unwanted entry exactly if it disables what is not added. -/
theorem updated_wanting_iff (operation : ChannelUpdate) (c : Channel) :
    ((updated operation c).index = .KAdded → (updated operation c).isNoneEvent = false) ↔
      ((operation.apply c).isNoneEvent = true → c.index = .KAdded) := by
  have events : (updated operation c).isNoneEvent = (operation.apply c).isNoneEvent := rfl
  have index : (updated operation c).index =
      if c.index = .KAdded ∧ (operation.apply c).isNoneEvent = true then .KDeleted
      else .KAdded := by
    simp [updated, nextIndex]
  rw [events, index]
  cases (operation.apply c).isNoneEvent <;> cases c.index <;> simp

/-- What is required of a step, for channels that agree with the poller. -/
theorem step_quiet_iff (distinct : Function.Injective fd) (agrees : s.Agrees fd)
    (wanting : s.Wanting) (enabled : s.Enabled label) :
    (∀ next ∈ s.step label, next.Quiet) ↔ s.Considerate label := by
  have later : (∀ next ∈ s.step label, next.Quiet) ↔ ∀ next ∈ s.step label, next.Wanting :=
    forall₂_congr fun next done =>
      (step_agrees distinct label agrees enabled done).quiet_iff distinct
  rw [later]
  cases label with
  | update i operation =>
    rw [step_update distinct agrees i operation]
    simp only [Option.mem_some_iff, forall_eq']
    rw [wanting.set_iff]
    exact updated_wanting_iff operation (s.channel i)
  | remove i loop =>
    rw [step_remove distinct agrees i loop enabled]
    refine ⟨fun _ => trivial, fun _ next done => ?_⟩
    obtain ⟨_, made⟩ := Option.ite_none_right_eq_some.mp done
    cases made
    exact (wanting.set_iff i _).mpr fun added => by cases added

/-- After every operation the kernel leaves the channels alone that want no events, exactly if
events are disabled only while the channel is added.

Proof: the kernel watches the channels that are added. An update that leaves no event deletes
a channel that is added, and adds any other. Removal never leaves a channel added. -/
theorem disabled_unwatched_iff (fd : ι → Nat) (distinct : Function.Injective fd)
    (labels : List (Label ι)) (valid : system.Valid (initial fd) labels) :
    system.Along (fun s label => ∀ next ∈ s.step label, next.Quiet) (initial fd) labels ↔
      system.Along Considerate (initial fd) labels := by
  refine System.along_exchange (fun s => s.Agrees fd ∧ s.Wanting) ?_ ?_ _ labels ?_ valid
  · intro s label invariant enabled
    exact step_quiet_iff distinct invariant.1 invariant.2 enabled
  · intro s label next invariant enabled quiet done
    have agrees := step_agrees distinct label invariant.1 enabled done
    exact ⟨agrees, (agrees.quiet_iff distinct).mp (quiet next done)⟩
  · exact ⟨initial_agrees fd, fun i added => by cases added⟩

/-- Two channels are enabled and disabled in turn, and one of them is removed and enabled again. -/
def paired : List (Label Bool) :=
  [.update false .enableReading, .update true .enableWriting, .update false .enableWriting,
    .update true .disableWriting, .update false .disableWriting, .update true .enableReading,
    .update false .disableAll, .remove false ⟨false, none, []⟩, .update false .enableWriting]

/-- No channel without events is watched in this run. -/
theorem disabled_unwatched_iff_paired :
    system.Along (fun s label => ∀ next ∈ s.step label, next.Quiet)
      (initial fun second : Bool => if second then 6 else 5) paired :=
  (disabled_unwatched_iff (fun second : Bool => if second then 6 else 5) (by decide) paired
    (by decide)).mpr (by decide)

/-- An acceptor that has never listened disables its channel, and a channel is disabled twice. A
hang-up or an error may then be reported for a channel that wants no events. -/
theorem disabled_watched : (system.Valid (initial fun _ : Unit => 5) [.update () .disableAll] ∧
      ∃ final, system.run (initial fun _ : Unit => 5) [.update () .disableAll] = some final ∧
        (final.channel ()).events = KNoneEvent ∧ final.poller.MayReport 5 POLLHUP) ∧
      system.Valid (initial fun _ : Unit => 5)
        [.update () .enableWriting, .update () .disableAll, .update () .disableWriting] ∧
      ∃ final, system.run (initial fun _ : Unit => 5)
          [.update () .enableWriting, .update () .disableAll, .update () .disableWriting] =
            some final ∧
        (final.channel ()).events = KNoneEvent ∧ final.poller.MayReport 5 POLLERR :=
  ⟨⟨by decide, _, rfl, rfl, KNoneEvent, rfl, by decide, by decide⟩,
    by decide, _, rfl, rfl, KNoneEvent, rfl, by decide, by decide⟩

/-! ## The callbacks of what is reported -/

theorem disjoint_part {mask other part : BitVec 32} (disjoint : mask &&& other = 0)
    (included : other &&& part = part) : mask &&& part = 0 := by
  rw [← included, ← BitVec.and_assoc, disjoint]
  exact BitVec.zero_and

/-- The masks that an owner can ask for. -/
def masks : List (BitVec 32) :=
  [KNoneEvent, KReadEvent, KWriteEvent, KReadEvent ||| KWriteEvent]

theorem apply_masks (operation : ChannelUpdate) (c : Channel) (asked : c.events ∈ masks) :
    (operation.apply c).events ∈ masks := by
  simp only [masks, List.mem_cons, List.not_mem_nil, or_false] at asked ⊢
  cases operation <;> rcases asked with asked | asked | asked | asked <;>
    simp [ChannelUpdate.apply, asked, KNoneEvent, KReadEvent, KWriteEvent, POLLIN, POLLPRI, POLLOUT]

/-- The tests of `handleEventWithGuard` and what is not reported make up all bits. -/
theorem callbacks_wanted {mask revents : BitVec 32} (asked : mask ∈ masks) (nonzero : revents ≠ 0)
    (within : revents &&& ~~~(mask ||| POLLERR ||| POLLHUP) = 0) :
    callbacks revents ≠ [] ∧ (.read ∈ callbacks revents → mask &&& KReadEvent ≠ 0) ∧
      (.write ∈ callbacks revents → mask &&& KWriteEvent ≠ 0) := by
  have excluded : ∀ mask ∈ masks, let hidden := ~~~(mask ||| POLLERR ||| POLLHUP)
      let readable := POLLIN ||| POLLPRI ||| POLLRDHUP
      hidden ||| (POLLHUP ||| (POLLERR ||| POLLNVAL) ||| readable ||| POLLOUT) = .allOnes 32 ∧
      (mask &&& KReadEvent = 0 → hidden &&& readable = readable) ∧
      (mask &&& KWriteEvent = 0 → hidden &&& POLLOUT = POLLOUT) := by
    simp [masks, KNoneEvent, KReadEvent, KWriteEvent, POLLIN, POLLPRI, POLLOUT, POLLERR, POLLHUP,
      POLLNVAL, POLLRDHUP]
  obtain ⟨complete, unreadable, unwritable⟩ := excluded mask asked
  refine ⟨fun silent => nonzero ?_, fun called unwanted => ?_, fun called unwanted => ?_⟩
  · simp only [callbacks, reports, List.append_eq_nil_iff, ite_eq_right_iff, reduceCtorEq,
      imp_false, decide_eq_true_eq, not_not] at silent
    obtain ⟨⟨⟨closed, failed⟩, read⟩, written⟩ := silent
    -- A hang-up with nothing to read is a close.
    have unread : revents &&& POLLIN = 0 := disjoint_part read (by decide)
    have hung : revents &&& POLLHUP = 0 := by simpa [unread] using closed
    rw [← BitVec.and_allOnes (x := revents), ← complete]
    simp only [BitVec.and_or_distrib_left, within, hung, failed, read, written, BitVec.or_self]
  · simp [callbacks, reports, disjoint_part within (unreadable unwanted)] at called
  · simp [callbacks, reports, disjoint_part within (unwritable unwanted)] at called

/-- A registered channel is called back, for what it wants. -/
structure Answers (s : PollerChannels ι) (i : ι) (revents : BitVec 32) : Prop where
  registered : s.entry (s.channel i).fd = some i
  answered : callbacks revents ≠ []
  reading : .read ∈ callbacks revents → (s.channel i).events &&& KReadEvent ≠ 0
  writing : .write ∈ callbacks revents → (s.channel i).isWriting = true

def Asked (fd : ι → Nat) (s : PollerChannels ι) : Prop :=
  s.Agrees fd ∧ ∀ i, (s.channel i).events ∈ masks

theorem Asked.set (asked : s.Asked fd) (i : ι) (c : Channel) (own : c.events ∈ masks) :
    ∀ j, ((s.set i c).channel j).events ∈ masks :=
  (Function.forall_update_iff s.channel fun _ c => c.events ∈ masks).mpr
    ⟨own, fun j _ => asked.2 j⟩

theorem step_asked (distinct : Function.Injective fd) (asked : s.Asked fd)
    (enabled : s.Enabled label) (done : s.step label = some next) : next.Asked fd := by
  refine ⟨step_agrees distinct label asked.1 enabled done, ?_⟩
  cases label with
  | update i operation =>
    cases (step_update distinct asked.1 i operation).symm.trans done
    exact asked.set i _ (apply_masks operation _ (asked.2 i))
  | remove i loop =>
    rw [step_remove distinct asked.1 i loop enabled] at done
    cases (Option.ite_none_right_eq_some.mp done).2
    exact asked.set i _ (asked.2 i)

/-- However channels are changed and removed, no report is left without a callback, which would
keep the loop busy, and none calls back for reading or writing that the channel does not want. -/
theorem reports_answered (distinct : Function.Injective fd) (labels : List (Label ι))
    (final : PollerChannels ι) (valid : system.Valid (initial fd) labels)
    (finished : system.run (initial fd) labels = some final) (i : ι) (revents : BitVec 32)
    (reported : final.poller.MayReport (fd i) revents) : final.Answers i revents := by
  obtain ⟨agrees, asked⟩ := System.run_invariant (Asked fd) (fun _ _ _ => step_asked distinct) _
    final labels ⟨initial_agrees fd, fun _ => List.mem_cons_self⟩ valid finished
  obtain ⟨mask, watched, nonzero, within⟩ := reported
  obtain ⟨j, same, added, rfl⟩ := (agrees.interest _ _).mp watched
  cases distinct same
  obtain ⟨answered, reading, writing⟩ := callbacks_wanted (asked i) nonzero within
  have registered := (agrees.entry _ _).mpr ⟨(agrees.descriptor i).symm, by simp [added]⟩
  exact ⟨registered, answered, reading, fun called => decide_eq_true (writing called)⟩

/-- One channel stops writing and goes on reading, and the other one is disabled. -/
def partlyDisabled : List (Label Bool) :=
  [.update false .enableReading, .update true .enableReading, .update true .enableWriting,
    .update true .disableWriting, .update false .disableAll]

/-- A hang-up of the channel that reads on is answered. -/
theorem reports_answered_hangup :
    ∃ final, system.run (initial fun second : Bool => if second then 8 else 7) partlyDisabled =
        some final ∧
      final.poller.MayReport 8 (POLLIN ||| POLLHUP) ∧ final.Answers true (POLLIN ||| POLLHUP) := by
  refine ⟨_, rfl, ⟨KReadEvent, rfl, by decide, by decide⟩, ?_⟩
  exact @reports_answered Bool _ (fun second => if second then 8 else 7) (by decide) partlyDisabled
    _ (by decide) rfl true _ ⟨KReadEvent, rfl, by decide, by decide⟩

end PollerChannels

end Moban
