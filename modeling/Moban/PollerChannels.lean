import Moban.Channel
import Moban.Runs

/-!
# The channels of one poller

Whether a channel is registered is recorded three times: in the index that the poller keeps
in the channel, in the table of the poller, and in the kernel. The three agree after every
sequence of operations on any number of channels. So the assertions of `updateChannel` hold
and the kernel never refuses an entry, which would end the process.
-/

namespace Moban

open Runs

namespace EPollPoller

/-- The kernel adds what is absent, and changes or deletes what is present. -/
def Accepts (p : EPollPoller) (operation : Operation) (fd : Nat) : Prop :=
  match operation with
  | .EPOLL_CTL_ADD => p.interest fd = none
  | .EPOLL_CTL_MOD | .EPOLL_CTL_DEL => p.interest fd ≠ none

/-- The process ends at a refused entry, except for a deletion. -/
theorem update_none_iff (p : EPollPoller) (operation : Operation) (c : Channel) :
    p.update operation c = none ↔
      ¬ p.Accepts operation c.fd ∧ operation ≠ .EPOLL_CTL_DEL := by
  cases operation with
  | EPOLL_CTL_ADD => cases present : p.interest c.fd <;> simp [update, Accepts, present]
  | EPOLL_CTL_MOD => cases present : p.interest c.fd <;> simp [update, Accepts, present]
  | EPOLL_CTL_DEL => cases present : p.interest c.fd <;> simp [update, present]

/-- What the poller and the kernel hold about a channel agrees with its index. The kernel may
still watch the events that the channel wanted before. -/
structure Mirrors (p : EPollPoller) (c : Channel) (watched : BitVec 32) : Prop where
  table : p.channels c.fd = true ↔ c.index ≠ .KNew
  interest : p.interest c.fd = if c.index = .KAdded then some watched else none

end EPollPoller

namespace Channel

/-- The call of `epoll_ctl` that `updateChannel` makes for a channel. -/
def request (c : Channel) : Operation :=
  match c.index with
  | .KNew | .KDeleted => .EPOLL_CTL_ADD
  | .KAdded => if c.isNoneEvent then .EPOLL_CTL_DEL else .EPOLL_CTL_MOD

/-- The index after `updateChannel`. -/
def nextIndex (c : Channel) : Index :=
  if c.index = .KAdded ∧ c.isNoneEvent = true then .KDeleted else .KAdded

end Channel

open Channel

namespace EPollPoller

variable {p updated : EPollPoller} {c after : Channel} {watched : BitVec 32}

/-- The poller after the channel was updated. -/
def record (p : EPollPoller) (c : Channel) : EPollPoller where
  channels := Function.update p.channels c.fd true
  interest := Function.update p.interest c.fd
    (if c.nextIndex = .KAdded then some c.events else none)

/-- `updateChannel` changes the kernel's set by the requested call alone. -/
theorem updateChannel_request (done : p.updateChannel c = some (updated, after)) :
    { p with channels := updated.channels }.update c.request c = some updated := by
  cases index : c.index with
  | KNew | KDeleted =>
    cases present : p.interest c.fd with
    | none =>
      simp only [updateChannel, index, update, present] at done
      obtain ⟨_, _, done⟩ := Option.bind_eq_some_iff.mp done
      cases done
      simp [request, index, update, present]
    | some mask => simp [updateChannel, index, update, present] at done
  | KAdded =>
    by_cases wanted : c.isNoneEvent = true
    · cases present : p.interest c.fd <;>
        simp only [updateChannel, index, wanted, update, present] at done <;> cases done <;>
        simp [request, index, wanted, update, present]
    · cases present : p.interest c.fd with
      | none => simp [updateChannel, index, wanted, update, present] at done
      | some mask =>
        simp only [updateChannel, index, wanted, update, present] at done
        cases done
        simp [request, index, wanted, update, present]

/-- The kernel accepts the request for a mirrored channel. -/
theorem Mirrors.accepts (mirrors : p.Mirrors c watched) : p.Accepts c.request c.fd := by
  have interest := mirrors.interest
  cases index : c.index with
  | KNew => simpa [request, index, Accepts] using interest
  | KDeleted => simpa [request, index, Accepts] using interest
  | KAdded =>
    rw [index, if_pos rfl] at interest
    by_cases wanted : c.isNoneEvent = true
    · simp [request, index, wanted, Accepts, interest]
    · simp [request, index, wanted, Accepts, interest]

/-- The assertions hold for a mirrored channel, and the kernel takes over its events. -/
theorem updateChannel_mirrored (mirrors : p.Mirrors c watched) :
    p.updateChannel c = some (p.record c, { c with index := c.nextIndex }) := by
  obtain ⟨table, interest⟩ := mirrors
  cases index : c.index with
  | KNew =>
    have unknown : p.channels c.fd = false := by simpa [index] using table
    rw [index, if_neg (by decide)] at interest
    simp [updateChannel, index, unknown, update, interest, record, nextIndex]
  | KDeleted =>
    have known : p.channels c.fd = true := by simpa [index] using table
    have kept : Function.update p.channels c.fd true = p.channels := by
      rw [← known, Function.update_eq_self]
    rw [index, if_neg (by decide)] at interest
    simp [updateChannel, index, known, update, interest, record, nextIndex, kept]
  | KAdded =>
    have known : p.channels c.fd = true := by simpa [index] using table
    have kept : Function.update p.channels c.fd true = p.channels := by
      rw [← known, Function.update_eq_self]
    rw [index, if_pos rfl] at interest
    by_cases wanted : c.isNoneEvent = true
    · simp [updateChannel, index, wanted, update, interest, record, nextIndex, kept]
    · have same : { c with index := .KAdded } = c := by rw [← index]
      simp [updateChannel, index, wanted, update, interest, record, nextIndex, kept, same]

/-- The poller after the channel was removed. -/
def forget (p : EPollPoller) (c : Channel) : EPollPoller where
  channels := Function.update p.channels c.fd false
  interest := Function.update p.interest c.fd none

/-- Removal deletes the entry of a mirrored channel, if the kernel has one. -/
theorem removeChannel_mirrored (mirrors : p.Mirrors c watched) :
    p.removeChannel c = some (p.forget c, { c with index := .KNew }) := by
  obtain ⟨_, interest⟩ := mirrors
  by_cases added : c.index = .KAdded
  · rw [if_pos added] at interest
    simp [removeChannel, added, update, interest, forget]
  · rw [if_neg added] at interest
    have kept : Function.update p.interest c.fd none = p.interest := by
      rw [← interest, Function.update_eq_self]
    simp [removeChannel, added, forget, kept]

end EPollPoller

/-! ## Sequences of operations -/

/-- The operations by which an owner changes the wanted events of a channel. -/
inductive ChannelUpdate where
  | enableReading
  | enableWriting
  | disableWriting
  | disableAll
deriving DecidableEq

namespace ChannelUpdate

def perform : ChannelUpdate → EPollPoller → Channel → Option (EPollPoller × Channel)
  | enableReading => Channel.enableReading
  | enableWriting => Channel.enableWriting
  | disableWriting => Channel.disableWriting
  | disableAll => Channel.disableAll

/-- The channel as the operation hands it to the poller. -/
def apply (operation : ChannelUpdate) (c : Channel) : Channel :=
  match operation with
  | enableReading => { c with events := c.events ||| KReadEvent }
  | enableWriting => { c with events := c.events ||| KWriteEvent }
  | disableWriting => { c with events := c.events &&& ~~~KWriteEvent }
  | disableAll => { c with events := KNoneEvent }

theorem perform_eq (operation : ChannelUpdate) (p : EPollPoller) (c : Channel) :
    operation.perform p c = p.updateChannel (operation.apply c) := by
  cases operation <;> rfl

@[simp] theorem apply_fd (operation : ChannelUpdate) (c : Channel) :
    (operation.apply c).fd = c.fd := by
  cases operation <;> rfl

@[simp] theorem apply_index (operation : ChannelUpdate) (c : Channel) :
    (operation.apply c).index = c.index := by
  cases operation <;> rfl

end ChannelUpdate

/-- A poller, the channels that share it, and the channel that its table holds for each
descriptor. -/
structure PollerChannels (ι : Type) where
  poller : EPollPoller
  channel : ι → Channel
  entry : Nat → Option ι

namespace PollerChannels

variable {ι : Type} [DecidableEq ι]

inductive Label (ι : Type) where
  | update (i : ι) (operation : ChannelUpdate)
  | remove (i : ι) (loop : ActiveEvents)

/-- New channels for these descriptors, and a poller that knows none of them. -/
def initial (fd : ι → Nat) : PollerChannels ι where
  poller := EPollPoller.initial
  channel i := Channel.new (fd i)
  entry _ := none

/-- A new channel is entered in the table, and removal erases it. -/
def step (s : PollerChannels ι) : Label ι → Option (PollerChannels ι)
  | .update i operation => do
      let (poller, channel) ← operation.perform s.poller (s.channel i)
      let entry :=
        if (s.channel i).index = .KNew then Function.update s.entry (s.channel i).fd (some i)
        else s.entry
      return ⟨poller, Function.update s.channel i channel, entry⟩
  | .remove i loop => do
      let (poller, channel) ← (s.channel i).remove loop s.poller
      return ⟨poller, Function.update s.channel i channel,
        Function.update s.entry (s.channel i).fd none⟩

/-- Only a channel that wants no events is removed. -/
def Enabled (s : PollerChannels ι) : Label ι → Prop
  | .update _ _ => True
  | .remove i _ => (s.channel i).isNoneEvent = true

instance (s : PollerChannels ι) : (label : Label ι) → Decidable (s.Enabled label)
  | .update .. => instDecidableTrue
  | .remove .. => decEq _ _

def system : System (PollerChannels ι) (Label ι) where
  step := step
  enabled := Enabled

instance (s : PollerChannels ι) (label : Label ι) : Decidable (system.enabled s label) :=
  inferInstanceAs (Decidable (s.Enabled label))

/-- The table, the kernel and the channels agree. -/
structure Agrees (fd : ι → Nat) (s : PollerChannels ι) : Prop where
  descriptor : ∀ i, (s.channel i).fd = fd i
  keys : ∀ n, s.poller.channels n = true ↔ ∃ i, s.entry n = some i
  entry : ∀ n i, s.entry n = some i ↔ fd i = n ∧ (s.channel i).index ≠ .KNew
  interest : ∀ n mask, s.poller.interest n = some mask ↔
    ∃ i, fd i = n ∧ (s.channel i).index = .KAdded ∧ (s.channel i).events = mask

/-- The operation succeeds and the kernel accepts each call. Removal may still be refused by
the loop, whose batch of events lists the channel. -/
def Accepted (s : PollerChannels ι) : Label ι → Prop
  | .update i operation =>
      s.poller.Accepts (operation.apply (s.channel i)).request (s.channel i).fd ∧
        (s.step (.update i operation)).isSome
  | .remove i loop =>
      ((s.channel i).index = .KAdded →
        s.poller.Accepts .EPOLL_CTL_DEL (s.channel i).fd) ∧
        (loop.Removable (s.channel i).fd → (s.step (.remove i loop)).isSome)

/-- A channel changes together with its entries in the table and the kernel. -/
def set (s : PollerChannels ι) (i : ι) (c : Channel) : PollerChannels ι where
  poller :=
    { channels := Function.update s.poller.channels c.fd (decide (c.index ≠ .KNew))
      interest := Function.update s.poller.interest c.fd
        (if c.index = .KAdded then some c.events else none) }
  channel := Function.update s.channel i c
  entry := Function.update s.entry c.fd (if c.index = .KNew then none else some i)

section Steps

variable {fd : ι → Nat} {s next : PollerChannels ι}

omit [DecidableEq ι] in
theorem initial_agrees (fd : ι → Nat) : (initial fd).Agrees fd where
  descriptor _ := rfl
  keys _ := by simp [initial, EPollPoller.initial]
  entry _ _ := by simp [initial, Channel.new]
  interest _ _ := by simp [initial, EPollPoller.initial, Channel.new]

/-- Descriptors are distinct, so a change of one channel is no change of another. -/
theorem set_agrees (distinct : Function.Injective fd) (agrees : s.Agrees fd) (i : ι)
    (c : Channel) (descriptor : c.fd = fd i) : (s.set i c).Agrees fd := by
  have others (n : Nat) (other : n ≠ fd i) (j : ι) (same : fd j = n) : j ≠ i := by
    rintro rfl
    exact other same.symm
  refine ⟨fun j => ?_, fun n => ?_, fun n j => ?_, fun n mask => ?_⟩
  · by_cases same : j = i
    · simp [set, same, descriptor]
    · simp [set, same, agrees.descriptor]
  · by_cases own : n = fd i
    · cases index : c.index <;> simp [set, own, descriptor, index]
    · simp [set, descriptor, own, agrees.keys]
  · by_cases own : n = fd i
    · by_cases same : j = i
      · cases index : c.index <;> simp [set, own, same, descriptor, index]
      · have different : fd j ≠ fd i := fun equal => same (distinct equal)
        have absent : i ≠ j := fun equal => same equal.symm
        cases index : c.index <;> simp [set, own, descriptor, index, different, absent]
    · simp only [set, descriptor, Function.update_of_ne own, agrees.entry]
      refine and_congr_right fun found => ?_
      rw [Function.update_of_ne (others n own j found)]
  · by_cases own : n = fd i
    · cases index : c.index <;> simp [set, own, descriptor, index, distinct.eq_iff]
    · simp only [set, descriptor, Function.update_of_ne own, agrees.interest]
      refine exists_congr fun j => and_congr_right fun found => ?_
      rw [Function.update_of_ne (others n own j found)]

omit [DecidableEq ι] in
/-- The poller mirrors a channel whatever events an operation asks for. -/
theorem Agrees.mirrors (distinct : Function.Injective fd) (agrees : s.Agrees fd) (i : ι) :
    s.poller.Mirrors (s.channel i) (s.channel i).events := by
  have own (j : ι) : fd j = (s.channel i).fd ↔ j = i := by
    rw [agrees.descriptor i]
    exact distinct.eq_iff
  constructor
  · simp [agrees.keys, agrees.entry, own]
  · split_ifs with added
    · simp [agrees.interest, own, added]
    · refine Option.eq_none_iff_forall_ne_some.mpr ?_
      simp [agrees.interest, own, added]

omit [DecidableEq ι] in
theorem Agrees.mirrors_apply (distinct : Function.Injective fd) (agrees : s.Agrees fd) (i : ι)
    (operation : ChannelUpdate) :
    s.poller.Mirrors (operation.apply (s.channel i)) (s.channel i).events := by
  obtain ⟨table, interest⟩ := agrees.mirrors distinct i
  exact ⟨by simpa using table, by simpa using interest⟩

theorem step_update (distinct : Function.Injective fd) (agrees : s.Agrees fd) (i : ι)
    (operation : ChannelUpdate) :
    s.step (.update i operation) =
      some (s.set i { operation.apply (s.channel i) with
        index := (operation.apply (s.channel i)).nextIndex }) := by
  have entered : (operation.apply (s.channel i)).nextIndex ≠ .KNew := by
    rw [nextIndex]
    split_ifs <;> simp
  have entry : (if (s.channel i).index = .KNew then
      Function.update s.entry (s.channel i).fd (some i) else s.entry) =
        Function.update s.entry (s.channel i).fd (some i) := by
    split_ifs with new
    · rfl
    · have known := (agrees.entry (s.channel i).fd i).mpr ⟨(agrees.descriptor i).symm, new⟩
      rw [← known, Function.update_eq_self]
  simp [step, ChannelUpdate.perform_eq,
    EPollPoller.updateChannel_mirrored (agrees.mirrors_apply distinct i operation), entry, set,
    EPollPoller.record, entered]

theorem step_remove (distinct : Function.Injective fd) (agrees : s.Agrees fd) (i : ι)
    (loop : ActiveEvents) (disabled : (s.channel i).isNoneEvent = true) :
    s.step (.remove i loop) =
      if loop.Removable (s.channel i).fd then some (s.set i { s.channel i with index := .KNew })
      else none := by
  by_cases removable : loop.Removable (s.channel i).fd
  · simp [step, Channel.remove, disabled, ActiveEvents.removeChannel, removable,
      EPollPoller.removeChannel_mirrored (agrees.mirrors distinct i), set, EPollPoller.forget]
  · simp [step, Channel.remove, disabled, ActiveEvents.removeChannel, removable, failure]

theorem step_agrees (distinct : Function.Injective fd) (label : Label ι) (agrees : s.Agrees fd)
    (enabled : s.Enabled label) (done : s.step label = some next) : next.Agrees fd := by
  cases label with
  | update i operation =>
    cases (step_update distinct agrees i operation).symm.trans done
    refine set_agrees distinct agrees i _ ?_
    simp [agrees.descriptor]
  | remove i loop =>
    rw [step_remove distinct agrees i loop enabled] at done
    obtain ⟨_, made⟩ := Option.ite_none_right_eq_some.mp done
    cases made
    exact set_agrees distinct agrees i _ (agrees.descriptor i)

theorem step_accepted (distinct : Function.Injective fd) (label : Label ι) (agrees : s.Agrees fd)
    (enabled : s.Enabled label) : s.Accepted label := by
  cases label with
  | update i operation =>
    have accepted := (agrees.mirrors_apply distinct i operation).accepts
    rw [operation.apply_fd] at accepted
    exact ⟨accepted, by simp [step_update distinct agrees i operation]⟩
  | remove i loop =>
    have interest := (agrees.mirrors distinct i).interest
    refine ⟨fun added => ?_, fun removable => ?_⟩
    · simp [EPollPoller.Accepts, interest, added]
    · simp [step_remove distinct agrees i loop enabled, removable]

end Steps

/-- However the owners of channels with distinct descriptors change the wanted events and
remove channels that want none, every operation succeeds, every call of `epoll_ctl` is
accepted, and the table, the kernel and the channels agree.

Proof: an operation replaces one channel and its entries. Agreement before it decides which
call the kernel accepts; since descriptors are distinct, nothing else changes. -/
theorem bookkeeping_agrees (fd : ι → Nat) (distinct : Function.Injective fd)
    (labels : List (Label ι)) (valid : system.Valid (initial fd) labels) :
    system.Along Accepted (initial fd) labels ∧
      ∀ final, system.run (initial fd) labels = some final → final.Agrees fd := by
  have preserved : ∀ (s : PollerChannels ι) label next, s.Agrees fd → s.Enabled label →
      s.step label = some next → next.Agrees fd :=
    fun _ label _ agrees enabled done => step_agrees distinct label agrees enabled done
  constructor
  · exact System.along_invariant (Agrees fd) preserved
      (fun _ label agrees enabled => step_accepted distinct label agrees enabled) _ labels
      (initial_agrees fd) valid
  · intro final finished
    exact System.run_invariant (Agrees fd) preserved _ final labels (initial_agrees fd) valid
      finished

/-- Two channels are enabled, changed and disabled in turn. One is removed while the kernel
watches it for nothing, and is added again. -/
def inTurn : List (Label Bool) :=
  [.update false .disableAll, .update true .enableReading, .update true .enableWriting,
    .remove false ⟨false, none, []⟩, .update true .disableAll, .update true .disableWriting,
    .update true .disableAll, .remove true ⟨true, some 8, [8]⟩, .update false .enableReading]

/-- The poller and both channels agree at the end. -/
theorem bookkeeping_agrees_two : ∃ final,
      system.run (initial fun second : Bool => if second then 8 else 7) inTurn = some final ∧
      final.Agrees (fun second : Bool => if second then 8 else 7) ∧
      system.Along Accepted (initial fun second : Bool => if second then 8 else 7) inTurn := by
  have agrees := bookkeeping_agrees (fun second : Bool => if second then 8 else 7) (by decide)
    inTurn (by decide)
  exact ⟨_, rfl, agrees.2 _ rfl, agrees.1⟩

end PollerChannels

end Moban
