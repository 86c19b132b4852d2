import Moban.TcpHalfClose

/-!
# Messages sent before a shutdown

A message that another thread sends waits in the queue of the loop. A shutdown in the loop
thread acts at once, and one in another thread stores the new state at once, so that
`handleWrite` may shut the writing side down as soon as it has emptied the buffer. Either can
overtake a message that is still queued. A shutdown that goes through the queue itself
cannot: the message stands before it.
-/

namespace Moban

open Runs

namespace TcpConnection

/-- The message of this send was given to `sendInLoop`, and this is what became of it. -/
def Given (given : List Nat) (offers : List Offer) (sent : Nat × List UInt8) (index : Nat)
    (offer : Offer) : Prop :=
  given[index]? = some sent.1 ∧ offers[index]? = some offer ∧ offer.message = sent.2

theorem Given.append {given : List Nat} {offers : List Offer} {sent : Nat × List UInt8}
    {index : Nat} {offer : Offer} (reached : Given given offers sent index offer)
    (tickets : List Nat) (more : List Offer) :
    Given (given ++ tickets) (offers ++ more) sent index offer := by
  obtain ⟨ticket, recorded, message⟩ := reached
  have first := (List.getElem?_eq_some_iff.mp ticket).1
  have second := (List.getElem?_eq_some_iff.mp recorded).1
  exact ⟨by rwa [List.getElem?_append_left first], by rwa [List.getElem?_append_left second],
    message⟩

/-- The last message that was given. -/
theorem Given.last {given : List Nat} {offers : List Offer} (matched : given.length = offers.length)
    (ticket : Nat) (offer : Offer) :
    Given (given ++ [ticket]) (offers ++ [offer]) (ticket, offer.message) given.length offer :=
  ⟨by simp, by simp [matched], rfl⟩

end TcpConnection

open TcpConnection

namespace HalfClose

/-- The connection was neither closed nor about to be closed by force, and no message was
dropped for a reason. -/
def Undisturbed (half : HalfClose) : Prop :=
  half.forced = false ∧ ¬ half.conn.Over ∧
    ∀ offer ∈ half.conn.offers, offer.dropped = true → offer.excused = false

/-- The message was not dropped, and the kernel has accepted it and everything before it. -/
def Delivered (half : HalfClose) (sent : Nat × List UInt8) : Prop :=
  ∃ index offer, Given half.given half.conn.offers sent index offer ∧ offer.dropped = false ∧
    kept (half.conn.offers.take (index + 1)) <+: half.conn.accepted

end HalfClose

namespace TcpThreads

def Reached (s : TcpThreads) (sent : Nat × List UInt8) : Prop :=
  ∃ index offer, Given s.given s.conn.offers sent index offer

/-- Every early message is among these functors or was given to the connection. -/
def Covered (s : TcpThreads) (functors : List LoopFunctor) : Prop :=
  ∀ sent ∈ s.early, .sendInLoop sent.1 sent.2 ∈ functors ∨ s.Reached sent

/-- No early message waits in the queue. -/
def Drained (s : TcpThreads) : Prop :=
  ∀ sent ∈ s.early, .sendInLoop sent.1 sent.2 ∉ s.pendingFunctors

instance (s : TcpThreads) : Decidable s.Drained := inferInstanceAs (Decidable (∀ _ ∈ _, _))

/-- The condition on a step: the writing side is shut down in the loop thread only when no
early message waits, and no direct write is misled by an error of another call. -/
def InOrder (s : TcpThreads) : Label → Prop
  | .loop (.user .shutdown) =>
      s.conn.state = .KConnected → s.conn.outputBuffer = [] → s.Drained
  | .loop (.callback _ result) => s.life.nextCallback = some .write →
      s.conn.state = .KDisconnecting → result.count = s.conn.outputBuffer.length → s.Drained
  | .loop (.user (.send message result logged)) => ¬ s.conn.Misled message result logged
  | .runFunctor result logged => ∀ message ∈ s.nextMessage, ¬ s.conn.Misled message result logged
  | _ => True

instance (s : TcpThreads) : (label : Label) → Decidable (s.InOrder label)
  | .loop (.user .shutdown) | .loop (.callback ..) => instDecidableForall
  | .loop (.user (.send ..)) => instDecidableNot
  | .runFunctor .. => inferInstanceAs (Decidable (∀ _ ∈ _, _))
  | .loop (.user .forceClose) | .loop (.user (.retrieve _)) | .loop (.poll ..) | .loop .turn
  | .loop .endCallbacks | .loop .endEvents | .loop .closeCallback
  | .loop .removeConnectionInLoop | .loop .runFunctor | .loop .finishDestroy | .send ..
  | .shutdown _ | .forceClose _ | .store _ | .queue _ => instDecidableTrue

/-- Where the early messages of an open connection are, and what has been asked for. -/
structure Traced (s : TcpThreads) : Prop where
  matched : s.given.length = s.conn.offers.length
  justified : s.conn.Justified
  asked : .shutdownInLoop ∈ s.pendingFunctors → s.invoked = true
  shutting : ∀ thread stored, s.calls thread = some (.shutdown stored) → s.invoked = true
  forcing : ∀ thread stored, s.calls thread = some (.forceClose stored) → s.forced = true
  began : s.conn.state ≠ .KConnected → s.invoked = true ∨ s.forced = true
  queued : s.Covered s.pendingFunctors
  /-- A queued shutdown stands behind all early messages. -/
  ordered : ∀ before, before ++ [.shutdownInLoop] <+: s.pendingFunctors → s.Covered before

section Steps

variable {s base next : TcpThreads} {label : Label} {life : Lifecycle}

/-- A prefix that ends in something absent from the rest is a prefix of the first part. -/
theorem prefix_of_append {α : Type} {before list tail : List α} {last : α} (absent : last ∉ tail)
    (shorter : before ++ [last] <+: list ++ tail) : before ++ [last] <+: list := by
  induction tail using List.reverseRecOn with
  | nil => simpa using shorter
  | append_singleton tail final ih =>
    rw [List.mem_append, not_or] at absent
    rw [← List.append_assoc, List.prefix_concat_iff] at shorter
    rcases shorter with same | shorter
    · have ends := (List.append_inj' same rfl).2
      exact absurd (ends ▸ List.mem_singleton_self last) absent.2
    · exact ih absent.1 shorter

theorem own_ne_shutdownInLoop (functors : List ConnectionFunctor) :
    .shutdownInLoop ∉ functors.map LoopFunctor.own := by
  simp

/-- A turn of the loop thread keeps track of the early messages: the functor that it takes out
of the queue gives its message to the connection, and a message that becomes early has been
given to it. -/
theorem Traced.settle (traced : s.Traced) {queued : Bool} (turn : s.Turn label base life queued)
    (matched : base.given.length = life.conn.offers.length) (justified : life.conn.Justified)
    (began : life.conn.state ≠ .KConnected → base.invoked = true ∨ base.forced = true)
    (invoked : s.invoked = true → base.invoked = true)
    (forced : s.forced = true → base.forced = true)
    (grown : ∀ sent, s.Reached sent → (base.settle life queued).Reached sent)
    (popped : ∀ ticket message, s.pendingFunctors = .sendInLoop ticket message ::
      base.pendingFunctors → (base.settle life queued).Reached (ticket, message))
    (early : base.early = s.early ∨ s.invoked = false ∧ ∃ sent, base.early = s.early ++ [sent] ∧
      (base.settle life queued).Reached sent) :
    (base.settle life queued).Traced := by
  obtain ⟨_, calls, _, pending⟩ := turn.frame
  -- What covered the early messages before the turn covers them after it.
  have covered (functors rest : List LoopFunctor) (before : s.Covered functors)
      (shorter : functors = rest ∨ ∃ functor, functors = functor :: rest ∧
        s.pendingFunctors = functor :: base.pendingFunctors)
      (same : base.early = s.early ∨ ∃ sent, base.early = s.early ++ [sent] ∧
        (base.settle life queued).Reached sent) :
      (base.settle life queued).Covered rest := by
    have old : ∀ sent ∈ s.early, .sendInLoop sent.1 sent.2 ∈ rest ∨
        (base.settle life queued).Reached sent := by
      intro sent member
      rcases before sent member with waiting | reached
      · rcases shorter with rfl | ⟨functor, rfl, taken⟩
        · exact .inl waiting
        · rcases List.mem_cons.mp waiting with rfl | later
          · exact .inr (popped sent.1 sent.2 taken)
          · exact .inl later
      · exact .inr (grown sent reached)
    intro sent member
    rcases same with same | ⟨other, appended, reached⟩
    · exact old sent (same ▸ member)
    · have split : sent ∈ s.early ++ [other] := appended ▸ member
      rcases List.mem_append.mp split with earlier | new
      · exact old sent earlier
      · cases List.mem_singleton.mp new
        exact .inr reached
  have asked (member : .shutdownInLoop ∈ base.pendingFunctors) : s.invoked = true :=
    traced.asked (turn.shorter member)
  refine ⟨matched, justified, fun member => ?_, fun thread stored calling => ?_,
    fun thread stored calling => ?_, began, ?_, fun before shorter => ?_⟩
  · rcases List.mem_append.mp member with earlier | own
    · exact invoked (asked earlier)
    · exact absurd own (own_ne_shutdownInLoop _)
  · exact invoked (traced.shutting thread stored (calls ▸ calling))
  · exact forced (traced.forcing thread stored (calls ▸ calling))
  · have kept := covered s.pendingFunctors base.pendingFunctors traced.queued
      (pending.imp Eq.symm fun ⟨functor, taken⟩ => ⟨functor, taken, taken⟩)
      (early.imp_right And.right)
    intro sent member
    exact (kept sent member).imp_left (List.mem_append_left _)
  · have inQueue := prefix_of_append (own_ne_shutdownInLoop _) shorter
    have wasInvoked := asked (inQueue.subset (by simp))
    have same : base.early = s.early := by
      rcases early with same | ⟨unasked, _⟩
      · exact same
      · rw [unasked] at wasInvoked
        cases wasInvoked
    rcases pending with unchanged | ⟨functor, taken⟩
    · exact covered before before (traced.ordered before (unchanged ▸ inQueue)) (.inl rfl)
        (.inl same)
    · refine covered (functor :: before) before (traced.ordered (functor :: before) ?_)
        (.inr ⟨functor, rfl, taken⟩) (.inl same)
      rw [taken, List.cons_append, List.prefix_cons_inj]
      exact inQueue

/-- A turn that gives no message to the connection. -/
theorem Traced.pass (traced : s.Traced) {queued : Bool}
    (turn : s.Turn label base life queued) (offers : life.conn.offers = s.conn.offers)
    (given : base.given = s.given) (early : base.early = s.early)
    (invoked : s.invoked = true → base.invoked = true)
    (forced : s.forced = true → base.forced = true)
    (began : life.conn.state ≠ .KConnected → base.invoked = true ∨ base.forced = true)
    (other : ∀ ticket message,
      s.pendingFunctors ≠ .sendInLoop ticket message :: base.pendingFunctors) :
    (base.settle life queued).Traced := by
  refine traced.settle turn ?_ ?_ began invoked forced ?_ ?_ (.inl early)
  · rw [given, offers, traced.matched]
  · rw [Justified, offers]
    exact traced.justified
  · rintro sent ⟨index, offer, reached⟩
    refine ⟨index, offer, ?_⟩
    show Given base.given life.conn.offers sent index offer
    rw [given, offers]
    exact reached
  · exact fun ticket message taken => absurd taken (other ticket message)

/-- A turn that gives a message to the open connection, which is not misled. -/
theorem Traced.give (traced : s.Traced) (ready : s.conn.Ready) (balanced : s.conn.Balanced)
    {sent : TcpConnection} {message : List UInt8} {result : WriteResult}
    {logged ticket : Nat} (fits : result.Fits message)
    (unmistaken : ¬ s.conn.Misled message result logged)
    (sends : s.conn.sendInLoop message result logged = some sent)
    (turn : s.Turn label base { s.life with conn := sent } false)
    (given : base.given = s.given ++ [ticket]) (invoked : base.invoked = s.invoked)
    (forced : base.forced = s.forced)
    (popped : ∀ other bytes, s.pendingFunctors = .sendInLoop other bytes :: base.pendingFunctors →
      other = ticket ∧ bytes = message)
    (early : base.early = s.early ∨
      s.invoked = false ∧ base.early = s.early ++ [(ticket, message)]) :
    (base.settle { s.life with conn := sent } false).Traced := by
  obtain ⟨same, sending, took⟩ := sendInLoop_took ready fits logged
  cases sending.symm.trans sends
  obtain ⟨_, streams, _, justified⟩ := sendInLoop_streaming ⟨.inl ready, balanced⟩ fits logged
  cases streams.symm.trans sends
  have last : (base.settle { s.life with conn := sent } false).Reached (ticket, message) := by
    refine ⟨s.given.length, ⟨message, decide (s.conn.Faulted message result logged),
      decide (s.conn.Excused result)⟩, ?_⟩
    show Given base.given sent.offers (ticket, message) s.given.length _
    rw [given, took.offers]
    exact Given.last traced.matched ticket _
  refine traced.settle turn ?_ (justified.mpr ⟨traced.justified, unmistaken⟩) ?_ (invoked ▸ id)
    (forced ▸ id) ?_ ?_ (early.imp_right fun ⟨unasked, more⟩ => ⟨unasked, _, more, last⟩)
  · rw [given, took.offers, List.length_append, List.length_append, traced.matched]
    rfl
  · rw [invoked, forced, (sendInLoop_sent sends).state]
    exact traced.began
  · rintro other ⟨index, offer, reached⟩
    refine ⟨index, offer, ?_⟩
    show Given base.given sent.offers other index offer
    rw [given, took.offers]
    exact reached.append _ _
  · intro other bytes taken
    obtain ⟨rfl, rfl⟩ := popped other bytes taken
    exact last

theorem loop_traced (traced : s.Traced) (flowing : s.Flowing) (up : ¬ s.conn.Over)
    {label : Lifecycle.Label} (enabled : s.life.Enabled label)
    (order : s.InOrder (.loop label)) (stepped : s.life.step label = some life)
    (still : ¬ life.conn.Over) : ((s.note label).settle life false).Traced := by
  have turn : s.Turn (.loop label) (s.note label) life false := .loop stepped
  have effect := Lifecycle.step_effect stepped
  have unpopped (ticket : Nat) (message : List UInt8) :
      s.pendingFunctors ≠ .sendInLoop ticket message :: (s.note label).pendingFunctors := by
    rw [(note_frame s label).2.1]
    exact fun taken => List.cons_ne_self _ _ taken.symm
  have quiet (silent : s.conn.Quiet life.conn) (noted : s.note label = s) :
      ((s.note label).settle life false).Traced := by
    refine traced.pass turn silent.offers (by rw [noted]) (by rw [noted]) (by rw [noted]; exact id)
      (by rw [noted]; exact id) (fun down => ?_) unpopped
    rw [noted]
    rcases silent.state with same | ⟨_, nowOver⟩
    · exact traced.began (same ▸ down)
    · exact absurd nowOver still
  cases label with
  | callback readv result =>
    rcases effect with silent | ⟨_, written⟩
    · exact quiet silent rfl
    · obtain ⟨_, writes, moved⟩ := handleWrite_moved (flowing.alive.ready up) enabled.2
      cases writes.symm.trans written
      refine traced.pass turn moved.offers rfl rfl id id (fun down => ?_) unpopped
      exact traced.began ((handleWrite_inv written).1 ▸ down)
  | user call =>
    cases call with
    | send message result logged =>
      by_cases connected : s.conn.state = .KConnected
      · have noted : s.note (.user (.send message result logged)) =
            { s with tickets := s.tickets + 1, given := s.given ++ [s.tickets] }.returned
              s.tickets message := if_pos connected
        have sends : s.conn.sendInLoop message result logged = some life.conn :=
          (if_pos connected).symm.trans effect
        obtain ⟨used, uses, made⟩ := Option.bind_eq_some_iff.mp stepped
        cases made
        refine traced.give (flowing.alive.ready up) flowing.balanced enabled order sends turn
          (by rw [noted]; rfl) (by rw [noted]; rfl) (by rw [noted]; rfl)
          (fun ticket bytes taken => absurd taken (unpopped ticket bytes)) ?_
        rw [noted]
        by_cases invoked : s.invoked = true
        · exact .inl (if_pos invoked)
        · exact .inr ⟨Bool.not_eq_true _ ▸ invoked, if_neg invoked⟩
      · have same : s.conn = life.conn := Option.some.inj ((if_neg connected).symm.trans effect)
        have silent : s.conn.Quiet life.conn := same ▸ .refl _
        exact quiet silent (if_neg connected)
    | shutdown =>
      refine traced.pass turn ?_ rfl rfl (fun _ => rfl) id (fun _ => .inl rfl) unpopped
      have moved := shutdown_moved (flowing.alive.ready up)
      rw [Lifecycle.Effect] at effect
      rw [effect]
      exact moved.offers
    | forceClose =>
      refine traced.pass turn ?_ rfl rfl id (fun _ => rfl) (fun _ => .inr rfl) unpopped
      rw [Lifecycle.Effect] at effect
      rw [effect]
      exact (forceClose_moved (flowing.alive.ready up)).offers
    | retrieve count => exact quiet effect rfl
  | poll | turn | endCallbacks | endEvents | closeCallback | removeConnectionInLoop | runFunctor
  | finishDestroy => exact quiet effect rfl

theorem turn_traced (traced : s.Traced) (flowing : s.Flowing) (up : ¬ s.conn.Over)
    {queued : Bool} (enabled : s.Enabled label)
    (order : s.InOrder label) (turn : s.Turn label base life queued) (still : ¬ life.conn.Over) :
    (base.settle life queued).Traced := by
  cases turn with
  | loop stepped => exact loop_traced traced flowing up enabled.2 order stepped still
  | @own functor _ _ result logged pending ran =>
    have loaded : s.conn.Quiet { s.conn with functors := [functor] } :=
      .of_eq rfl rfl rfl rfl rfl
    have silent := loaded.trans (Lifecycle.runFunctor_quiet ran)
    have turn : s.Turn (.runFunctor result logged) _ life false := .own pending ran
    refine traced.pass turn silent.offers rfl rfl id id (fun down => ?_) ?_
    · rcases silent.state with same | ⟨_, nowOver⟩
      · exact traced.began (same ▸ down)
      · exact absurd nowOver still
    · simp [pending]
  | @sendInLoop ticket message _ _ result logged pending sends =>
    have head : message ∈ s.nextMessage := by
      rw [nextMessage, pending]
      rfl
    have turn : s.Turn (.runFunctor result logged) _ _ false := .sendInLoop pending sends
    refine traced.give (flowing.alive.ready up) flowing.balanced (enabled.2.2.2 message head)
      (order message head) sends turn rfl rfl rfl ?_ (.inl rfl)
    intro other bytes taken
    rw [pending] at taken
    injection taken with first
    injection first with same bytes
    exact ⟨same.symm, bytes.symm⟩
  | @shutdownInLoop _ result logged pending =>
    have moved := shutdownInLoop_moved (flowing.alive.ready up)
    have turn : s.Turn (.runFunctor result logged) _ _ true := .shutdownInLoop pending
    refine traced.pass turn moved.offers rfl rfl id id (fun down => ?_) ?_
    · exact traced.began ((shutdownInLoop_frame s.conn).1 ▸ down)
    · simp [pending]

/-- Another thread begins a call. -/
theorem Traced.begins (traced : s.Traced) (begun : s.Begins label next) : next.Traced := by
  have same : next.conn = s.conn := by rw [conn, begun.life, conn]
  have reached (sent : Nat × List UInt8) : next.Reached sent ↔ s.Reached sent := by
    rw [Reached, begun.given, same, Reached]
  refine ⟨?_, ?_, ?_, fun thread stored calling => ?_, fun thread stored calling => ?_, ?_, ?_, ?_⟩
  · rw [begun.given, same, traced.matched]
  · rw [same]
    exact traced.justified
  · rw [begun.pendingFunctors]
    exact fun member => begun.invoked (traced.asked member)
  · rcases begun.calls thread _ calling with before | ⟨_, _, sends⟩ | ⟨_, asked, _⟩ | ⟨forces, _⟩
    · exact begun.invoked (traced.shutting thread stored before)
    · cases sends
    · exact asked
    · cases forces
  · rcases begun.calls thread _ calling with before | ⟨_, _, sends⟩ | ⟨shuts, _⟩ | ⟨_, asked⟩
    · exact begun.forced (traced.forcing thread stored before)
    · cases sends
    · cases shuts
    · exact asked
  · rw [same]
    exact fun down => (traced.began down).imp begun.invoked begun.forced
  · simp only [Covered, begun.early, begun.pendingFunctors, reached]
    exact traced.queued
  · simp only [Covered, begun.early, begun.pendingFunctors, reached]
    exact traced.ordered

/-- Another thread stores the state for a shutdown or a forced close that it has asked for. -/
theorem Traced.store (traced : s.Traced) {thread : Nat} {call : ThreadCall}
    (calling : s.calls thread = some call) (other : ∀ ticket message, call ≠ .send ticket message) :
    Traced { s with
      life := { s.life with conn := { s.conn with state := .KDisconnecting } }
      calls := Function.update s.calls thread (some call.store) } := by
  have asked : (∃ stored, call = .shutdown stored ∧ s.invoked = true) ∨
      ∃ stored, call = .forceClose stored ∧ s.forced = true := by
    cases call with
    | send ticket message => exact absurd rfl (other ticket message)
    | shutdown stored => exact .inl ⟨stored, rfl, traced.shutting thread stored calling⟩
    | forceClose stored => exact .inr ⟨stored, rfl, traced.forcing thread stored calling⟩
  refine ⟨traced.matched, traced.justified, traced.asked, fun other stored called => ?_,
    fun other stored called => ?_, fun _ => ?_, traced.queued, traced.ordered⟩
  · rcases update_inv called with ⟨_, same⟩ | ⟨_, before⟩
    · rcases asked with ⟨_, rfl, invoked⟩ | ⟨_, rfl, _⟩
      · exact invoked
      · cases same
    · exact traced.shutting other stored before
  · rcases update_inv called with ⟨_, same⟩ | ⟨_, before⟩
    · rcases asked with ⟨_, rfl, _⟩ | ⟨_, rfl, forced⟩
      · cases same
      · exact forced
    · exact traced.forcing other stored before
  · rcases asked with ⟨_, _, invoked⟩ | ⟨_, _, forced⟩
    · exact .inl invoked
    · exact .inr forced

/-- The functor of another thread's send is queued, and its message is early if nobody has asked
for a shutdown. -/
theorem Traced.send (traced : s.Traced) (thread ticket : Nat) (message : List UInt8) :
    Traced ({ s with
      pendingFunctors := s.pendingFunctors ++ [LoopFunctor.sendInLoop ticket message]
      calls := Function.update s.calls thread none }.returned ticket message) := by
  refine ⟨traced.matched, traced.justified, fun member => ?_, fun other stored called => ?_,
    fun other stored called => ?_, traced.began, fun sent member => ?_, fun before shorter => ?_⟩
  · exact traced.asked (by simpa [returned] using member)
  · exact traced.shutting other stored (update_none_inv called)
  · exact traced.forcing other stored (update_none_inv called)
  · by_cases invoked : s.invoked = true
    · simp only [returned, if_pos invoked] at member
      exact (traced.queued sent member).imp_left (List.mem_append_left _)
    · simp only [returned, if_neg invoked] at member
      rcases List.mem_append.mp member with earlier | new
      · exact (traced.queued sent earlier).imp_left (List.mem_append_left _)
      · cases List.mem_singleton.mp new
        exact .inl (List.mem_append_right _ (List.mem_singleton_self _))
  · have inQueue : before ++ [.shutdownInLoop] <+: s.pendingFunctors :=
      prefix_of_append (by simp) shorter
    simp only [Covered, returned, if_pos (traced.asked (inQueue.subset (by simp)))]
    exact traced.ordered before inQueue

/-- The functor of another thread's shutdown or forced close is queued. -/
theorem Traced.queue (traced : s.Traced) {thread : Nat} {call : ThreadCall}
    (calling : s.calls thread = some call) (other : ∀ ticket message, call ≠ .send ticket message) :
    Traced { s with
      pendingFunctors := s.pendingFunctors ++ [call.functor]
      calls := Function.update s.calls thread none } := by
  have asked (member : .shutdownInLoop ∈ [call.functor]) : s.invoked = true := by
    cases call with
    | send ticket message => exact absurd rfl (other ticket message)
    | shutdown stored => exact traced.shutting thread stored calling
    | forceClose stored => simp [ThreadCall.functor] at member
  refine ⟨traced.matched, traced.justified, fun member => ?_, fun other stored called => ?_,
    fun other stored called => ?_, traced.began, fun sent member => ?_, fun before shorter => ?_⟩
  · exact (List.mem_append.mp member).elim traced.asked asked
  · exact traced.shutting other stored (update_none_inv called)
  · exact traced.forcing other stored (update_none_inv called)
  · exact (traced.queued sent member).imp_left (List.mem_append_left _)
  · rcases List.prefix_concat_iff.mp shorter with last | inQueue
    · -- The new functor is the shutdown: all early messages stand before it.
      cases (List.append_inj' last rfl).1
      exact traced.queued
    · exact traced.ordered before inQueue

/-- The early messages are traced through every step in order. -/
theorem step_traced (traced : s.Traced) (flowing : s.Flowing) (up : ¬ s.conn.Over)
    (enabled : s.Enabled label) (order : s.InOrder label) (done : s.step label = some next)
    (still : ¬ next.conn.Over) : next.Traced := by
  cases step_moves done with
  | turn turn => exact turn_traced traced flowing up enabled order turn still
  | begins begun => exact traced.begins begun
  | @stores thread call calling =>
    simp only [Enabled, About, calling, Option.map_some, Option.some.injEq] at enabled
    refine traced.store calling fun ticket message same => ?_
    rw [same] at enabled
    cases enabled
  | sends calling => exact traced.send _ _ _
  | queues calling other => exact traced.queue calling other

end Steps

/-! ## Early messages are delivered -/

/-- What every step in order keeps. -/
structure Prompt (s : TcpThreads) : Prop where
  sane : s.Sane
  traced : ¬ s.conn.Over → s.Traced
  delivered : ∀ half ∈ s.halfCloses, half.Undisturbed →
    s.invoked = true ∧ ∀ sent ∈ s.early, half.Delivered sent

section Delivery

variable {s next : TcpThreads} {label : Label}

/-- A shutdown was invoked when the writing side of an undisturbed connection is shut down, and
all early messages have been given to the connection. -/
theorem halves_reached (prompt : s.Prompt) (up : ¬ s.conn.Over) (order : s.InOrder label)
    (done : s.step label = some next) (halves : Halves s next label)
    (unforced : next.forced = false) :
    next.invoked = true ∧ next.early = s.early ∧ ∀ sent ∈ s.early, s.Reached sent := by
  have traced := prompt.traced up
  have reached (drained : s.Drained) : ∀ sent ∈ s.early, s.Reached sent :=
    fun sent member => (traced.queued sent member).resolve_left (drained sent member)
  cases halves with
  | drained turn disconnecting whole empty =>
    obtain ⟨life, stepped, rfl⟩ := loop_inv done
    refine ⟨?_, rfl, reached (order turn disconnecting whole)⟩
    have began := traced.began (by simp [disconnecting])
    exact began.resolve_right (by simp [show s.forced = false from unforced])
  | shutdown connected down idle same =>
    obtain ⟨life, stepped, rfl⟩ := loop_inv done
    refine ⟨rfl, rfl, reached (order connected ?_)⟩
    by_contra filled
    have writing := ((prompt.sane.flowing up).alive.ready up).writing.mpr filled
    rw [idle] at writing
    cases writing
  | functor pending idle same =>
    simp only [step, runFunctor, pending] at done
    cases done
    refine ⟨traced.asked (pending ▸ List.mem_cons_self), rfl, fun sent member => ?_⟩
    have first : [] ++ [.shutdownInLoop] <+: s.pendingFunctors := by
      rw [pending]
      exact ⟨_, rfl⟩
    exact (traced.ordered [] first sent member).resolve_left List.not_mem_nil

/-- Messages that were given stay given. -/
theorem step_reached (flowing : s.Flowing) (up : ¬ s.conn.Over) (enabled : s.Enabled label)
    (done : s.step label = some next) {sent : Nat × List UInt8} (reached : s.Reached sent) :
    next.Reached sent := by
  obtain ⟨tickets, given⟩ := (step_remembers done).given
  obtain ⟨offers, grown⟩ : s.conn.offers <+: next.conn.offers := by
    obtain ⟨conn, functors, change, same⟩ := step_change enabled done
    rw [same]
    exact (change.extends (flowing.alive.ready up)).1
  obtain ⟨index, offer, found⟩ := reached
  refine ⟨index, offer, ?_⟩
  rw [given, ← grown]
  exact found.append tickets offers

theorem records_delivered (prompt : s.Prompt) (enabled : s.Enabled label) (order : s.InOrder label)
    (done : s.step label = some next) {half : HalfClose} (recorded : Records s next label half)
    (undisturbed : half.Undisturbed) :
    next.invoked = true ∧ ∀ sent ∈ next.early, half.Delivered sent := by
  obtain ⟨unforced, notOver, unbroken⟩ := undisturbed
  have still : ¬ next.conn.Over := by
    rw [recorded.conn]
    exact notOver
  have up : ¬ s.conn.Over := fun down => still (step_over enabled done down)
  have flowing := prompt.sane.flowing up
  obtain ⟨invoked, early, all⟩ := halves_reached prompt up order done recorded.halves
    (recorded.forced ▸ unforced)
  refine ⟨invoked, fun sent member => ?_⟩
  obtain ⟨index, offer, given⟩ := step_reached flowing up enabled done (all sent (early ▸ member))
  have traced := step_traced (prompt.traced up) flowing up enabled order done still
  rw [recorded.conn, ← recorded.given] at given
  have accepted := records_accepted prompt.sane recorded enabled done notOver
  refine ⟨index, offer, given, ?_, ?_⟩
  · have offered : offer ∈ half.conn.offers := List.mem_of_getElem? given.2.1
    have justified := traced.justified
    rw [recorded.conn] at justified
    by_contra dropped
    have excused := justified offer offered (by simpa using dropped)
    rw [unbroken offer offered (by simpa using dropped)] at excused
    cases excused
  · rw [accepted]
    exact kept_grows (List.take_prefix _ _)

theorem step_prompt (s : TcpThreads) (label : Label) (next : TcpThreads) (prompt : s.Prompt)
    (admitted : s.Enabled label ∧ s.InOrder label) (done : s.step label = some next) :
    next.Prompt := by
  obtain ⟨enabled, order⟩ := admitted
  refine ⟨step_sane s label next prompt.sane enabled done, fun still => ?_, ?_⟩
  · have up : ¬ s.conn.Over := fun down => still (step_over enabled done down)
    exact step_traced (prompt.traced up) (prompt.sane.flowing up) up enabled order done still
  · -- The early messages are settled once a shutdown was invoked.
    have kept (half : HalfClose) (member : half ∈ s.halfCloses) (undisturbed : half.Undisturbed) :
        next.invoked = true ∧ ∀ sent ∈ next.early, half.Delivered sent := by
      obtain ⟨invoked, delivered⟩ := prompt.delivered half member undisturbed
      obtain ⟨still, early⟩ := (step_remembers done).early invoked
      exact ⟨still, early ▸ delivered⟩
    exact step_each_half done kept fun half recorded undisturbed =>
      records_delivered prompt enabled order done recorded undisturbed

end Delivery

theorem established_prompt (fd : Nat) (poller : EPollPoller)
    (writeCompleteCallback highWaterMarkCallback : Bool) (highWaterMark : Nat) :
    Prompt (established (TcpConnection.established fd poller writeCompleteCallback
      highWaterMarkCallback highWaterMark)) where
  sane := established_sane fd poller writeCompleteCallback highWaterMarkCallback highWaterMark
  traced := fun _ =>
    { matched := rfl
      justified := fun _ offered => absurd offered List.not_mem_nil
      asked := fun member => absurd member List.not_mem_nil
      shutting := by simp [established]
      forcing := by simp [established]
      began := fun down => absurd rfl down
      queued := fun _ member => absurd member List.not_mem_nil
      ordered := fun _ _ _ member => absurd member List.not_mem_nil }
  delivered := fun _ member => absurd member List.not_mem_nil

/-- In every run whose steps are in order, a message whose send returned before the first call
of `shutdown` has been accepted by the kernel when the writing side is shut down, unless the
connection was closed, was to be closed by force, or found its peer gone before.

Proof: an early message is in the queue until it is given to the connection, and a queued
shutdown stands behind it. The other two ways to shut the writing side down are in order by
assumption. At that moment the buffer of the open connection is empty, and nothing was
dropped without a reason. -/
theorem sent_before_shutdown (fd : Nat) (poller : EPollPoller)
    (writeCompleteCallback highWaterMarkCallback : Bool) (highWaterMark : Nat)
    (unknown : poller.channels fd = false) (absent : poller.interest fd = none)
    (start : TcpConnection) (connected : (new fd poller writeCompleteCallback highWaterMarkCallback
      highWaterMark).connectEstablished = some start)
    (labels : List Label) (valid : system.Valid (established start) labels)
    (order : system.Along InOrder (established start) labels) (final : TcpThreads)
    (finished : system.run (established start) labels = some final) :
    ∀ half ∈ final.halfCloses, half.Undisturbed → ∀ sent ∈ final.early, half.Delivered sent := by
  cases (connectEstablished_exact unknown absent).symm.trans connected
  have initial := established_prompt fd poller writeCompleteCallback highWaterMarkCallback
    highWaterMark
  have along := (System.along_and Enabled InOrder _ labels).mpr ⟨valid, order⟩
  have prompt := System.run_invariant Prompt step_prompt _ final labels initial along finished
  exact fun half member undisturbed => (prompt.delivered half member undisturbed).2

/-- Two threads send and one of them shuts the connection down. The message of the other one is
buffered in parts behind the first. -/
def sentByTwo : List Label :=
  [.send 0 [1, 2], .send 1 [3], .queue 1, .queue 0, .shutdown 1, .runFunctor (.wrote 0) 0,
    .store 1, .runFunctor (.wrote 0) 0, .queue 1, .runFunctor (.wrote 0) 0,
    .loop (.poll [7] POLLOUT), .loop .turn, .loop (.callback (.failed 0) (.wrote 3))]

/-- Both messages are accepted before the handler of writability shuts the writing side down. -/
theorem sent_before_shutdown_queued : ∃ final,
      system.run (established (TcpConnection.established 7 EPollPoller.initial true true 64))
        sentByTwo = some final ∧
      final.early = [(1, [3]), (0, [1, 2])] ∧
      final.halfCloses.map (fun half => half.conn.accepted) = [[3, 1, 2]] ∧
      ∀ half ∈ final.halfCloses, half.Undisturbed → ∀ sent ∈ final.early, half.Delivered sent :=
  ⟨_, rfl, rfl, rfl, sent_before_shutdown 7 EPollPoller.initial true true 64 rfl rfl
    (TcpConnection.established 7 EPollPoller.initial true true 64)
    (connectEstablished_exact rfl rfl) sentByTwo (by decide) (by decide) _ rfl⟩

/-- Thread 0 sends a message and shuts the connection down. The handler of writability empties the
buffer after the new state was stored, before the message is queued behind it. -/
def drainedBefore : List Label :=
  [.loop (.user (.send [1, 2] (.wrote 1) 0)), .send 0 [3], .queue 0, .shutdown 0, .store 0,
    .loop (.poll [7] POLLOUT), .loop .turn, .loop (.callback (.failed 0) (.wrote 1)),
    .loop .endCallbacks, .loop .endEvents, .queue 0, .runFunctor (.failed EPIPE) EPIPE]

/-- Thread 0 sends a message and returns. A shutdown in the loop thread overtakes it: the
writing side is shut down while the message is queued, and the write that follows fails. The
same happens to a shutdown of thread 0 itself. -/
theorem shutdown_overtakes_send : ∃ start first second,
      (new 7 EPollPoller.initial true true 64).connectEstablished = some start ∧
      system.Valid (established start)
        [.send 0 [1], .queue 0, .loop (.user .shutdown), .runFunctor (.failed EPIPE) EPIPE] ∧
      system.run (established start)
        [.send 0 [1], .queue 0, .loop (.user .shutdown), .runFunctor (.failed EPIPE) EPIPE] =
        some first ∧
      first.early = [(0, [1])] ∧
      first.halfCloses.map (fun half => (half.conn.log, half.conn.offers, half.forced)) =
        [([.connection true, .shutdownWrite], [], false)] ∧
      first.conn.accepted = [] ∧ first.conn.outputBuffer = [] ∧
      system.Valid (established start) drainedBefore ∧
      system.run (established start) drainedBefore = some second ∧
      second.early = [(0, [1, 2]), (1, [3])] ∧
      second.halfCloses.map (fun half => (half.conn.log, half.conn.accepted, half.forced)) =
        [([.connection true, .shutdownWrite], [1, 2], false)] ∧
      second.conn.accepted = [1, 2] ∧ second.conn.outputBuffer = [] :=
  ⟨TcpConnection.established 7 EPollPoller.initial true true 64, _, _,
    connectEstablished_exact rfl rfl, by decide, rfl, rfl, rfl, rfl, rfl, by decide, rfl, rfl, rfl,
    rfl, rfl⟩

end TcpThreads

end Moban
