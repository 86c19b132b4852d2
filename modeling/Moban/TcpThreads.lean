import Moban.Tables
import Moban.TcpLifetime

/-!
# A connection used by several threads

Other threads send, shut down and force a close. Such a call reads the state of the
connection, may store a new one, and leaves the rest to a functor that the loop calls
later; each of the three is a step of its own. In the loop thread, `send` and `shutdown`
act at once, and `forceClose` queues its functor behind what the other threads have queued.

The queue of the loop holds the functors of all threads in the order of their arrival. What
the connection's own code queues is moved there as soon as its step ends. A history keeps
the calls of `send` that returned before `shutdown` was invoked anywhere, and the
connection as it was at every shutdown of its writing side.
-/

namespace Moban

open Runs Function

/-- What the loop calls: a functor of the connection's own code, or the rest of a call that
another thread has made. -/
inductive LoopFunctor where
  | own (functor : ConnectionFunctor)
  | sendInLoop (ticket : Nat) (message : List UInt8)
  | shutdownInLoop
deriving DecidableEq

/-- A call of another thread that has found the connection in the right state. A shutdown or
a forced close stores the new state before it queues its functor. -/
inductive ThreadCall where
  | send (ticket : Nat) (message : List UInt8)
  | shutdown (stored : Bool)
  | forceClose (stored : Bool)
deriving DecidableEq

namespace ThreadCall

/-- The call is about to store the new state. -/
def stores : ThreadCall → Bool
  | .send _ _ => false
  | .shutdown stored => !stored
  | .forceClose stored => !stored

/-- The call that has stored the new state. -/
def store : ThreadCall → ThreadCall
  | .send ticket message => .send ticket message
  | .shutdown _ => .shutdown true
  | .forceClose _ => .forceClose true

/-- The functor that ends the call. -/
def functor : ThreadCall → LoopFunctor
  | .send ticket message => .sendInLoop ticket message
  | .shutdown _ => .shutdownInLoop
  | .forceClose _ => .own .forceCloseInLoop

end ThreadCall

/-- A shutdown of the writing side: the connection at that moment, the messages that had been
given to `sendInLoop`, whether a forced close had been asked for, and whether the call came
from the queue. -/
structure HalfClose where
  conn : TcpConnection
  given : List Nat
  forced : Bool
  queued : Bool

/-- A connection in its loop, the queue of the loop, and the calls of other threads. -/
structure TcpThreads where
  life : Lifecycle
  pendingFunctors : List LoopFunctor
  calls : Nat → Option ThreadCall
  /-- The number of sends that found the connection up. -/
  tickets : Nat
  /-- The tickets of the messages given to `sendInLoop`, in order. -/
  given : List Nat
  /-- The sends that returned before the first call of `shutdown`. -/
  early : List (Nat × List UInt8)
  invoked : Bool
  forced : Bool
  halfCloses : List HalfClose

namespace TcpThreads

inductive Label where
  | loop (label : Lifecycle.Label)
  | runFunctor (result : WriteResult) (logged : Nat)
  | send (thread : Nat) (message : List UInt8)
  | shutdown (thread : Nat)
  | forceClose (thread : Nat)
  | store (thread : Nat)
  | queue (thread : Nat)
deriving DecidableEq

/-- A connection whose establishment was just reported. -/
def established (conn : TcpConnection) : TcpThreads where
  life := Lifecycle.established conn
  pendingFunctors := []
  calls := fun _ => none
  tickets := 0
  given := []
  early := []
  invoked := false
  forced := false
  halfCloses := []

def conn (s : TcpThreads) : TcpConnection := s.life.conn

/-! ## The loop thread -/

/-- A step of the loop thread ends: what the connection has queued goes to the queue of the
loop, and a shutdown of the writing side is recorded. -/
def settle (s : TcpThreads) (life : Lifecycle) (queued : Bool) : TcpThreads :=
  let halfClose : HalfClose :=
    { conn := life.conn, given := s.given, forced := s.forced, queued := queued }
  { s with
    life := { life with conn := { life.conn with functors := [] } }
    pendingFunctors := s.pendingFunctors ++ life.conn.functors.map .own
    halfCloses :=
      if life.conn.log.count .shutdownWrite = s.conn.log.count .shutdownWrite then s.halfCloses
      else s.halfCloses ++ [halfClose] }

/-- A send returns. -/
def returned (s : TcpThreads) (ticket : Nat) (message : List UInt8) : TcpThreads :=
  { s with early := if s.invoked then s.early else s.early ++ [(ticket, message)] }

/-- What the history keeps of a call that user code makes in the loop thread. -/
def note (s : TcpThreads) : Lifecycle.Label → TcpThreads
  | .user (.send message _ _) =>
      if s.conn.state = .KConnected then
        { s with tickets := s.tickets + 1, given := s.given ++ [s.tickets] }.returned
          s.tickets message
      else
        s
  | .user .shutdown => { s with invoked := true }
  | .user .forceClose => { s with forced := true }
  | _ => s

/-- The loop calls its next functor. -/
def runFunctor (s : TcpThreads) (result : WriteResult) (logged : Nat) : Option TcpThreads :=
  match s.pendingFunctors with
  | [] => none
  | functor :: rest =>
      let popped := { s with pendingFunctors := rest }
      match functor with
      | .own functor => do
          let loaded := { s.life with conn := { s.conn with functors := [functor] } }
          let life ← loaded.runFunctor
          return popped.settle life false
      | .sendInLoop ticket message => do
          let sent ← s.conn.sendInLoop message result logged
          return { popped with given := s.given ++ [ticket] }.settle
            { s.life with conn := sent } false
      | .shutdownInLoop =>
          some (popped.settle { s.life with conn := s.conn.shutdownInLoop } true)

/-! ## Other threads -/

/-- The first part of `send`: read the state. -/
def send (s : TcpThreads) (thread : Nat) (message : List UInt8) : TcpThreads :=
  if s.conn.state = .KConnected then
    { s with
      calls := update s.calls thread (some (.send s.tickets message))
      tickets := s.tickets + 1 }
  else
    s

/-- The first part of `shutdown`: read the state. -/
def shutdown (s : TcpThreads) (thread : Nat) : TcpThreads :=
  let invoked := { s with invoked := true }
  if s.conn.state = .KConnected then
    { invoked with calls := update s.calls thread (some (.shutdown false)) }
  else
    invoked

/-- The first part of `forceClose`: read the state. -/
def forceClose (s : TcpThreads) (thread : Nat) : TcpThreads :=
  let invoked := { s with forced := true }
  if s.conn.Open then
    { invoked with calls := update s.calls thread (some (.forceClose false)) }
  else
    invoked

/-- The second part of `shutdown` and `forceClose`: store the new state. -/
def store (s : TcpThreads) (thread : Nat) : Option TcpThreads := do
  let call ← s.calls thread
  return { s with
    life := { s.life with conn := { s.conn with state := .KDisconnecting } }
    calls := update s.calls thread (some call.store) }

/-- The last part of a call: queue its functor and return. -/
def queue (s : TcpThreads) (thread : Nat) : Option TcpThreads := do
  let call ← s.calls thread
  let queued := { s with
    pendingFunctors := s.pendingFunctors ++ [call.functor]
    calls := update s.calls thread none }
  return match call with
  | .send ticket message => queued.returned ticket message
  | _ => queued

/-! ## Runs -/

def step (s : TcpThreads) : Label → Option TcpThreads
  | .loop label => do
      let life ← s.life.step label
      return (s.note label).settle life false
  | .runFunctor result logged => s.runFunctor result logged
  | .send thread message => some (s.send thread message)
  | .shutdown thread => some (s.shutdown thread)
  | .forceClose thread => some (s.forceClose thread)
  | .store thread => s.store thread
  | .queue thread => s.queue thread

/-- The message that the next functor gives to `sendInLoop`. -/
def nextMessage (s : TcpThreads) : Option (List UInt8) :=
  match s.pendingFunctors with
  | .sendInLoop _ message :: _ => some message
  | _ => none

/-- The thread is in a call that is about to store the new state, or to queue its functor. -/
def About (s : TcpThreads) (thread : Nat) (stores : Bool) : Prop :=
  (s.calls thread).map ThreadCall.stores = some stores

/-- What may happen next. Functors are called from the queue of the loop, outside of event
handling, and a thread makes one call at a time. -/
def Enabled (s : TcpThreads) : Label → Prop
  | .loop label => label ≠ .runFunctor ∧ s.life.Enabled label
  | .runFunctor result _ => s.life.loop.eventHandling = false ∧ s.life.calls = [] ∧
      s.pendingFunctors ≠ [] ∧ ∀ message ∈ s.nextMessage, result.Fits message
  | .send thread _ | .shutdown thread | .forceClose thread => s.calls thread = none
  | .store thread => s.About thread true
  | .queue thread => s.About thread false

instance (s : TcpThreads) (thread : Nat) (stores : Bool) : Decidable (s.About thread stores) :=
  decEq _ _

instance (s : TcpThreads) : (label : Label) → Decidable (s.Enabled label)
  | .loop _ | .runFunctor .. => instDecidableAnd
  | .send .. | .shutdown _ | .forceClose _ => decEq _ _
  | .store thread => inferInstanceAs (Decidable (s.About thread true))
  | .queue thread => inferInstanceAs (Decidable (s.About thread false))

def system : System TcpThreads Label where
  step := step
  enabled := Enabled

instance (s : TcpThreads) (label : Label) : Decidable (system.enabled s label) :=
  inferInstanceAs (Decidable (s.Enabled label))

/-! ## What a step does -/

/-- A turn of the loop thread: what is left of the history and the queue before the step ends,
and the connection in its loop then. -/
inductive Turn (s : TcpThreads) : Label → TcpThreads → Lifecycle → Bool → Prop where
  | loop {label : Lifecycle.Label} {life : Lifecycle} (stepped : s.life.step label = some life) :
      Turn s (.loop label) (s.note label) life false
  | own {functor : ConnectionFunctor} {rest : List LoopFunctor} {life : Lifecycle}
      {result : WriteResult} {logged : Nat} (pending : s.pendingFunctors = .own functor :: rest)
      (ran : Lifecycle.runFunctor
        { s.life with conn := { s.conn with functors := [functor] } } = some life) :
      Turn s (.runFunctor result logged) { s with pendingFunctors := rest } life false
  | sendInLoop {ticket : Nat} {message : List UInt8} {rest : List LoopFunctor}
      {sent : TcpConnection} {result : WriteResult} {logged : Nat}
      (pending : s.pendingFunctors = .sendInLoop ticket message :: rest)
      (sends : s.conn.sendInLoop message result logged = some sent) :
      Turn s (.runFunctor result logged)
        { s with pendingFunctors := rest, given := s.given ++ [ticket] }
        { s.life with conn := sent } false
  | shutdownInLoop {rest : List LoopFunctor} {result : WriteResult} {logged : Nat}
      (pending : s.pendingFunctors = .shutdownInLoop :: rest) :
      Turn s (.runFunctor result logged) { s with pendingFunctors := rest }
        { s.life with conn := s.conn.shutdownInLoop } true

/-- Another thread begins a call, or finds that there is nothing to do. -/
structure Begins (s : TcpThreads) (label : Label) (next : TcpThreads) : Prop where
  life : next.life = s.life
  pendingFunctors : next.pendingFunctors = s.pendingFunctors
  given : next.given = s.given
  early : next.early = s.early
  invoked : s.invoked = true → next.invoked = true
  forced : s.forced = true → next.forced = true
  halfCloses : next.halfCloses = s.halfCloses
  calls : ∀ thread call, next.calls thread = some call → s.calls thread = some call ∨
    (∃ ticket message, call = .send ticket message) ∨
    (call = .shutdown false ∧ next.invoked = true ∧ ∃ caller, label = .shutdown caller) ∨
    (call = .forceClose false ∧ next.forced = true)

/-- A step is a turn of the loop thread or a part of a call of another thread. -/
inductive Moves (s : TcpThreads) : Label → TcpThreads → Prop where
  | turn {label : Label} {base : TcpThreads} {life : Lifecycle} {queued : Bool}
      (turn : s.Turn label base life queued) : Moves s label (base.settle life queued)
  | begins {label : Label} {next : TcpThreads} (begun : s.Begins label next) : Moves s label next
  | stores {thread : Nat} {call : ThreadCall} (calling : s.calls thread = some call) :
      Moves s (.store thread) { s with
        life := { s.life with conn := { s.conn with state := .KDisconnecting } }
        calls := update s.calls thread (some call.store) }
  | sends {thread ticket : Nat} {message : List UInt8}
      (calling : s.calls thread = some (.send ticket message)) :
      Moves s (.queue thread) ({ s with
        pendingFunctors := s.pendingFunctors ++ [LoopFunctor.sendInLoop ticket message]
        calls := update s.calls thread none }.returned ticket message)
  | queues {thread : Nat} {call : ThreadCall} (calling : s.calls thread = some call)
      (other : ∀ ticket message, call ≠ .send ticket message) :
      Moves s (.queue thread) { s with
        pendingFunctors := s.pendingFunctors ++ [call.functor]
        calls := update s.calls thread none }

section Moves

variable {s next : TcpThreads} {label : Label}

theorem Begins.refl (s : TcpThreads) (label : Label) : s.Begins label s :=
  ⟨rfl, rfl, rfl, rfl, id, id, rfl, fun _ _ calling => .inl calling⟩

theorem loop_inv {label : Lifecycle.Label} (done : s.step (.loop label) = some next) :
    ∃ life, s.life.step label = some life ∧ next = (s.note label).settle life false := by
  obtain ⟨life, stepped, made⟩ := Option.bind_eq_some_iff.mp done
  exact ⟨life, stepped, (Option.some.inj made).symm⟩

theorem runFunctor_turn {result : WriteResult} {logged : Nat}
    (done : s.runFunctor result logged = some next) :
    s.Moves (.runFunctor result logged) next := by
  rw [runFunctor] at done
  split at done
  case h_1 => cases done
  case h_2 functor rest pending =>
    cases functor with
    | own functor =>
      obtain ⟨life, ran, made⟩ := Option.bind_eq_some_iff.mp done
      cases made
      exact .turn (.own pending ran)
    | sendInLoop ticket message =>
      obtain ⟨sent, sends, made⟩ := Option.bind_eq_some_iff.mp done
      cases made
      exact .turn (.sendInLoop pending sends)
    | shutdownInLoop =>
      cases done
      exact .turn (.shutdownInLoop pending)

theorem send_begins (s : TcpThreads) (thread : Nat) (message : List UInt8) :
    s.Begins (.send thread message) (s.send thread message) := by
  rw [send]
  split_ifs
  · refine ⟨rfl, rfl, rfl, rfl, id, id, rfl, fun other call calling => ?_⟩
    exact (update_inv calling).symm.imp And.right fun begun => .inl ⟨s.tickets, message, begun.2⟩
  · exact .refl s _

theorem shutdown_begins (s : TcpThreads) (thread : Nat) :
    s.Begins (.shutdown thread) (s.shutdown thread) := by
  simp only [shutdown]
  split_ifs
  · refine ⟨rfl, rfl, rfl, rfl, fun _ => rfl, id, rfl, fun other call calling => ?_⟩
    exact (update_inv calling).symm.imp And.right fun begun =>
      .inr (.inl ⟨begun.2, rfl, thread, rfl⟩)
  · exact ⟨rfl, rfl, rfl, rfl, fun _ => rfl, id, rfl, fun _ _ calling => .inl calling⟩

theorem forceClose_begins (s : TcpThreads) (thread : Nat) :
    s.Begins (.forceClose thread) (s.forceClose thread) := by
  simp only [forceClose]
  split_ifs
  · refine ⟨rfl, rfl, rfl, rfl, id, fun _ => rfl, rfl, fun other call calling => ?_⟩
    exact (update_inv calling).symm.imp And.right fun begun => .inr (.inr ⟨begun.2, rfl⟩)
  · exact ⟨rfl, rfl, rfl, rfl, id, fun _ => rfl, rfl, fun _ _ calling => .inl calling⟩

/-- Every step is one of the moves. -/
theorem step_moves (done : s.step label = some next) : s.Moves label next := by
  cases label with
  | loop label =>
    obtain ⟨life, stepped, rfl⟩ := loop_inv done
    exact .turn (.loop stepped)
  | runFunctor result logged => exact runFunctor_turn done
  | send thread message =>
    cases done
    exact .begins (send_begins s thread message)
  | shutdown thread =>
    cases done
    exact .begins (shutdown_begins s thread)
  | forceClose thread =>
    cases done
    exact .begins (forceClose_begins s thread)
  | store thread =>
    obtain ⟨call, calling, made⟩ := Option.bind_eq_some_iff.mp done
    cases made
    exact .stores calling
  | queue thread =>
    obtain ⟨call, calling, made⟩ := Option.bind_eq_some_iff.mp done
    cases made
    cases call with
    | send ticket message => exact .sends calling
    | shutdown stored => exact .queues calling (by simp)
    | forceClose stored => exact .queues calling (by simp)

theorem note_frame (s : TcpThreads) (label : Lifecycle.Label) :
    (s.note label).life = s.life ∧ (s.note label).pendingFunctors = s.pendingFunctors ∧
      (s.note label).calls = s.calls ∧ (s.note label).halfCloses = s.halfCloses := by
  unfold note
  split
  · split_ifs
    all_goals exact ⟨rfl, rfl, rfl, rfl⟩
  all_goals exact ⟨rfl, rfl, rfl, rfl⟩

/-- A turn takes at most the first functor out of the queue. -/
theorem Turn.frame {base : TcpThreads} {life : Lifecycle} {queued : Bool}
    (turn : s.Turn label base life queued) :
    base.conn = s.conn ∧ base.calls = s.calls ∧ base.halfCloses = s.halfCloses ∧
      (base.pendingFunctors = s.pendingFunctors ∨
        ∃ functor, s.pendingFunctors = functor :: base.pendingFunctors) := by
  cases turn with
  | loop stepped =>
    obtain ⟨life, pending, calls, halfCloses⟩ := note_frame s _
    exact ⟨by rw [conn, life, conn], calls, halfCloses, .inl pending⟩
  | own pending _ | sendInLoop pending _ | shutdownInLoop pending =>
    exact ⟨rfl, rfl, rfl, .inr ⟨_, pending⟩⟩

theorem Turn.shorter {base : TcpThreads} {life : Lifecycle} {queued : Bool}
    (turn : s.Turn label base life queued) : base.pendingFunctors ⊆ s.pendingFunctors := by
  rcases turn.frame.2.2.2 with same | ⟨functor, pending⟩
  · exact same ▸ List.Subset.refl _
  · rw [pending]
    exact List.subset_cons_self _ _

/-- The history forgets no message that was given, and no send becomes early once a shutdown
was invoked. -/
structure Remembers (s next : TcpThreads) : Prop where
  given : ∃ tickets, next.given = s.given ++ tickets
  early : s.invoked = true → next.invoked = true ∧ next.early = s.early

theorem Remembers.of_eq (given : next.given = s.given) (early : next.early = s.early)
    (invoked : s.invoked = true → next.invoked = true) : s.Remembers next :=
  ⟨⟨[], by rw [given, List.append_nil]⟩, fun asked => ⟨invoked asked, early⟩⟩

theorem returned_remembers (s : TcpThreads) (ticket : Nat) (message : List UInt8) :
    s.Remembers (s.returned ticket message) :=
  ⟨⟨[], (List.append_nil _).symm⟩, fun invoked => ⟨invoked, if_pos invoked⟩⟩

theorem note_remembers (s : TcpThreads) (label : Lifecycle.Label) : s.Remembers (s.note label) := by
  unfold note
  split
  · split_ifs
    · refine ⟨⟨[s.tickets], rfl⟩, fun invoked => ⟨invoked, if_pos invoked⟩⟩
    · exact .of_eq rfl rfl id
  · exact .of_eq rfl rfl fun _ => rfl
  · exact .of_eq rfl rfl id
  · exact .of_eq rfl rfl id

theorem step_remembers (done : s.step label = some next) : s.Remembers next := by
  cases step_moves done with
  | turn turn =>
    cases turn with
    | loop stepped =>
      obtain ⟨given, early⟩ := note_remembers s _
      exact ⟨given, early⟩
    | own pending ran => exact .of_eq rfl rfl id
    | sendInLoop pending sends => exact ⟨⟨_, rfl⟩, fun invoked => ⟨invoked, rfl⟩⟩
    | shutdownInLoop pending => exact .of_eq rfl rfl id
  | begins begun => exact .of_eq begun.given begun.early begun.invoked
  | stores calling => exact .of_eq rfl rfl id
  | sends calling =>
    obtain ⟨given, early⟩ := returned_remembers s _ _
    exact ⟨given, early⟩
  | queues calling other => exact .of_eq rfl rfl id

end Moves

end TcpThreads

end Moban
