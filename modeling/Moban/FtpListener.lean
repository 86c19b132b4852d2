import Moban.FtpServers

/-!
# The listener of the latest `PASV`

The data server that the latest `PASV` announced is the current one. It should be closed only for
a reason of its own: a data connection that it accepted is down, a transfer on such a connection
was given up, its own timer has expired while it was unused, or a newer `PASV` replaces it.

A timer, a lost connection and a transfer that was given up all close whatever data server is the
current one by then. A `PASV` does not cancel the timer of the server before, and it leaves
connections and functors of that server behind. Each of them can close the new server.
-/

namespace Moban

open Runs

/-- The functor closes the current data server. -/
def FtpFunctor.closes : FtpFunctor → Bool
  | .closeDataServer _ => true
  | _ => false

namespace FtpSession

/-- The step closes this data server for a reason of its own. -/
def Causes (s : FtpSession) (server : Nat) : Label → Prop
  | .command line _ => FtpCommand.parse line = .pasv
  | .timeout timer => timer = server ∧ s.xfer = .kNone ∧ s.dataConn = none
  | .runFunctor _ => ∃ rest, s.functors = some (.closeDataServer (some server) :: rest)
  | _ => False

/-- If the step closes the current data server, it has a reason. -/
def Justified (s : FtpSession) (label : Label) : Prop :=
  ∀ server next, s.dataServer = some server → s.step label = some next →
    next.dataServer ≠ some server → s.Causes server label

/-- A `PASV` that makes a data server finds no timer that could still expire, no connection that is
open and no closing of a data server that is queued. Connections are accepted by the current data
server. -/
def Settled (s : FtpSession) : Label → Prop
  | .command line _ => s.state = .kLoggedIn → FtpCommand.parse line = .pasv →
      s.timers = [] ∧ true ∉ s.opens ∧ ∀ functor ∈ s.queued, functor.closes = false
  | .accept server _ => s.dataServer = some server
  | _ => True

instance (s : FtpSession) : DecidablePred s.Settled
  | .command .. => instDecidableForall
  | .accept .. => decEq _ _
  | .dataClosed _ | .dataWritable .. | .timeout _ | .ctrlForceClose | .ctrlClosed | .taskDone ..
  | .beginFunctors | .runFunctor _ | .endFunctors => instDecidableTrue

/-- Timers, queued closings and open connections belong to the current data server, if there is
one. -/
structure Listening (s : FtpSession) : Prop where
  timers : ∀ timer ∈ s.timers, s.dataServer = none ∨ s.dataServer = some timer
  causes : ∀ cause, .closeDataServer cause ∈ s.queued → s.dataServer = none ∨ s.dataServer = cause
  conns : ∀ (id : Nat) (c : DataConnection), s.connections[id]? = some c → c.Open →
    s.dataServer = none ∨ s.dataServer = some c.server
  taken : ∀ id : Nat, s.dataConn = some id →
    ∃ c : DataConnection, s.connections[id]? = some c ∧ s.dataServer = some c.server
  free : s.dataServer.isSome = true → s.dataConn = none → true ∉ s.opens

section Steps

variable {s next : FtpSession} {input : FtpInput} {label : Label}

/-! ## What the functions keep -/

theorem Ages.opens (ages : s.Ages next) (opened : true ∈ next.opens) : true ∈ s.opens := by
  obtain ⟨c, member, stillOpen⟩ := List.mem_map.mp opened
  obtain ⟨id, found⟩ := List.mem_iff_getElem?.mp member
  obtain ⟨before, there, _, closes, _⟩ := ages.entry id c found
  exact mem_opens there (closes (of_decide_eq_true stillOpen))

theorem Listening.kept {more : List FtpFunctor} (listening : s.Listening)
    (keeps : s.Keeps next more) (timers : ∀ timer ∈ next.timers, timer ∈ s.timers)
    (causes : ∀ cause, .closeDataServer cause ∈ more → s.dataServer = none ∨ s.dataServer = cause) :
    next.Listening where
  timers := by
    rw [keeps.dataServer]
    exact fun timer member => listening.timers timer (timers timer member)
  causes := by
    rw [keeps.queued, keeps.dataServer]
    intro cause member
    rcases List.mem_append.mp member with before | new
    · exact listening.causes cause before
    · exact causes cause new
  conns := by
    rw [keeps.dataServer]
    intro id c found opened
    obtain ⟨before, there, server, closes, _⟩ := keeps.ages.entry id c found
    rw [← server]
    exact listening.conns id before there (closes opened)
  taken := by
    rw [keeps.dataConn, keeps.dataServer]
    intro id taken
    obtain ⟨before, found, current⟩ := listening.taken id taken
    obtain ⟨c, there, server⟩ := keeps.ages.survives found
    exact ⟨c, there, server ▸ current⟩
  free := by
    rw [keeps.dataConn, keeps.dataServer]
    exact fun current free opened => listening.free current free (keeps.ages.opens opened)

/-- No closing is queued, and no timer is new. -/
theorem Listening.plain {more : List FtpFunctor} (listening : s.Listening)
    (keeps : s.Keeps next more) (timers : next.timers = s.timers)
    (quiet : ∀ functor ∈ more, functor.closes = false) : next.Listening :=
  listening.kept keeps (fun _ member => timers ▸ member)
    fun cause member => absurd (quiet _ member) (by simp [FtpFunctor.closes])

/-- The data connection belongs to the current data server. Where there is none, no connection is
open. -/
theorem Listening.current (listening : s.Listening) :
    (s.dataServer = none ∨ s.dataServer = s.transferServer) ∨
      (s.dataConn = none ∧ true ∉ s.opens) := by
  cases server : s.dataServer with
  | none => exact .inl (.inl rfl)
  | some current =>
    cases conn : s.dataConn with
    | none => exact .inr ⟨rfl, listening.free (by simp [server]) conn⟩
    | some id =>
      obtain ⟨c, found, same⟩ := listening.taken id conn
      refine .inl (.inr ?_)
      simp [transferServer, conn?, conn, found, ← same, server]

theorem Listening.works (listening : s.Listening) (works : ∃ more, s.Works next more)
    (timers : next.timers = s.timers)
    (current : s.dataServer = none ∨ s.dataServer = s.transferServer) : next.Listening := by
  obtain ⟨more, works⟩ := works
  refine listening.kept works.toKeeps (fun _ member => timers ▸ member) fun cause member => ?_
  have concerns : cause = s.transferServer := works.concerns _ member
  rwa [concerns]

theorem Requests.timers (requests : s.Requests input next) : next.timers = s.timers := by
  cases requests <;> rfl

theorem Delivers.timers {chunk : Chunk} (delivers : s.Delivers chunk input next) :
    next.timers = s.timers := by
  cases delivers <;> rfl

theorem Starts.timers (starts : s.Starts input next) : next.timers = s.timers := by
  cases starts with
  | waits | refused => rfl
  | pumps _ _ _ requests => exact requests.timers

theorem not_connected_of_none (free : s.dataConn = none) : ¬ s.connected = true := by
  simp [connected, conn?, free]

theorem Listening.requests (listening : s.Listening) (requests : s.Requests input next) :
    next.Listening := by
  rcases listening.current with current | ⟨free, _⟩
  · exact listening.works requests.works requests.timers current
  · cases requests with
    | idle => exact listening
    | reads up | lists up | ends up | rejected up => exact absurd up (not_connected_of_none free)

/-- A chunk that is dated is of an earlier transfer where no connection is open. -/
theorem Listening.delivers {chunk : Chunk} (listening : s.Listening)
    (owned : s.Opened → true ∈ s.opens) (dated : s.Dated chunk.gen)
    (delivers : s.Delivers chunk input next) : next.Listening := by
  rcases listening.current with current | ⟨_, closed⟩
  · exact listening.works delivers.works delivers.timers current
  · have old : chunk.gen ≠ s.xferGen := by
      rcases dated with earlier | ⟨_, opened⟩
      · exact earlier.ne
      · exact absurd (owned opened) closed
    cases delivers with
    | stale => exact listening
    | fails now | ends now | dropped now | sends now | sendsLast now => exact absurd now old

theorem Listening.starts (listening : s.Listening) (starts : s.Starts input next) :
    next.Listening := by
  rcases listening.current with current | ⟨free, _⟩
  · exact listening.works starts.works starts.timers current
  · cases starts with
    | waits => exact listening
    | refused up | pumps up => exact absurd up (not_connected_of_none free)

theorem lose_timers (s : FtpSession) (id server : Nat) :
    ∀ timer ∈ (s.lose id server).timers, timer ∈ s.timers := by
  have ends : (s.lose id server).timers =
      (s.onConnection id DataConnection.close).endTransfer.timers := rfl
  rcases (s.onConnection id DataConnection.close).endTransfer_cases with
    ⟨_, _, aborted⟩ | ⟨_, completed⟩
  · rw [ends, aborted]
    exact fun _ member => member
  · have cancels : (s.onConnection id DataConnection.close).sendDataEndReply.timers =
        s.timers.filter fun timer => some timer ≠ s.pasvTimerId := by
      rw [sendDataEndReply, endReply]
      split <;> rfl
    rw [ends, completed, cancels]
    exact fun _ member => List.mem_of_mem_filter member

/-- A connection of the current data server is lost. -/
theorem Listening.lose (listening : s.Listening) {id : Nat} {c : DataConnection}
    (found : s.connections[id]? = some c) (opened : c.Open) : (s.lose id c.server).Listening := by
  refine listening.kept (lose_keeps s id c.server) (lose_timers s id c.server) ?_
  intro cause member
  cases List.mem_singleton.mp member
  exact listening.conns id c found opened

theorem closeDataServer_listening (s : FtpSession) : s.closeDataServer.Listening :=
  ⟨fun _ _ => .inl rfl, fun _ _ => .inl rfl, fun _ _ _ _ => .inl rfl, nofun, nofun⟩

/-- A data server is made where nothing is left of an earlier one. -/
theorem Listening.cmdPasv (listening : s.Listening) (timers : s.timers = [])
    (closed : true ∉ s.opens) (quiet : ∀ functor ∈ s.queued, functor.closes = false) :
    (s.cmdPasv input).Listening := by
  have listens (before : FtpSession) (untimed : before.timers = []) (unopened : true ∉ before.opens)
      (silent : ∀ functor ∈ before.queued, functor.closes = false) (free : before.dataConn = none) :
      (before.listen.reply
        (.enteringPassive input.ipNetEndian input.portNetEndian)).Listening := by
    refine ⟨fun timer member => ?_, fun cause member => ?_, fun id c found opened => ?_,
      fun id taken => ?_, fun _ _ => unopened⟩
    · have new : timer ∈ before.timers ++ [before.numServers] := member
      rw [untimed, List.nil_append, List.mem_singleton] at new
      exact .inr (congrArg some new.symm)
    · exact absurd (silent _ member) (by simp [FtpFunctor.closes])
    · exact absurd (mem_opens (s := before) found opened) unopened
    · exact absurd (free.symm.trans taken) (by simp)
  unfold FtpSession.cmdPasv
  split
  · refine listens _ timers closed (fun functor member => ?_) rfl
    rw [closeDataServer_queued] at member
    rcases List.mem_append.mp member with before | new
    · exact quiet functor before
    · obtain ⟨server, _, rfl⟩ : ∃ server, s.dataServer = some server ∧
          .deleteServer server = functor := by simpa using new
      rfl
  case isFalse unserved =>
    refine listens _ timers closed quiet ?_
    by_contra taken
    obtain ⟨id, found⟩ := Option.ne_none_iff_exists'.mp taken
    obtain ⟨_, _, current⟩ := listening.taken id found
    simp [current] at unserved

theorem Listening.obeys {line : List UInt8} (listening : s.Listening)
    (settled : s.Settled (.command line input)) (obeys : s.Obeys line input next) :
    next.Listening := by
  cases obeys with
  | chats => exact listening.plain (.of_eq rfl rfl rfl rfl rfl rfl rfl) rfl nofun
  | passive loggedIn asked =>
    obtain ⟨timers, closed, quiet⟩ := settled loggedIn asked
    exact listening.cmdPasv timers closed quiet
  | lists longNames _ _ starts =>
    have begun : ((s.beginList longNames).cancel.reply .directoryListing).Listening :=
      listening.kept (.of_eq rfl rfl rfl rfl rfl rfl rfl)
        (fun _ member => List.mem_of_mem_filter member) nofun
    exact begun.starts starts
  | retrieves arg _ _ starts =>
    have begun : ((s.beginRetr ([46, 47] ++ arg)).cancel.reply .openingBinary).Listening :=
      listening.kept (.of_eq rfl rfl rfl rfl rfl rfl rfl)
        (fun _ member => List.mem_of_mem_filter member) nofun
    exact begun.starts starts
  | quits => exact listening.plain (.of_eq rfl rfl rfl rfl rfl rfl rfl) rfl nofun

/-- The current data server accepts a connection. -/
theorem Listening.accepts {server : Nat} (listening : s.Listening)
    (current : s.dataServer = some server) (accepts : s.Accepts server input next) :
    next.Listening := by
  cases accepts with
  | extra taken =>
    refine ⟨listening.timers, fun cause member => ?_, fun id c found opened => ?_,
      fun id same => ?_, fun _ free => ?_⟩
    · have queue : ((s.addConnection server).forceClose s.connections.length).queued =
          s.queued ++ [.forceCloseInLoop s.connections.length] := by
        simp [forceClose, addConnection, queued, isOpen, DataConnection.new, DataConnection.Open]
      rw [queue] at member
      exact listening.causes cause (by simpa using member)
    · rw [extra_getElem?] at found
      split at found
      · cases found
        exact .inr current
      · exact listening.conns id c found opened
    · obtain ⟨c, found, server⟩ := listening.taken id same
      obtain ⟨bound, _⟩ := List.getElem?_eq_some_iff.mp found
      exact ⟨c, (extra_getElem? ..).trans ((if_neg bound.ne).trans found), server⟩
    · have unconnected : s.dataConn = none := free
      simp [unconnected] at taken
  | first _ starts =>
    have taken : ((s.addConnection server).takeConnection s.connections.length).Listening := by
      refine ⟨listening.timers, listening.causes, fun id c found opened => ?_, fun id same => ?_,
        fun _ free => by cases free⟩
      · rw [taken_getElem?] at found
        split at found
        · cases found
          exact .inr current
        · exact listening.conns id c found opened
      · cases same
        exact ⟨_, (taken_getElem? ..).trans (if_pos rfl), current⟩
    exact taken.starts starts

theorem Listening.pasvTimeout (listening : s.Listening) (timer : Nat) :
    (s.pasvTimeout timer).Listening := by
  have expired : Listening { s with timers := s.timers.filter (· ≠ timer) } :=
    listening.kept (.of_eq rfl rfl rfl rfl rfl rfl rfl)
      (fun _ member => List.mem_of_mem_filter member) nofun
  unfold FtpSession.pasvTimeout
  simp only
  split
  · exact closeDataServer_listening _
  · exact expired

theorem Listening.remaining {functor : FtpFunctor} {rest : List FtpFunctor}
    (listening : s.Listening) (running : s.functors = some (functor :: rest)) :
    (s.remaining rest).Listening :=
  ⟨listening.timers, fun cause member => listening.causes cause
    (queued_remaining running ▸ List.mem_cons_of_mem _ member),
    listening.conns, listening.taken, listening.free⟩

theorem Listening.call {functor : FtpFunctor} (listening : s.Listening)
    (owned : s.Opened → true ∈ s.opens)
    (dated : ∀ chunk, functor = .sendChunkReady chunk → s.Dated chunk.gen)
    (done : s.call functor input = some next) : next.Listening := by
  cases functor with
  | closeDataServer =>
    cases done
    exact closeDataServer_listening s
  | deleteServer server =>
    refine destroyConnections_keeps Listening ?_ ?_ done
    · rintro s id c listening found rfl established
      exact listening.lose found (.inl established)
    · exact listening.plain (.of_eq rfl rfl rfl rfl rfl rfl rfl) rfl nofun
  | sendChunkReady chunk =>
    exact listening.delivers owned (dated chunk rfl) (sendChunkReady_inv done)
  | writeComplete id bound => exact listening.requests (writeComplete_inv done)
  | forceCloseInLoop id =>
    rcases forceCloseInLoop_inv done with rfl | ⟨c, found, opened, rfl⟩
    · exact listening
    · exact listening.lose found opened

/-! ## Steps -/

/-- Every step that meets the condition leaves timers, closings and connections with the current
data server. -/
theorem step_listening (listening : s.Listening) (consistent : s.Consistent)
    (enabled : s.Enabled label) (settled : s.Settled label) (done : s.step label = some next) :
    next.Listening := by
  cases label with
  | command line input => exact listening.obeys settled (handleCommand_inv done)
  | accept server input => exact listening.accepts settled (accept_inv done)
  | dataClosed id =>
    obtain ⟨c, found, opened, rfl⟩ := handleClose_inv done
    exact listening.lose found opened
  | dataWritable id count =>
    obtain ⟨c, found, rfl⟩ := handleWrite_inv done
    refine listening.plain (drain_keeps found) rfl fun functor member => ?_
    split at member
    · rw [List.mem_singleton.mp member]
      rfl
    · simp at member
  | timeout timer =>
    cases done
    exact listening.pasvTimeout timer
  | ctrlForceClose =>
    cases done
    exact listening.plain (.of_eq rfl rfl rfl rfl rfl rfl rfl) rfl nofun
  | ctrlClosed =>
    cases done
    exact listening.plain (.of_eq rfl rfl rfl rfl rfl rfl rfl) rfl nofun
  | taskDone index result =>
    obtain ⟨task, _, rfl⟩ := taskDone_inv done
    have keeps : s.Keeps (s.finishTask index (task.chunk result))
      [.sendChunkReady (task.chunk result)] := ⟨.of_eq rfl, rfl, rfl, rfl, rfl, rfl, rfl⟩
    refine listening.plain keeps rfl fun functor member => ?_
    rw [List.mem_singleton.mp member]
    rfl
  | beginFunctors =>
    cases done
    have idle : s.functors = none := enabled
    have queue : s.beginFunctors.queued = s.queued := by simp [queued, beginFunctors, idle]
    exact ⟨listening.timers, queue ▸ listening.causes, listening.conns, listening.taken,
      listening.free⟩
  | runFunctor input =>
    obtain ⟨functor, rest, running, called⟩ := runFunctor_inv done enabled.1
    have dated (chunk : Chunk) (same : functor = .sendChunkReady chunk) : s.Dated chunk.gen := by
      refine consistent.chunks chunk ?_
      rw [queued_remaining running, same]
      exact List.mem_cons_self
    exact (listening.remaining running).call consistent.owned dated called
  | endFunctors =>
    cases done
    have empty : s.functors = some [] := enabled
    have queue : s.endFunctors.queued = s.queued := by simp [queued, endFunctors, empty]
    exact ⟨listening.timers, queue ▸ listening.causes, listening.conns, listening.taken,
      listening.free⟩

theorem initial_listening : initial.Listening := ⟨nofun, nofun, nofun, nofun, nofun⟩

/-- A data connection is taken where no connection is open. -/
theorem Listening.fresh (listening : s.Listening) (consistent : s.Consistent)
    (settled : s.Settled label) : s.Fresh label := by
  cases label with
  | accept server input =>
    intro free opened
    have current : s.dataServer = some server := settled
    exact listening.free (by simp [current]) free (consistent.owned opened)
  | _ => trivial

/-- Every step that closes the current data server has a reason. -/
theorem step_justified (listening : s.Listening) (enabled : s.Enabled label) :
    s.Justified label := by
  intro server next current done closed
  have stays (same : next.dataServer = s.dataServer) : s.Causes server label :=
    absurd (same.trans current) closed
  cases label with
  | command line input =>
    cases handleCommand_inv done with
    | passive _ asked => exact asked
    | chats | quits => exact stays rfl
    | lists _ _ _ starts | retrieves _ _ _ starts =>
      obtain ⟨_, works⟩ := starts.works
      exact stays works.dataServer
  | accept listener input =>
    cases accept_inv done with
    | extra => exact stays rfl
    | first _ starts =>
      obtain ⟨_, works⟩ := starts.works
      exact stays works.dataServer
  | dataClosed id =>
    obtain ⟨c, _, _, rfl⟩ := handleClose_inv done
    exact stays (lose_keeps s id c.server).dataServer
  | dataWritable id count =>
    obtain ⟨c, _, rfl⟩ := handleWrite_inv done
    exact stays rfl
  | timeout timer =>
    cases done
    unfold pasvTimeout at closed stays
    simp only at closed stays
    split at closed
    case isTrue unused =>
      have own := (listening.timers timer enabled.2).resolve_left (by simp [current])
      exact ⟨Option.some.inj (own.symm.trans current), unused.2⟩
    · exact absurd current closed
  | ctrlForceClose | ctrlClosed | beginFunctors | endFunctors =>
    cases done
    exact stays rfl
  | taskDone index result =>
    obtain ⟨task, _, rfl⟩ := taskDone_inv done
    exact stays rfl
  | runFunctor input =>
    obtain ⟨functor, rest, running, called⟩ := runFunctor_inv done enabled.1
    cases functor with
    | closeDataServer cause =>
      have member : .closeDataServer cause ∈ s.queued := by
        rw [queued_remaining running]
        exact List.mem_cons_self
      have own := (listening.causes cause member).resolve_left (by simp [current])
      exact ⟨rest, by rw [running, ← own, current]⟩
    | deleteServer other =>
      refine stays (destroyConnections_keeps (s := (s.remaining rest).unlisten other)
        (fun middle => middle.dataServer = s.dataServer) ?_ rfl called)
      intro middle id c same _ _ _
      exact (lose_keeps middle id other).dataServer.trans same
    | sendChunkReady chunk =>
      obtain ⟨_, works⟩ := (sendChunkReady_inv called).works
      exact stays works.dataServer
    | writeComplete id bound =>
      obtain ⟨_, works⟩ := (writeComplete_inv called).works
      exact stays works.dataServer
    | forceCloseInLoop id =>
      rcases forceCloseInLoop_inv called with rfl | ⟨c, _, _, rfl⟩
      · exact stays rfl
      · exact stays (lose_keeps _ id c.server).dataServer

end Steps

/-- In every run whose steps all meet the condition, a step that closes the data server of the
latest `PASV` has a reason of that server's own.

Proof: timers, queued closings and open connections belong to the current data server, since a
`PASV` finds none of an earlier one and only the current server accepts connections. -/
theorem listener_stays_open (labels : List Label) (valid : system.Valid initial labels)
    (settled : system.Along Settled initial labels) : system.Along Justified initial labels := by
  refine System.along_invariant (fun s : FtpSession => s.Listening ∧ s.Consistent) ?_ ?_ initial
    labels ⟨initial_listening, initial_consistent⟩
    ((System.along_and _ _ _ _).mpr ⟨valid, settled⟩)
  · rintro s label next ⟨listening, consistent⟩ ⟨enabled, condition⟩ done
    exact ⟨step_listening listening consistent enabled condition done,
      step_consistent consistent enabled (listening.fresh consistent condition) done⟩
  · rintro s label ⟨listening, _⟩ ⟨enabled, _⟩
    exact step_justified listening enabled

/-! ## Runs that close a listener -/

/-- A listing is sent on a data connection, and the connection and the data server are closed.
Another data server is made and closed by its timer. -/
def listenedTwice : List Label :=
  listened
    [commandLine ['L', 'I', 'S', 'T'] {}, .accept 0 { opened := some 4 }, .beginFunctors,
      .endFunctors, .dataClosed 0, .beginFunctors, .runFunctor {}, .endFunctors,
      commandLine ['P', 'A', 'S', 'V'] {}, .timeout 1]

/-- Both data servers are closed for a reason. -/
theorem listener_stays_open_twice : system.Along Justified initial listenedTwice ∧
      ∃ final, system.run initial listenedTwice = some final ∧ final.numServers = 2 ∧
        final.dataServer = none :=
  ⟨listener_stays_open listenedTwice (by decide) (by decide), _, rfl, rfl, rfl⟩

/-- A second `PASV` arrives before the timer of the first one has expired. -/
def askedTwice : List Label := listened [commandLine ['P', 'A', 'S', 'V'] {}]

/-- The connection of the first data server goes down, a second `PASV` arrives, and the loop turns
to its functors. -/
def lostAndAsked : List Label :=
  listened
    [.accept 0 {}, .beginFunctors, .endFunctors, .dataClosed 0, commandLine ['P', 'A', 'S', 'V'] {},
      .beginFunctors]

/-- The timer of the first data server closes the second one, and so does the teardown of a
connection of the first data server. -/
theorem listener_closed_by_earlier : (system.Valid initial (askedTwice ++ [.timeout 0]) ∧
      ∃ s final, system.run initial askedTwice = some s ∧ s.dataServer = some 1 ∧
        s.step (.timeout 0) = some final ∧ final.dataServer = none ∧
        ¬ s.Causes 1 (.timeout 0)) ∧
    (system.Valid initial (lostAndAsked ++ [.runFunctor {}]) ∧
      ∃ s final, system.run initial lostAndAsked = some s ∧ s.dataServer = some 1 ∧
        s.step (.runFunctor {}) = some final ∧ final.dataServer = none ∧
        ¬ s.Causes 1 (.runFunctor {})) :=
  ⟨⟨by decide, _, _, rfl, rfl, rfl, rfl, by simp [Causes]⟩, by decide, _, _, rfl, rfl, rfl, rfl, by
    rintro ⟨rest, same⟩
    cases same⟩

end FtpSession

end Moban
