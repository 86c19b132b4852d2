import Moban.FtpCalls
import Moban.Paths

/-!
# What an FTP session gives access to

A session serves files below the directory of the process to users who are logged in. The login
is a matter of the commands that were accepted: a `USER` command is accepted at any time, and a
`PASS` command only after a `USER`. They are recorded here, and the login state says which of
them came last.

The path that is handed to `open` was made from the argument of a `RETR` command, when the
transfer began. The transfer may start much later, when a data connection is accepted. In between
the path stays, so that what was checked of the argument still holds. The directory of a listing
is always the same.
-/

namespace Moban

open Runs

namespace FtpSession

variable {s next : FtpSession} {input : FtpInput} {label : Label} {events : List FtpEvent}
  {accepted : List FtpCommand} {handle : FtpHandle}

/-! ## The login -/

/-- A `USER` or `PASS` command, if it is accepted. -/
def accepts (s : FtpSession) : FtpCommand → List FtpCommand
  | .user => [.user]
  | .pass => if s.state = .kNeedPass then [.pass] else []
  | _ => []

/-- The `USER` and `PASS` commands that a step accepts. -/
def credentials (s : FtpSession) : Label → List FtpCommand
  | .command line _ => s.accepts (FtpCommand.parse line)
  | _ => []

/-- The login state fits the commands that were accepted. -/
def Admits (accepted : List FtpCommand) : LoginState → Prop
  | .kNeedUser => accepted = []
  | .kNeedPass => ∃ earlier, accepted = earlier ++ [.user]
  | .kLoggedIn => ∃ earlier, accepted = earlier ++ [.user, .pass]

theorem Requests.state (requests : s.Requests input next) : next.state = s.state := by
  cases requests <;> rfl

theorem Delivers.state {chunk : Chunk} (delivers : s.Delivers chunk input next) :
    next.state = s.state := by
  cases delivers <;> rfl

theorem Starts.state (starts : s.Starts input next) : next.state = s.state := by
  cases starts with
  | waits => rfl
  | refused => rfl
  | pumps _ _ _ requests => exact requests.state

theorem lose_state (s : FtpSession) (id server : Nat) : (s.lose id server).state = s.state := by
  unfold lose handleDataDown endTransfer sendDataEndReply endReply
  split
  · rfl
  · split <;> rfl

theorem destroyConnections_state {server : Nat} {ids : List Nat}
    (done : s.destroyConnections server ids = some next) : next.state = s.state := by
  induction ids generalizing s with
  | nil =>
    cases done
    rfl
  | cons id rest ih =>
    obtain ⟨c, _, made⟩ := Option.bind_eq_some_iff.mp done
    split at made
    · exact ih made
    · split at made
      · exact (ih made).trans (lose_state s id server)
      · cases made

theorem call_state {functor : FtpFunctor} (done : s.call functor input = some next) :
    next.state = s.state := by
  cases functor with
  | closeDataServer server =>
    cases done
    rfl
  | deleteServer server =>
    have destroyed : next.state = (s.unlisten server).state := destroyConnections_state done
    exact destroyed
  | sendChunkReady chunk => exact (sendChunkReady_inv done).state
  | writeComplete id bound =>
    obtain ⟨_, _, rest⟩ := Option.bind_eq_some_iff.mp done
    obtain ⟨_, _, made⟩ := Option.bind_eq_some_iff.mp rest
    unfold writeCompleteCallback at made
    split at made
    · exact (requestNextChunk_inv made).state
    · cases made
      rfl
  | forceCloseInLoop id =>
    obtain ⟨_, _, made⟩ := Option.bind_eq_some_iff.mp done
    split at made
    · obtain ⟨_, _, _, rfl⟩ := handleClose_inv made
      exact lose_state s id _
    · cases made
      rfl

theorem requireLogin_state {action : FtpSession → Option FtpSession}
    (kept : action s = some next → next.state = s.state)
    (done : s.requireLogin action = some next) : next.state = s.state := by
  rcases requireLogin_inv done with ⟨_, made⟩ | rfl
  · exact kept made
  · rfl

theorem cmdList_state {longNames : Bool} (done : s.cmdList longNames input = some next) :
    next.state = s.state := by
  unfold cmdList at done
  split at done
  · cases done
    rfl
  · exact (tryStartTransfer_inv done).state

theorem cmdRetr_state {arg : List UInt8} (done : s.cmdRetr arg input = some next) :
    next.state = s.state := by
  unfold cmdRetr at done
  split_ifs at done
  all_goals first
    | exact (tryStartTransfer_inv done).state
    | cases done; rfl

theorem cmdPasv_state (s : FtpSession) (input : FtpInput) : (s.cmdPasv input).state = s.state := by
  unfold cmdPasv
  split <;> rfl

theorem Admits.unchanged (admits : Admits accepted s.state) (same : next.state = s.state) :
    Admits (accepted ++ []) next.state := by
  rw [same, List.append_nil]
  exact admits

/-- A command keeps the login state in step with what is accepted. -/
theorem execute_admits {command : FtpCommand} (admits : Admits accepted s.state)
    (done : s.execute command input = some next) :
    Admits (accepted ++ s.accepts command) next.state := by
  unfold execute at done
  cases command with
  | user =>
    cases done
    exact ⟨accepted, rfl⟩
  | pass =>
    cases done
    by_cases needed : s.state = .kNeedPass
    · rw [accepts, if_pos needed, cmdPass, if_neg (not_not_intro needed)]
      rw [needed] at admits
      obtain ⟨earlier, rfl⟩ := admits
      exact ⟨earlier, by simp⟩
    · rw [accepts, if_neg needed, cmdPass, if_pos needed]
      exact admits.unchanged rfl
  | pwd | type =>
    refine admits.unchanged (requireLogin_state (fun made => ?_) done)
    cases made
    rfl
  | pasv =>
    refine admits.unchanged (requireLogin_state (fun made => ?_) done)
    cases made
    exact cmdPasv_state s input
  | list longNames => exact admits.unchanged (requireLogin_state cmdList_state done)
  | retr arg => exact admits.unchanged (requireLogin_state cmdRetr_state done)
  | syst | quit | unknown =>
    cases done
    exact admits.unchanged rfl

theorem step_admits (admits : Admits accepted s.state) (enabled : s.Enabled label)
    (done : s.step label = some next) :
    Admits (accepted ++ s.credentials label) next.state := by
  cases label with
  | command line input => exact execute_admits admits done
  | accept server input =>
    refine admits.unchanged ?_
    have tried : s.accept server input = some next := done
    unfold accept handleDataUp at tried
    split at tried
    · cases tried
      rfl
    · exact (tryStartTransfer_inv tried).state
  | dataClosed id =>
    obtain ⟨c, _, _, rfl⟩ := handleClose_inv done
    exact admits.unchanged (lose_state s id c.server)
  | dataWritable id count =>
    obtain ⟨c, _, rfl⟩ := handleWrite_inv done
    exact admits.unchanged rfl
  | timeout timer =>
    cases done
    refine admits.unchanged ?_
    unfold pasvTimeout
    simp only
    split <;> rfl
  | taskDone index result =>
    obtain ⟨task, _, rfl⟩ := taskDone_inv done
    exact admits.unchanged rfl
  | runFunctor input =>
    obtain ⟨functor, rest, _, called⟩ := runFunctor_inv done enabled.1
    have same : next.state = (s.remaining rest).state := call_state called
    exact admits.unchanged same
  | ctrlForceClose | ctrlClosed | beginFunctors | endFunctors =>
    cases done
    exact admits.unchanged rfl

/-- Only a command that begins a transfer announces one. -/
theorem Pumped.announcements (pumped : s.Pumped next events) :
    next.announcements = s.announcements := by
  cases pumped with
  | rests rests => exact rests.announcements
  | ends ends => exact ends.announcements
  | submits _ _ _ _ _ _ rests => exact rests.announcements
  | finishes => rfl
  | sends _ _ continues _ => exact continues.announcements

theorem Launched.announcements (started : s.Launched input next events) :
    next.announcements = s.announcements := by
  cases started with
  | waits => rfl
  | refused _ _ _ rests => exact rests.announcements
  | opens _ _ _ pumped => exact pumped.announcements

/-- A session that announces a transfer has a user who is logged in. -/
theorem Recorded.announces (recorded : s.Recorded label next events)
    (announced : next.announcements ≠ s.announcements) : s.state = .kLoggedIn := by
  cases recorded with
  | pumps _ pumped => exact absurd pumped.announcements announced
  | begins begins _ => exact begins.1
  | accepts _ started => exact absurd started.announcements announced

/-! ## The paths -/

def kFtpRoot : List UInt8 := [46]

/-- The current directory, which no command changes. -/
def cwd : List UInt8 := [47]

/-- The path that the current transfer opens. -/
def openPath (s : FtpSession) : List UInt8 :=
  if s.xfer = .kRetr then s.xferFile else kFtpRoot ++ cwd

/-- The path that a step hands to `open` or `opendir`. -/
def passed (s : FtpSession) (label : Label) : Option (List UInt8) :=
  (s.starting label).bind fun start =>
    if start.1.connected = true ∧ start.1.xfer ≠ .kNone then some start.1.openPath else none

/-- The file of a transfer was checked: it is the argument of a command, below the root. -/
def Vetted (s : FtpSession) : Prop :=
  s.xfer = .kRetr → ∃ arg, ¬InvalidPath arg ∧ s.xferFile = [46, 47] ++ arg

theorem Vetted.same (vetted : s.Vetted) (xfer : next.xfer = s.xfer)
    (xferFile : next.xferFile = s.xferFile) : next.Vetted := by
  unfold Vetted
  rw [xfer, xferFile]
  exact vetted

theorem Pumped.vetted (pumped : s.Pumped next events) (vetted : s.Vetted) : next.Vetted := by
  cases pumped with
  | rests rests => exact vetted.same rests.xfer rests.xferFile
  | ends ends =>
    intro retr
    cases ends.xfer.symm.trans retr
  | submits _ _ _ _ _ _ rests => exact vetted.same rests.xfer rests.xferFile
  | finishes => exact vetted.same rfl rfl
  | sends _ _ continues _ => exact vetted.same continues.xfer continues.xferFile

theorem Launched.vetted (started : s.Launched input next events) (vetted : s.Vetted) :
    next.Vetted := by
  have opened : (s.openHandle input).Vetted := vetted.same rfl rfl
  cases started with
  | waits => exact vetted
  | refused _ _ _ rests => exact opened.same rests.xfer rests.xferFile
  | opens _ _ _ pumped => exact pumped.vetted opened

/-- The argument of a command that begins a transfer was checked. -/
theorem begun_vetted {line : List UInt8} (begins : s.Begins line input) :
    (s.begun line).Vetted := by
  obtain ⟨_, _, command⟩ := begins
  unfold begun
  split
  · intro retr
    cases retr
  case h_2 arg asked =>
    rw [asked] at command
    exact fun _ => ⟨arg, command.2.1, rfl⟩
  case h_3 other _ => cases asked : FtpCommand.parse line <;> simp_all [FtpCommand.Begins]

theorem Recorded.vetted (recorded : s.Recorded label next events) (vetted : s.Vetted) :
    next.Vetted := by
  cases recorded with
  | pumps _ pumped => exact pumped.vetted vetted
  | begins begins started => exact started.vetted (begun_vetted begins)
  | accepts _ started => exact started.vetted (vetted.same rfl rfl)

/-- What a step tries to start was checked. -/
theorem starting_vetted {start : FtpSession × FtpInput} (vetted : s.Vetted)
    (starting : s.starting label = some start) : start.1.Vetted := by
  unfold FtpSession.starting at starting
  split at starting
  · split at starting
    case isTrue begins =>
      cases starting
      exact begun_vetted begins
    · cases starting
  · split at starting
    · cases starting
    · cases starting
      exact vetted.same rfl rfl
  · cases starting

/-- A path that was checked does not lead out of the root, wherever the string ends. -/
theorem Vetted.confined (vetted : s.Vetted) :
    Paths.Confined 47 46 (Paths.cString 0 s.openPath) := by
  unfold openPath
  split
  case isTrue retr =>
    obtain ⟨arg, valid, file⟩ := vetted retr
    rw [file]
    exact Paths.confined_below (by decide) (by decide) fun dots => valid (.inl dots)
  · have here : ¬([46, 46] : List UInt8) <:+: [] := by decide
    exact Paths.confined_below (by decide) (by decide) here

theorem Vetted.passed_confined {path : List UInt8} (vetted : s.Vetted)
    (passed : s.passed label = some path) : Paths.Confined 47 46 (Paths.cString 0 path) := by
  obtain ⟨start, starting, made⟩ := Option.bind_eq_some_iff.mp passed
  split at made
  · cases made
    exact (starting_vetted vetted starting).confined
  · cases made

theorem Pumped.unopened (pumped : s.Pumped next events) : .opened handle ∉ events := by
  cases pumped <;> simp [FtpSession.closing]

theorem Launched.ready (started : s.Launched input next events)
    (opened : .opened handle ∈ events) : s.connected = true ∧ s.xfer ≠ .kNone := by
  cases started with
  | waits => cases opened
  | refused => cases opened
  | opens up active _ _ => exact ⟨up, active⟩

theorem passed_of_ready {start : FtpSession × FtpInput} (starting : s.starting label = some start)
    (ready : start.1.connected = true ∧ start.1.xfer ≠ .kNone) :
    ∃ path, s.passed label = some path := by
  refine ⟨start.1.openPath, ?_⟩
  rw [FtpSession.passed, starting, Option.bind_some, if_pos ready]

/-- A step that opens something has handed a path on. -/
theorem Recorded.passed (recorded : s.Recorded label next events)
    (opened : .opened handle ∈ events) : ∃ path, s.passed label = some path := by
  cases recorded with
  | pumps _ pumped => exact absurd opened pumped.unopened
  | begins begins started =>
    exact passed_of_ready (if_pos begins) (started.ready (by simpa using opened))
  | accepts free started => exact passed_of_ready (if_neg (by simp [free])) (started.ready opened)

end FtpSession

/-! ## Runs -/

/-- A session and the `USER` and `PASS` commands it has accepted. -/
structure FtpAudit where
  session : FtpSession
  accepted : List FtpCommand

namespace FtpAudit

variable {a next : FtpAudit} {label : FtpSession.Label}

def initial : FtpAudit := ⟨.initial, []⟩

def step (a : FtpAudit) (label : FtpSession.Label) : Option FtpAudit :=
  (a.session.step label).map fun next => ⟨next, a.accepted ++ a.session.credentials label⟩

def system : System FtpAudit FtpSession.Label where
  step := step
  enabled a label := a.session.Enabled label

instance (a : FtpAudit) (label : FtpSession.Label) : Decidable (system.enabled a label) :=
  inferInstanceAs (Decidable (a.session.Enabled label))

/-- What was accepted is recorded beside the session, which runs as it does without. -/
theorem run_session (a : FtpAudit) (labels : List FtpSession.Label) :
    (system.run a labels).map FtpAudit.session = FtpSession.system.run a.session labels := by
  refine System.run_projects FtpAudit.session (fun a label => ?_) a labels
  show (a.step label).map FtpAudit.session = a.session.step label
  simp [step, Function.comp_def]

/-- A path that the step hands to `open` or `opendir` denotes the root or something below it.
A transfer is announced only if the command accepted last is a `PASS` that follows a `USER`. -/
def Guarded (a : FtpAudit) (label : FtpSession.Label) : Prop :=
  (∀ path ∈ a.session.passed label, Paths.Confined 47 46 (Paths.cString 0 path)) ∧
    ∀ next ∈ a.session.step label, next.announcements ≠ a.session.announcements →
      ∃ earlier, a.accepted = earlier ++ [.user, .pass]

/-- What keeps a session guarded. -/
structure Trusted (a : FtpAudit) : Prop where
  login : FtpSession.Admits a.accepted a.session.state
  file : a.session.Vetted

theorem initial_trusted : initial.Trusted :=
  ⟨rfl, fun retr => by cases retr⟩

theorem step_trusted (trusted : a.Trusted) (enabled : system.enabled a label)
    (done : system.step a label = some next) : next.Trusted := by
  obtain ⟨session, stepped, rfl⟩ := Option.map_eq_some_iff.mp done
  exact ⟨FtpSession.step_admits trusted.login enabled stepped,
    (FtpSession.step_recorded enabled stepped).vetted trusted.file⟩

theorem Trusted.guarded (trusted : a.Trusted) (enabled : system.enabled a label) :
    a.Guarded label := by
  refine ⟨fun path passed => trusted.file.passed_confined passed, ?_⟩
  intro next stepped announced
  have loggedIn := (FtpSession.step_recorded enabled stepped).announces announced
  have login := trusted.login
  rw [loggedIn] at login
  exact login

/-- Downloads stay below the root and behind the login, in every run of a session.

Proof: the login state fits the commands that were accepted, and the file of a transfer was
checked when it began. Both are kept by every step. A step that announces a transfer has found
the user logged in, and what a step opens is the file that was checked or the root itself. -/
theorem downloads_guarded (labels : List FtpSession.Label)
    (valid : system.Valid initial labels) : system.Along Guarded initial labels := by
  refine System.along_invariant Trusted ?_ ?_ initial labels initial_trusted valid
  · intro a label next trusted enabled done
    exact step_trusted trusted enabled done
  · intro a label trusted enabled
    exact trusted.guarded enabled

/-- A file is asked for under a path with empty components, a dot and a terminator in it. -/
def asked : List FtpSession.Label :=
  FtpSession.listened
    [FtpSession.commandLine ['R', 'E', 'T', 'R', ' ', 'd', '/', '/', '.', '/', 'f', '\x00', '/'] {}]

/-- The path that reaches the system names `d/f`. -/
theorem downloads_guarded_asked : (∃ a, system.run initial asked = some a ∧
      (∃ path ∈ a.session.passed (.accept 0 { opened := some 6 }),
        Paths.normalise 47 46 (Paths.cString 0 path) = ⟨0, [[102], [100]]⟩)) ∧
      system.Along Guarded initial (asked ++ [.accept 0 { opened := some 6 }]) :=
  ⟨⟨_, rfl, _, rfl, by decide⟩, downloads_guarded _ (by decide)⟩

end FtpAudit

end Moban
