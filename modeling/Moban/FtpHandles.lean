import Moban.FtpCalls
import Moban.Ledger

/-!
# Files and directories of an FTP session

A session keeps the file and the directory that it has open in two fields. `tryStartTransfer`
assigns the field of the current transfer without looking at it, `abortTransfer` and the
destructor close what the fields hold. A transfer may be asked for, and a data connection may be
accepted, while the handle of an earlier start is still in its field; that handle is then never
closed, or two handles are open at the same time.

The handles of a session are accounted for exactly if no start of a transfer finds a handle that
it would lose or add to.
-/

namespace Moban

open Runs Ledger

/-- What an event means for the handles. -/
def FtpEvent.entry? : FtpEvent → Option (Posting FtpHandle)
  | .opened handle => some (.acquired handle)
  | .closed handle => some (.released handle)
  | _ => none

/-- The handles that were opened and closed. -/
def FtpEvent.ledger (log : List FtpEvent) : List (Posting FtpHandle) :=
  log.filterMap FtpEvent.entry?

namespace FtpSession

/-- A start of the transfer finds no handle of its kind, and no handle at all if it opens one. -/
def Fits (s : FtpSession) (input : FtpInput) : Prop :=
  s.connected = true → s.xfer ≠ .kNone →
    s.handle = none ∧ (input.opened ≠ none → s.held = [])

instance (s : FtpSession) (input : FtpInput) : Decidable (s.Fits input) := instDecidableForall

/-- If the step tries to start a transfer, the start loses no handle and does not add to one. -/
def Tidy (s : FtpSession) (label : Label) : Prop :=
  ∀ start ∈ s.starting label, start.1.Fits start.2

instance (s : FtpSession) (label : Label) : Decidable (s.Tidy label) :=
  match found : s.starting label with
  | none => isTrue (by simp [Tidy, found])
  | some start => decidable_of_iff (start.1.Fits start.2) (by simp [Tidy, found])

/-- The ledger if the session closed its handles now. -/
def settled (s : FtpSession) (entries : List (Posting FtpHandle)) : List (Posting FtpHandle) :=
  entries ++ s.held.map Posting.released

/-- The handles of the session have been opened and are not closed. -/
structure Owns (s : FtpSession) (entries : List (Posting FtpHandle)) : Prop where
  owned : Owned entries
  holds : (released entries ++ s.held).Subperm (acquired entries)

section Steps

variable {s next : FtpSession} {input : FtpInput} {label : Label} {events : List FtpEvent}
  {entries : List (Posting FtpHandle)}

theorem closing_ledger (s : FtpSession) :
    FtpEvent.ledger s.closing = s.held.map Posting.released := by
  simp [FtpEvent.ledger, closing, List.filterMap_map, Function.comp_def, FtpEvent.entry?]

theorem Owns.length_le (owns : s.Owns entries) :
    (released entries).length + s.held.length ≤ (acquired entries).length := by
  simpa using owns.holds.length_le

theorem Owns.congr (owns : s.Owns entries) (held : next.held = s.held) : next.Owns entries :=
  ⟨owns.owned, held ▸ owns.holds⟩

theorem settled_congr (held : next.held = s.held) : next.settled entries = s.settled entries := by
  rw [settled, held, settled]

/-- The handles that a step closes are those of the session. -/
theorem Pumped.settles (pumped : s.Pumped next events) (owns : s.Owns entries) :
    next.Owns (entries ++ FtpEvent.ledger events) ∧
      next.settled (entries ++ FtpEvent.ledger events) = s.settled entries := by
  have keeps (held : next.held = s.held) (silent : FtpEvent.ledger events = []) :
      next.Owns (entries ++ FtpEvent.ledger events) ∧
        next.settled (entries ++ FtpEvent.ledger events) = s.settled entries := by
    rw [silent, List.append_nil]
    exact ⟨owns.congr held, settled_congr held⟩
  cases pumped with
  | rests rests => exact keeps rests.held rfl
  | submits _ _ _ _ _ _ rests => exact keeps rests.held rfl
  | finishes => exact keeps rfl rfl
  | sends _ _ continues => exact keeps continues.held rfl
  | ends ends =>
    rw [closing_ledger]
    refine ⟨⟨owns.owned.release owns.holds, ?_⟩, ?_⟩
    · rw [ends.held]
      simpa using owns.holds
    · rw [settled, ends.held, settled]
      simp

/-! ## Starting a transfer -/

theorem openHandle_failed_held (failed : input.opened = none) (active : s.xfer ≠ .kNone) :
    (s.openHandle input).held.Sublist s.held ∧
      (s.handle = none → (s.openHandle input).held = s.held) ∧
      (s.handle ≠ none → (s.openHandle input).held.length < s.held.length) := by
  cases transfer : s.xfer with
  | kNone => exact absurd transfer active
  | kList => cases dir : s.xferDir <;> simp [held, handle, openHandle, transfer, failed, dir]
  | kRetr => cases fd : s.xferFd <;> simp [held, handle, openHandle, transfer, failed, fd]

theorem openHandle_held {number : Nat} (opened : input.opened = some number)
    (active : s.xfer ≠ .kNone) :
    (s.openHandle input).held.Subperm (s.held ++ [s.made number]) ∧
      (s.held = [] → (s.openHandle input).held = [s.made number]) := by
  cases transfer : s.xfer with
  | kNone => exact absurd transfer active
  | kList =>
    have heldNow : (s.openHandle input).held =
        (s.xferFd.map FtpHandle.file).toList ++ [s.made number] := by
      simp [held, openHandle, made, transfer, opened]
    rw [heldNow]
    refine ⟨((List.sublist_append_left _ _).append_right _).subperm, fun empty => ?_⟩
    rw [(List.append_eq_nil_iff.mp empty).1, List.nil_append]
  | kRetr =>
    have heldNow : (s.openHandle input).held =
        [s.made number] ++ (s.xferDir.map FtpHandle.directory).toList := by
      simp [held, openHandle, made, transfer, opened]
    rw [heldNow]
    refine ⟨?_, fun empty => ?_⟩
    · exact List.perm_append_comm.subperm.trans
        ((List.sublist_append_right _ _).append_right _).subperm
    · rw [(List.append_eq_nil_iff.mp empty).2, List.append_nil]

/-- The open fails: the field of the transfer is cleared, and a handle in it is lost. -/
theorem Owns.refused (owns : s.Owns entries) (up : s.connected = true) (active : s.xfer ≠ .kNone)
    (failed : input.opened = none) (held : next.held = (s.openHandle input).held) :
    next.Owns entries ∧
      (Accounted (next.settled entries) ↔ Accounted (s.settled entries) ∧ s.Fits input) := by
  obtain ⟨fewer, same, lost⟩ := openHandle_failed_held failed active
  refine ⟨⟨owns.owned, ?_⟩, ?_⟩
  · rw [held]
    exact (fewer.append_left _).subperm.trans owns.holds
  · rw [settled, held]
    by_cases vacant : s.handle = none
    · have fits : s.Fits input := fun _ _ => ⟨vacant, fun opened => absurd failed opened⟩
      rw [same vacant]
      exact ⟨fun accounted => ⟨accounted, fits⟩, fun both => both.1⟩
    · have unfit : ¬ s.Fits input := fun fits => vacant (fits up active).1
      have unaccounted :
          ¬ Accounted (entries ++ (s.openHandle input).held.map Posting.released) := by
        refine not_accounted_of_lost ?_
        have enough := owns.length_le
        have less := lost vacant
        simp only [released_append, released_map_released, acquired_append, acquired_map_released,
          List.length_append, List.length_nil]
        omega
      exact ⟨fun accounted => absurd accounted unaccounted, fun both => absurd both.2 unfit⟩

/-- The open succeeds: a handle in the field of the transfer is lost, and one in the other field
stays open. -/
theorem Owns.opens (owns : s.Owns entries) {number : Nat} (up : s.connected = true)
    (active : s.xfer ≠ .kNone) (opened : input.opened = some number) :
    (s.openHandle input).Owns (entries ++ [.acquired (s.made number)]) ∧
      (Accounted ((s.openHandle input).settled (entries ++ [.acquired (s.made number)])) ↔
        Accounted (s.settled entries) ∧ s.Fits input) := by
  obtain ⟨bounded, only⟩ := openHandle_held opened active
  refine ⟨⟨owns.owned.acquire, ?_⟩, ?_⟩
  · have more : (released entries ++ (s.openHandle input).held).Subperm
        ((released entries ++ s.held) ++ [s.made number]) := by
      rw [List.append_assoc]
      exact (List.subperm_append_left _).mpr bounded
    simpa using more.trans ((List.subperm_append_right _).mpr owns.holds)
  · rw [settled, List.append_assoc, settled]
    by_cases empty : s.held = []
    · have fits : s.Fits input := by
        intro _ _
        refine ⟨?_, fun _ => empty⟩
        obtain ⟨noFile, noDirectory⟩ := List.append_eq_nil_iff.mp empty
        unfold handle
        split
        · rfl
        · simpa using noFile
        · simpa using noDirectory
      rw [only empty, empty, List.map_nil, List.append_nil]
      simp only [List.map_cons, List.map_nil, List.singleton_append, accounted_cycle]
      exact ⟨fun accounted => ⟨accounted, fits⟩, fun both => both.1⟩
    · have unfit : ¬ s.Fits input := fun fits => empty ((fits up active).2 (by simp [opened]))
      have holds : (released entries).length < (acquired entries).length := by
        have enough := owns.length_le
        have holding : 0 < s.held.length := List.length_pos_iff.mpr empty
        omega
      have unaccounted := not_accounted_of_second holds (s.made number)
        ((s.openHandle input).held.map Posting.released)
      exact ⟨fun accounted => absurd accounted unaccounted, fun both => absurd both.2 unfit⟩

theorem Launched.decides (started : s.Launched input next events) (owns : s.Owns entries) :
    next.Owns (entries ++ FtpEvent.ledger events) ∧
      (Accounted (next.settled (entries ++ FtpEvent.ledger events)) ↔
        Accounted (s.settled entries) ∧ s.Fits input) := by
  cases started with
  | waits inactive =>
    have fits : s.Fits input := by
      intro up active
      exact absurd inactive (by simp [up, active])
    rw [show FtpEvent.ledger [] = [] from rfl, List.append_nil]
    exact ⟨owns, fun accounted => ⟨accounted, fits⟩, fun both => both.1⟩
  | refused up active failed rests =>
    rw [show FtpEvent.ledger [] = [] from rfl, List.append_nil]
    exact owns.refused up active failed rests.held
  | @opens _ events number up active opened pumped =>
    obtain ⟨opens, decision⟩ := owns.opens up active opened
    obtain ⟨kept, settled⟩ := pumped.settles opens
    rw [List.append_assoc] at kept settled
    refine ⟨kept, ?_⟩
    rw [show FtpEvent.ledger (.opened (s.made number) :: events) =
      [.acquired (s.made number)] ++ FtpEvent.ledger events from rfl, settled]
    exact decision

/-- Every step keeps the handles accounted for exactly if it is tidy. -/
theorem Recorded.decides (recorded : s.Recorded label next events) (owns : s.Owns entries) :
    next.Owns (entries ++ FtpEvent.ledger events) ∧
      (Accounted (next.settled (entries ++ FtpEvent.ledger events)) ↔
        Accounted (s.settled entries) ∧ s.Tidy label) := by
  have tidy (middle : FtpSession) (input : FtpInput)
      (starting : s.starting label = some (middle, input)) : s.Tidy label ↔ middle.Fits input := by
    simp [Tidy, starting]
  cases recorded with
  | pumps plain pumped =>
    obtain ⟨kept, settled⟩ := pumped.settles owns
    rw [settled]
    exact ⟨kept, fun accounted => ⟨accounted, by simp [Tidy, plain]⟩, fun both => both.1⟩
  | begins begins started =>
    have held := (begun_renews begins).held
    have decision := started.decides (owns.congr held)
    rw [settled_congr held] at decision
    rw [tidy _ _ (if_pos begins)]
    exact decision
  | accepts free started =>
    rw [tidy _ _ (if_neg (by simp [free]))]
    exact started.decides (s := s.taken _) ⟨owns.owned, owns.holds⟩

end Steps

end FtpSession

namespace FtpRecord

/-- The handles of the session are in its record. -/
def Owns (r : FtpRecord) : Prop := r.session.Owns (FtpEvent.ledger r.log)

/-- All handles would be accounted for if the session were destroyed now. -/
def Accounts (r : FtpRecord) : Prop := Accounted (FtpEvent.ledger r.destroyed)

theorem accounts_iff (r : FtpRecord) :
    r.Accounts ↔ Accounted (r.session.settled (FtpEvent.ledger r.log)) := by
  rw [Accounts, destroyed, FtpEvent.ledger, List.filterMap_append, FtpSession.settled,
    ← FtpSession.closing_ledger]
  rfl

theorem initial_owns : initial.Owns := ⟨owned_nil, List.Subperm.refl _⟩

theorem initial_accounts : initial.Accounts := accounted_nil

/-- The handles of a session are opened one at a time and each is closed exactly once, exactly if
no start of a transfer finds a handle that it would lose or add to.

Proof: every step decides the matter anew, given that the session owns its handles. -/
theorem handles_accounted (labels : List FtpSession.Label) (final : FtpRecord)
    (valid : system.Valid initial labels) (finished : system.run initial labels = some final) :
    final.Accounts ↔ system.Along (fun r label => r.session.Tidy label) initial labels := by
  have decided : final.Accounts ↔
      initial.Accounts ∧ system.Along (fun r label => r.session.Tidy label) initial labels := by
    refine System.run_decided Owns Accounts ?_ initial final labels initial_owns valid finished
    intro r label next owns enabled done
    obtain ⟨stepped, recorded⟩ := step_inv done
    rw [accounts_iff, accounts_iff, Owns, recorded, FtpEvent.ledger, List.filterMap_append]
    exact (FtpSession.step_recorded enabled stepped).decides owns
  exact decided.trans (and_iff_right initial_accounts)

/-! ## Handles that are not accounted for -/

/-- A file is sent and its data connection closed; then a directory is listed. -/
def oneByOne : List FtpSession.Label :=
  FtpSession.lostMeanwhile
    [FtpSession.commandLine ['L', 'I', 'S', 'T'] {},
      .accept 1 { opened := some 7, names := [[97]] }]

/-- The file is closed before the directory is opened. -/
theorem handles_accounted_oneByOne :
    ∃ final, system.run initial oneByOne = some final ∧ final.Accounts ∧
      FtpEvent.ledger final.log =
        [.acquired (.file 5), .released (.file 5), .acquired (.directory 7)] :=
  ⟨_, rfl, (handles_accounted oneByOne _ (by decide) rfl).mpr (by decide), rfl⟩

/-- Nothing shares the ownership of the session any more. -/
def Abandoned (s : FtpSession) : Prop :=
  s.ctrlConn = .KDisconnected ∧ s.dataServer = none ∧ s.tasks = [] ∧ s.timers = [] ∧
    s.queued = [] ∧ ∀ c ∈ s.connections, c.state = .KDisconnected

instance (s : FtpSession) : Decidable (Abandoned s) := instDecidableAnd

/-- The file is asked for again while it is being sent. Then everything is closed. -/
def askedTwice : List FtpSession.Label :=
  FtpSession.sendingFile 5
    [FtpSession.commandLine ['R', 'E', 'T', 'R', ' ', 'f'] { opened := some 6 },
      .taskDone 0 (.read []), .taskDone 0 (.read []), .beginFunctors, .runFunctor {},
      .runFunctor {}, .endFunctors, .dataClosed 0, .beginFunctors, .runFunctor {}, .endFunctors,
      .beginFunctors, .runFunctor {}, .endFunctors, .ctrlClosed]

/-- A directory is asked for while a file is being sent. -/
def listedMeanwhile : List FtpSession.Label :=
  FtpSession.sendingFile 5
    [FtpSession.commandLine ['L', 'I', 'S', 'T'] { opened := some 7, names := [[97]] }]

/-- The first of two descriptors is never closed, although the session is destroyed; and a file
and a directory are open at the same time. -/
theorem handles_lost_or_doubled :
    (system.Valid initial askedTwice ∧ ∃ final, system.run initial askedTwice = some final ∧
      Abandoned final.session ∧ acquired (FtpEvent.ledger final.destroyed) = [.file 5, .file 6] ∧
      released (FtpEvent.ledger final.destroyed) = [.file 6] ∧ ¬ final.Accounts) ∧
    (system.Valid initial listedMeanwhile ∧
      ∃ final, system.run initial listedMeanwhile = some final ∧
        FtpEvent.ledger final.log = [.acquired (.file 5), .acquired (.directory 7)] ∧
        ¬ final.Accounts) := by
  refine ⟨⟨by decide, _, rfl, by decide, rfl, rfl, ?_⟩, ⟨by decide, _, rfl, rfl, ?_⟩⟩
  · exact not_accounted_of_lost (by decide)
  · have holds : (released [Posting.acquired (FtpHandle.file 5)]).length <
        (acquired [Posting.acquired (FtpHandle.file 5)]).length := by decide
    exact not_accounted_of_second holds (.directory 7) _

end FtpRecord

end Moban
