import Moban.SharedFile

/-!
# Concurrent replacements of one file

A file that the path has ever named is complete: the calls write to the files that they have
created themselves, and these are found under temporary names until they are complete. The one
thing that this rests on is that no temporary name is the path itself.
-/

namespace Moban.SharedFile

open Function

variable {first fs : FileSystem FileName} {path : FileName} {s : SharedFile} {id : Nat}
  {call next : WriteCall}

/-! ## The system calls -/

section SystemCalls

/-- A call that leaves the names alone and writes to its own file only. -/
theorem Coherent.revise (coherent : s.Coherent first path) (valid : first.WellFormed)
    (found : s.calls id = some call) (same : call.Same next)
    (holds : next.stage.holds = call.stage.holds)
    (installed : next.stage.installed = call.stage.installed)
    (entry : fs.entry = s.fs.entry) (size : fs.size = s.fs.size)
    (content : ∀ i, (call.stage.holds = true → i ≠ call.fd) → fs.content i = s.fs.content i)
    (wrote : call.Wrote (s.fs.content call.fd) → next.Wrote (fs.content call.fd)) :
    (s.proceed id call (fs, next)).Coherent first path := by
  have owns : next.owns = call.owns := by rw [WriteCall.owns, holds, installed, WriteCall.owns]
  have before := coherent.fits id call found
  apply coherent.proceed valid found
  case wellFormed =>
    intro name i named
    rw [entry] at named
    rw [size]
    exact coherent.wellFormed name i named
  case grown => exact size.ge
  case content => exact fun i _ => content i
  case entry => exact fun _ rival _ _ _ => congrFun entry rival.temp
  case fits =>
    constructor
    · rw [same.path]
      exact before.aimed
    · intro owned
      rw [same.fd, size]
      exact before.created (owns.symm.trans owned)
    · intro owned
      rw [same.fd]
      exact wrote (before.wrote (owns.symm.trans owned))
    · intro held
      rw [same.temp]
      exact before.free (holds.symm.trans held)
    · intro held
      rw [same.temp, same.fd, entry]
      exact before.held (holds.symm.trans held)
  case apart =>
    intro other rival different present owned owning file
    rw [same.fd] at file
    exact different (coherent.apart id other call rival found present (owns.symm.trans owning)
      owned file).symm
  case others =>
    intro name away
    rw [entry, holds, same.temp]
    exact coherent.name_cases found away
  case installed => exact fun done => ⟨installed.trans done, same.fd⟩
  case target =>
    exact coherent.target.proceed coherent.renamed found (congrFun entry path) installed
      fun _ => same.fd

/-- A call that creates its temporary file under another name than the path. -/
theorem Coherent.create (coherent : s.Coherent first path) (valid : first.WellFormed)
    (found : s.calls id = some call) {attempt : Nat} (opening : call.stage = .opening attempt)
    {name : FileName} {mode : Mode} (done : s.fs.create name mode = some fs) (away : name ≠ path) :
    (s.proceed id call
      (fs, { call with stage := .statCreated, temp := name, fd := s.fs.size })).Coherent
      first path := by
  obtain ⟨free, entry, content, size⟩ := FileSystem.create_inv done
  have absent : first.entry name = none := by
    rcases coherent.others name away with original | ⟨other, rival, present, held, temp⟩
    · exact original.symm.trans free
    · have taken := (coherent.fits other rival present).held held
      rw [temp, free] at taken
      cases taken
  apply coherent.proceed valid found
  case wellFormed => exact coherent.wellFormed.create done
  case grown => omega
  case content =>
    intro i old _
    rw [content, update_of_ne (by omega)]
  case entry =>
    intro other rival _ present held
    have taken := (coherent.fits other rival present).held held
    have other : rival.temp ≠ name := by
      intro same
      rw [same, free] at taken
      cases taken
    rw [entry, update_of_ne other]
  case fits =>
    constructor
    · exact (coherent.fits id call found).aimed
    · intro _
      exact ⟨coherent.grown, by rw [size]; exact Nat.lt_succ_self _⟩
    · intro _
      show fs.content s.fs.size = []
      rw [content, update_self]
    · exact fun _ => ⟨away, absent⟩
    · intro _
      rw [entry, update_self]
  case apart =>
    intro other rival _ present owned _ file
    have bound := ((coherent.fits other rival present).created owned).2
    exact absurd bound (file ▸ Nat.lt_irrefl _)
  case others =>
    intro other different
    by_cases new : other = name
    · exact .inr (.inl ⟨rfl, new.symm⟩)
    · rw [entry, update_of_ne new]
      rcases coherent.name_cases found different with original | ⟨held, -⟩ | rival
      · exact .inl original
      · rw [opening] at held
        cases held
      · exact .inr (.inr rival)
  case installed =>
    intro installed
    rw [opening] at installed
    cases installed
  case target =>
    refine coherent.target.proceed coherent.renamed found ?_ (by rw [opening]; rfl) ?_
    · rw [entry, update_of_ne away.symm]
    · intro installed
      rw [opening] at installed
      cases installed

/-- A call that gives up its temporary name. -/
theorem Coherent.release (coherent : s.Coherent first path) (valid : first.WellFormed)
    (found : s.calls id = some call) (holds : call.stage.holds = true) {stage : Stage}
    (released : stage.holds = false)
    (wrote : call.Wrote (s.fs.content call.fd) → (call.moved stage).Wrote (s.fs.content call.fd))
    (wellFormed : fs.WellFormed) (size : fs.size = s.fs.size) (content : fs.content = s.fs.content)
    (gone : fs.entry call.temp = none)
    (entry : ∀ name, name ≠ path → name ≠ call.temp → fs.entry name = s.fs.entry name)
    (target : (s.proceed id call (fs, call.moved stage)).Target first path) :
    (s.proceed id call (fs, call.moved stage)).Coherent first path := by
  have before := coherent.fits id call found
  have owned := WriteCall.owns_of_holds holds
  have unheld {goal : Prop} (held : (call.moved stage).stage.holds = true) : goal :=
    absurd (released.symm.trans held) (by simp)
  apply coherent.proceed valid found
  case wellFormed => exact wellFormed
  case grown => exact size.ge
  case content => exact fun i _ _ => congrFun content i
  case entry =>
    intro other rival different present held
    exact entry _ ((coherent.fits other rival present).free held).1
      (coherent.temp_ne found holds present held different)
  case fits =>
    constructor
    · exact before.aimed
    · intro _
      rw [size]
      exact before.created owned
    · intro _
      rw [content]
      exact wrote (before.wrote owned)
    · exact unheld
    · exact unheld
  case apart =>
    intro other rival different present owns _ file
    exact different (coherent.apart id other call rival found present owned owns file).symm
  case others =>
    intro name away
    by_cases own : name = call.temp
    · rw [own, gone]
      exact .inl (before.free holds).2.symm
    · rw [entry name away own]
      rcases coherent.name_cases found away with original | ⟨-, temp⟩ | rival
      · exact .inl original
      · exact absurd temp.symm own
      · exact .inr (.inr rival)
  case installed =>
    intro installed
    rw [Stage.not_installed_of_holds holds] at installed
    cases installed
  case target => exact target

/-- A successful `rename` publishes the file of the call. -/
theorem Coherent.rename (coherent : s.Coherent first path) (valid : first.WellFormed)
    (found : s.calls id = some call) (replacing : call.stage = .replacing)
    (done : s.fs.rename call.temp call.path = some fs) :
    (s.proceed id call (fs, call.moved .syncing)).Coherent first path := by
  have holds : call.stage.holds = true := by rw [replacing]; rfl
  have before := coherent.fits id call found
  have held := before.held holds
  have away := (before.free holds).1
  have other : s.fs.entry path ≠ some call.fd := fun named =>
    coherent.unpublished valid found holds (coherent.target_published named) rfl
  rw [before.aimed, FileSystem.rename_moves held other] at done
  cases done
  apply coherent.release valid found holds rfl
  case wrote =>
    intro wrote
    rw [WriteCall.Wrote, replacing] at wrote
    exact wrote
  case wellFormed =>
    have unlinked : (s.fs.unlink call.temp).WellFormed := coherent.wellFormed.unlink
    refine unlinked.update fun i named => ?_
    cases named
    exact (before.created (WriteCall.owns_of_holds holds)).2
  case size => rfl
  case content => rfl
  case gone => simp [away]
  case entry =>
    intro name new own
    simp [new, own]
  case target => exact Target.rename (Stage.not_installed_of_holds holds) (update_self ..)

/-- The guard unlinks the temporary file. -/
theorem Coherent.unlink (coherent : s.Coherent first path) (valid : first.WellFormed)
    (found : s.calls id = some call) (cleaning : call.stage = .cleaning) :
    (s.proceed id call (s.fs.unlink call.temp, call.moved .thrown)).Coherent first path := by
  have holds : call.stage.holds = true := by rw [cleaning]; rfl
  have away := ((coherent.fits id call found).free holds).1
  apply coherent.release valid found holds rfl
  case wrote => exact fun _ => trivial
  case wellFormed => exact coherent.wellFormed.unlink
  case size => rfl
  case content => rfl
  case gone => exact update_self ..
  case entry => exact fun name _ own => update_of_ne own ..
  case target =>
    refine coherent.target.proceed coherent.renamed found (update_of_ne away.symm ..)
      (by rw [cleaning]; rfl) ?_
    exact fun _ => rfl

/-- Every system call of a call keeps the state coherent. -/
theorem Coherent.advance (coherent : s.Coherent first path) (valid : first.WellFormed)
    (found : s.calls id = some call) {outcome : Outcome}
    (allowed : call.allows s.fs outcome = true) (apart : s.Apart path (.proceeds id outcome)) :
    (s.proceed id call (call.advance s.fs outcome)).Coherent first path := by
  have advances := WriteCall.advance_advances allowed
  rw [← Prod.mk.eta (p := call.advance s.fs outcome)]
  generalize (call.advance s.fs outcome).1 = fs, (call.advance s.fs outcome).2 = next at advances ⊢
  cases advances with
  | keeps same holds installed wrote _ _ =>
    exact coherent.revise valid found same holds installed rfl rfl (fun _ _ => rfl) (wrote _)
  | creates opening done =>
    refine coherent.create valid found opening done ?_
    rw [(coherent.fits id call found).aimed] at done ⊢
    intro same
    exact apart (same ▸ (FileSystem.create_inv done).1) same
  | changes same holds still entry size others wrote _ _ =>
    refine coherent.revise valid found same (still.trans holds.symm) ?_ entry size ?_ wrote
    · rw [Stage.not_installed_of_holds still, Stage.not_installed_of_holds holds]
    · exact fun i apart => others i (apart holds)
  | renames replacing done => exact coherent.rename valid found replacing done
  | unlinks cleaning => exact coherent.unlink valid found cleaning

end SystemCalls

/-! ## Runs -/

section Runs

theorem start_coherent (valid : first.WellFormed) : (start first).Coherent first path where
  wellFormed := valid
  grown := le_rfl
  kept := fun _ _ => rfl
  fits := by simp [start]
  apart := by simp [start]
  others := fun _ _ => .inl rfl
  renamed := by simp [start]
  target := rfl
  read := by simp [start]

/-- A call that begins has done nothing yet. -/
theorem Coherent.begins (coherent : s.Coherent first path) (fresh : s.calls id = none)
    (content : List UInt8) (umask : Mode) :
    ({ s with calls := update s.calls id (some (.begin' path content umask)) } :
      SharedFile).Coherent first path := by
  have away {other : Nat} {call : WriteCall} (present : s.calls other = some call) :
      other ≠ id := by
    intro same
    rw [same, fresh] at present
    cases present
  have still {other : Nat} {call : WriteCall} (present : s.calls other = some call) :
      update s.calls id (some (.begin' path content umask)) other = some call :=
    (update_of_ne (away present) ..).trans present
  constructor
  case wellFormed => exact coherent.wellFormed
  case grown => exact coherent.grown
  case kept => exact coherent.kept
  case fits =>
    intro other call present
    rcases update_inv present with ⟨-, rfl⟩ | ⟨-, present⟩
    · constructor
      · rfl
      all_goals simp [WriteCall.owns, WriteCall.begin', Stage.holds, Stage.installed]
    · exact coherent.fits other call present
  case apart =>
    intro one other left right foundLeft foundRight ownsLeft ownsRight same
    rcases update_inv foundLeft with ⟨-, rfl⟩ | ⟨-, presentLeft⟩
    · cases ownsLeft
    · rcases update_inv foundRight with ⟨-, rfl⟩ | ⟨-, presentRight⟩
      · cases ownsRight
      · exact coherent.apart one other left right presentLeft presentRight ownsLeft ownsRight same
  case others =>
    intro name different
    rcases coherent.others name different with original | ⟨other, call, present, held⟩
    · exact .inl original
    · exact .inr ⟨other, call, still present, held⟩
  case renamed =>
    intro other
    rw [coherent.renamed]
    constructor
    · rintro ⟨call, present, installed⟩
      exact ⟨call, still present, installed⟩
    · rintro ⟨call, present, installed⟩
      rcases update_inv present with ⟨-, rfl⟩ | ⟨-, present⟩
      · cases installed
      · exact ⟨call, present, installed⟩
  case target =>
    have target := coherent.target
    rw [Target] at target ⊢
    show s.fs.entry path = _
    rw [target]
    cases last : s.renamed.getLast? with
    | none => rfl
    | some other =>
      obtain ⟨call, present, -⟩ := (coherent.renamed other).mp (List.mem_of_getLast? last)
      show (s.calls other).map (·.fd) = Option.map (·.fd) (update s.calls id _ other)
      rw [still present, present]
  case read =>
    intro key reader present
    have before := coherent.read key reader present
    refine ⟨before.published.mono fun other call there installed => ?_, before.got, before.finished⟩
    exact ⟨call, still there, installed, rfl⟩

theorem Coherent.reads (coherent : s.Coherent first path) {k : Nat} {reader : Reader}
    (sees : s.Sees first path reader) :
    ({ s with readers := update s.readers k (some reader) } :
      SharedFile).Coherent first path :=
  { coherent with
    read := by
      intro other found present
      rcases update_inv present with ⟨-, rfl⟩ | ⟨-, present⟩
      · exact ⟨sees.published, sees.got, sees.finished⟩
      · have before := coherent.read other found present
        exact ⟨before.published, before.got, before.finished⟩ }

/-- A read takes the next piece. No piece is left exactly if everything was read. -/
theorem Sees.read {reader : Reader} (sees : s.Sees first path reader) {count : Nat}
    (positive : 0 < count) :
    s.Sees first path (reader.read (s.fs.content reader.file) count) := by
  obtain ⟨published, ⟨rest, whole⟩, -⟩ := sees
  have left : (s.fs.content reader.file).drop reader.got.length = rest := by
    rw [← whole, List.drop_left]
  constructor
  · exact published
  · show reader.got ++ ((s.fs.content reader.file).drop reader.got.length).take count <+:
      s.fs.content reader.file
    rw [left, ← whole]
    exact (List.prefix_append_right_inj _).mpr (List.take_prefix count rest)
  · intro finished
    have empty : rest.take count = [] := by simpa [Reader.read, left] using finished
    have nothingLeft : rest = [] := by
      rcases List.take_eq_nil_iff.mp empty with zero | nothing
      · omega
      · exact nothing
    show reader.got ++ ((s.fs.content reader.file).drop reader.got.length).take count =
      s.fs.content reader.file
    rw [left, empty, ← whole, nothingLeft]

theorem step_coherent {label : Label} (coherent : s.Coherent first path)
    (valid : first.WellFormed) (enabled : s.enabled label) (apart : s.Apart path label) :
    ∃ next, (system path).step s label = some next ∧ next.Coherent first path := by
  cases label with
  | begins id content umask => exact ⟨_, rfl, coherent.begins enabled content umask⟩
  | proceeds id outcome =>
    obtain ⟨call, found, allowed⟩ := (Option.any_eq_true _ _).mp enabled
    refine ⟨s.proceed id call (call.advance s.fs outcome), ?_,
      coherent.advance valid found allowed apart⟩
    simp [system, step, found]
  | opens key =>
    cases named : s.fs.entry path with
    | none => exact ⟨s, by simp [system, step, named], coherent⟩
    | some file =>
      have sees : s.Sees first path ⟨file, [], false⟩ :=
        ⟨coherent.target_published named, List.nil_prefix, by simp⟩
      exact ⟨_, by simp [system, step, named], coherent.reads (k := key) sees⟩
  | reads key count =>
    obtain ⟨positive, unfinished⟩ := enabled
    obtain ⟨reader, present, -⟩ := (Option.any_eq_true _ _).mp unfinished
    have sees := (coherent.read key reader present).read positive
    exact ⟨_, by simp [system, step, present], coherent.reads (k := key) sees⟩

/-- A step changes at most one call, which begins or performs a system call. -/
theorem step_call {label : Label} {later : SharedFile} (enabled : s.enabled label)
    (done : step path s label = some later) (id : Nat) :
    later.calls id = s.calls id ∨
    (s.calls id = none ∧ ∃ content umask, later.calls id = some (.begin' path content umask)) ∨
    ∃ call outcome next, s.calls id = some call ∧ later.calls id = some next ∧
      label = .proceeds id outcome ∧ call.Advances s.fs outcome later.fs next := by
  cases label with
  | begins key content umask =>
    cases done
    by_cases self : id = key
    · rw [self]
      exact .inr (.inl ⟨enabled, content, umask, update_self ..⟩)
    · exact .inl (update_of_ne self ..)
  | proceeds key outcome =>
    obtain ⟨call, found, allowed⟩ := (Option.any_eq_true _ _).mp enabled
    simp only [step, found, Option.bind_eq_bind, Option.bind_some, Option.pure_def,
      Option.some.injEq] at done
    rw [← done]
    by_cases self : id = key
    · rw [self]
      exact .inr (.inr ⟨call, outcome, _, found, update_self .., rfl,
        WriteCall.advance_advances allowed⟩)
    · exact .inl (update_of_ne self ..)
  | opens key =>
    rw [step] at done
    split at done <;> cases done <;> exact .inl rfl
  | reads key count =>
    obtain ⟨reader, -, read⟩ := Option.bind_eq_some_iff.mp done
    cases read
    exact .inl rfl

/-- Published files hold the original content or that of a call. -/
theorem Coherent.published_content (coherent : s.Coherent first path) (valid : first.WellFormed)
    {i : Nat} (published : s.Published first path i) :
    first.lookup path = some (s.fs.content i) ∨
      ∃ id call, s.calls id = some call ∧ id ∈ s.renamed ∧ call.content = s.fs.content i := by
  rcases published with original | ⟨id, call, found, installed, file⟩
  · left
    rw [FileSystem.lookup, original, Option.map_some, coherent.kept i (valid path i original)]
  · right
    refine ⟨id, call, found, (coherent.renamed id).mpr ⟨call, found, installed⟩, ?_⟩
    rw [← file]
    exact ((coherent.fits id call found).complete
      (.inr (Stage.flushed_of_installed installed))).symm

/-- The path has the content of the call that was renamed last. -/
theorem Coherent.target_content (coherent : s.Coherent first path) (valid : first.WellFormed) :
    s.fs.lookup path = match s.renamed.getLast? with
      | none => first.lookup path
      | some id => (s.calls id).map (·.content) := by
  have target := coherent.target
  rw [Target] at target
  rw [FileSystem.lookup, target]
  cases last : s.renamed.getLast? with
  | none =>
    show (first.entry path).map s.fs.content = first.lookup path
    cases original : first.entry path with
    | none => rw [FileSystem.lookup, original, Option.map_none, Option.map_none]
    | some i =>
      rw [FileSystem.lookup, original, Option.map_some, Option.map_some,
        coherent.kept i (valid path i original)]
  | some id =>
    obtain ⟨call, found, installed⟩ := (coherent.renamed id).mp (List.mem_of_getLast? last)
    show ((s.calls id).map (·.fd)).map s.fs.content = (s.calls id).map (·.content)
    rw [found, Option.map_some, Option.map_some, Option.map_some,
      (coherent.fits id call found).complete (.inr (Stage.flushed_of_installed installed))]

/-- A file that is replaced by any number of calls at once is replaced atomically. Along every
run in which no call takes the path for a temporary name, a reader has read the beginning of
the original content or of the content of a call whose `rename` succeeded, and all of it when it
is finished. When all calls have ended, the path holds the content of the call that was renamed
last, or the original content, and all other names are what they were at first.

Proof: `step_coherent` keeps the state coherent. Published files are complete, and a name that
differs from its original file is the temporary name of a call that has not ended. -/
theorem replaced_atomically (path : FileName) (fs : FileSystem FileName)
    (valid : fs.WellFormed) (labels : List Label) (admitted : (system path).Valid (start fs) labels)
    (apart : (system path).Along (Apart path) (start fs) labels) :
    ∃ s, (system path).run (start fs) labels = some s ∧
      (∀ key reader, s.readers key = some reader → ∃ content,
        (fs.lookup path = some content ∨ ∃ id call, s.calls id = some call ∧ id ∈ s.renamed ∧
          call.content = content) ∧
        reader.got <+: content ∧ (reader.finished = true → reader.got = content)) ∧
      ((∀ id call, s.calls id = some call → call.stage.ended = true) →
        s.fs.lookup path = (match s.renamed.getLast? with
          | none => fs.lookup path
          | some id => (s.calls id).map (·.content)) ∧
        ∀ name ≠ path, s.fs.entry name = fs.entry name) := by
  obtain ⟨s, finished, coherent⟩ := Runs.System.run_safe (Coherent fs path)
    (fun s label coherent ⟨enabled, apart⟩ => step_coherent coherent valid enabled apart)
    (start fs) labels (start_coherent valid)
    ((Runs.System.along_and _ _ _ _).mpr ⟨admitted, apart⟩)
  refine ⟨s, finished, ?_, fun ended => ⟨coherent.target_content valid, ?_⟩⟩
  · intro key reader present
    obtain ⟨published, got, complete⟩ := coherent.read key reader present
    exact ⟨s.fs.content reader.file, coherent.published_content valid published, got, complete⟩
  · intro name away
    rcases coherent.others name away with original | ⟨id, call, found, held, -⟩
    · exact original
    · have unended := Stage.not_ended_of_holds held
      rw [ended id call found] at unended
      cases unended

/-- Two calls create the file, and a reader opens it between the two renames. -/
def createdTwice : List Label :=
  [.begins 0 [1, 2] 0o022, .begins 1 [3] 0o022, .proceeds 0 .fails, .proceeds 1 .fails,
    .proceeds 0 (.opens 1 0 7), .proceeds 1 (.opens 1 1 8), .proceeds 0 .succeeds,
    .proceeds 0 .succeeds, .proceeds 0 (.wrote 1), .proceeds 1 .succeeds, .proceeds 1 .succeeds,
    .proceeds 1 (.wrote 1), .proceeds 1 .succeeds, .proceeds 1 .succeeds, .proceeds 1 .succeeds,
    .proceeds 1 .succeeds, .proceeds 1 .succeeds, .proceeds 1 .succeeds, .opens 0,
    .proceeds 0 .interrupted, .proceeds 0 (.wrote 1), .proceeds 0 .succeeds, .proceeds 0 .succeeds,
    .proceeds 0 .succeeds, .proceeds 0 .succeeds, .proceeds 0 .succeeds, .proceeds 0 .succeeds,
    .reads 0 5, .reads 0 5, .proceeds 0 .succeeds, .proceeds 1 .fails]

/-- Both calls have ended. The reader has read what the first rename installed, and the path holds
the content of the second. -/
theorem replaced_atomically_twice : ∃ s, (system ['a']).run (start .empty) createdTwice = some s ∧
      (∀ id call, s.calls id = some call → call.stage.ended = true) ∧
      (s.readers 0).map (fun reader => (reader.got, reader.finished)) = some ([3], true) ∧
      s.fs.lookup ['a'] = some [1, 2] ∧ ∀ name ≠ ['a'], s.fs.entry name = none := by
  obtain ⟨s, finished, -, settled⟩ := replaced_atomically ['a'] .empty FileSystem.empty_wellFormed
    createdTwice (by decide) (by decide)
  have ended : ∀ id call, s.calls id = some call → call.stage.ended = true := by
    cases finished
    rintro (_ | _ | id) call ⟨⟩ <;> rfl
  obtain ⟨latest, others⟩ := settled ended
  cases finished
  exact ⟨_, rfl, ended, rfl, latest, others⟩

/-- The name of the target may consist of dots up to the suffix of a temporary name. -/
def dotted : FileName := List.replicate 234 '.' ++ tempSuffix 1 0 0

/-- A call takes the target for its temporary file, and the target is empty. -/
theorem dotted_created : (system dotted).Valid (start .empty)
      [.begins 0 [1] 0o022, .proceeds 0 .fails, .proceeds 0 (.opens 1 0 0)] ∧
    ∃ s, (system dotted).run (start .empty)
        [.begins 0 [1] 0o022, .proceeds 0 .fails, .proceeds 0 (.opens 1 0 0)] = some s ∧
      s.fs.entry dotted = some 0 ∧ s.fs.content 0 = [] ∧ s.readers 0 = none ∧
      (s.calls 0).map (·.content) = some [1] ∧ ∀ id ≠ 0, s.calls id = none := by
  have same : tempName dotted 1 0 0 = dotted := (tempName_eq_iff dotted 1 0 0).mpr rfl
  generalize dotted = path at same ⊢
  constructor
  · refine ⟨rfl, ?_⟩
    rintro _ ⟨⟩
    refine ⟨rfl, ?_⟩
    rintro _ ⟨⟩
    exact ⟨rfl, fun _ _ => trivial⟩
  · refine ⟨_, rfl, ?_, rfl, rfl, rfl, ?_⟩
    · exact (congrArg _ same.symm).trans (update_self ..)
    · intro id other
      simp [proceed, start, other]

/-- A reader that opens the target while it is the temporary file of a call reads nothing. -/
theorem temporary_file_at_target : (system dotted).Valid (start .empty)
      [.begins 0 [1] 0o022, .proceeds 0 .fails, .proceeds 0 (.opens 1 0 0), .opens 0, .reads 0 1] ∧
    ∃ s, (system dotted).run (start .empty)
        [.begins 0 [1] 0o022, .proceeds 0 .fails, .proceeds 0 (.opens 1 0 0), .opens 0,
          .reads 0 1] = some s ∧
      s.readers 0 = some ⟨0, [], true⟩ ∧ (s.calls 0).map (·.content) = some [1] ∧
      ∀ id ≠ 0, s.calls id = none := by
  obtain ⟨admitted, s, created, named, blank, unread, one, only⟩ := dotted_created
  have read : (system dotted).run s [.opens 0, .reads 0 1] = some { s with
      readers := update (update s.readers 0 (some ⟨0, [], false⟩)) 0
        (some (Reader.read (s.fs.content 0) 1 ⟨0, [], false⟩)) } := by
    simp [system, step, named]
  constructor
  · refine (Runs.System.along_append _ (start .empty) [_, _, _] [_, _]).mpr ⟨admitted, ?_⟩
    rintro middle reached
    cases created.symm.trans reached
    simp [Runs.System.along_cons, system, enabled, step, named, unread]
  · refine ⟨_, ((Runs.System.run_append (start .empty) [_, _, _] [_, _]).trans ?_).trans read, ?_,
      one, only⟩
    · rw [created, Option.bind_some]
    · simp [blank, Reader.read]

end Runs

end Moban.SharedFile
