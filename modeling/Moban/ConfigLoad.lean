import Moban.Runs
import Moban.Config

/-!
# Loading a configuration again

A load that succeeds writes the format it has used into the field that later loads consult. An
object that was constructed to infer the format therefore stops inferring it after the first
success: it then takes a file with any extension for JSON, and accepts a text without a format.
-/

namespace Moban.Config

open Runs

/-- A call that loads, with what the file system gives it. -/
inductive Load where
  | file (path : Text) (read : FileRead)
  | string (content : Text) (format : ConfigFormat)

section Loading

variable (parse : Text → Except ParseError Document)

def perform : Load → Action Bool
  | .file path read => loadFile parse path read
  | .string content format => loadString parse content format

/-- The tree that the call installs, if it succeeds. -/
def outcome (load : Load) (config : Config) : Option ConfigValue :=
  match exec (perform parse load) config with
  | (.ok _, next) => some next.root
  | (.error _, _) => none

/-- The tree of the text, if it can be read and parsed as JSON. -/
def tree : Load → Option ConfigValue
  | .file _ (.content text) | .string text _ => (ConfigJson.parseJson parse text).toOption
  | .file _ _ => none

/-- The call itself tells that its text is JSON. -/
def Names : Load → Prop
  | .file path _ => extension path = "json".toList
  | .string _ format => format = .json

instance : DecidablePred Names
  | .file .. | .string .. => decEq _ _

/-- The format is known, from the object or from the call. -/
def Known (load : Load) (config : Config) : Prop := config.format = .json ∨ Names load

/-- The call installs the tree of its text. -/
def Installs (load : Load) (config : Config) : Prop :=
  Known load config ∧ ∃ value, tree parse load = some value ∧
    exec (perform parse load) config = (.ok true, ⟨.json, value, true⟩)

/-- The call throws and changes nothing. -/
def Refuses (load : Load) (config : Config) : Prop :=
  (¬ Known load config ∨ tree parse load = none) ∧
    ∃ failure, exec (perform parse load) config = (.error failure, config)

theorem exec_loadString (content : Text) (format : ConfigFormat) (config : Config) :
    exec (loadString parse content format) config =
      match parseConfig parse content (if format = .auto then config.format else format) with
      | .ok value => (.ok true, ⟨if format = .auto then config.format else format, value, true⟩)
      | .error failure => (.error failure, config) := by
  cases parsed : parseConfig parse content (if format = .auto then config.format else format) <;>
    simp only [loadString, exec_bind, exec_get, exec_liftExcept, exec_modify, exec_pure, parsed]

variable {parse} {load : Load} {config : Config}

/-- A call that comes down to loading a text in the JSON format. -/
theorem installs_or_refuses (content : Text) (format : ConfigFormat)
    (same : exec (perform parse load) config = exec (loadString parse content format) config)
    (text : tree parse load = (ConfigJson.parseJson parse content).toOption)
    (resolved : (if format = .auto then config.format else format) = .json)
    (known : Known load config) : Installs parse load config ∨ Refuses parse load config := by
  rw [exec_loadString, resolved, parseConfig] at same
  cases parsed : ConfigJson.parseJson parse content with
  | ok value =>
    rw [parsed] at same text
    exact .inl ⟨known, value, text, same⟩
  | error failure =>
    rw [parsed] at same text
    exact .inr ⟨.inr text, failure, same⟩

/-- A call installs its tree or changes nothing.

Proof: a text is loaded in the format that the call tells or, if it tells none, in the one of
the object; a file in the one of the object or, if it has none, in that of the extension. -/
theorem perform_outcomes (parse : Text → Except ParseError Document) (load : Load)
    (config : Config) : Installs parse load config ∨ Refuses parse load config := by
  cases load with
  | string content format =>
    cases format with
    | json => exact installs_or_refuses content .json rfl rfl rfl (.inr rfl)
    | auto =>
      cases stored : config.format with
      | json => exact installs_or_refuses content .auto rfl rfl stored (.inl stored)
      | auto =>
        refine .inr ⟨.inl (by simp [Known, Names, stored]), ?_⟩
        rw [perform, exec_loadString, if_pos rfl, stored, parseConfig]
        exact ⟨_, rfl⟩
  | file path read =>
    cases read with
    | missing => exact .inr ⟨.inr rfl, by simp [perform, loadFile]⟩
    | broken => exact .inr ⟨.inr rfl, by simp [perform, loadFile]⟩
    | content text =>
      cases stored : config.format with
      | json =>
        have same : exec (perform parse (.file path (.content text))) config =
            exec (loadString parse text .json) config := by
          simp [perform, loadFile, stored]
        exact installs_or_refuses text .json same rfl rfl (.inl stored)
      | auto =>
        by_cases named : extension path = "json".toList
        · have inferred : configFormatFromExtension path = .ok .json := if_pos named
          have same : exec (perform parse (.file path (.content text))) config =
              exec (loadString parse text .json) config := by
            simp [perform, loadFile, stored, inferred]
          exact installs_or_refuses text .json same rfl rfl (.inr named)
        · obtain ⟨failure, refused⟩ :
              ∃ failure, configFormatFromExtension path = .error failure := ⟨_, if_neg named⟩
          have unknown : ¬ Known (.file path (.content text)) config := by
            rintro (known | known)
            · cases stored.symm.trans known
            · exact named known
          exact .inr ⟨.inl unknown, failure, by simp [perform, loadFile, stored, refused]⟩

end Loading

/-! ## Histories -/

/-- An object and the calls that load it. A call that throws is a step that changes nothing. -/
def system (parse : Text → Except ParseError Document) : System Config Load where
  step config load := some (exec (perform parse load) config).2
  enabled _ _ := True

/-- Before the first success the object has the format of its constructor, afterwards the one
that was used. -/
def Settled (format : ConfigFormat) (config : Config) : Prop :=
  config.format = if config.loaded then .json else format

variable {parse : Text → Except ParseError Document}

theorem perform_settled {format : ConfigFormat}
    {config : Config} (settled : Settled format config) (load : Load) :
    Settled format (exec (perform parse load) config).2 := by
  rcases perform_outcomes parse load config with ⟨_, value, _, done⟩ | ⟨_, failure, failed⟩
  · rw [done]
    rfl
  · rwa [failed]

theorem outcome_eq (parse : Text → Except ParseError Document) (load : Load) (config : Config) :
    (Known load config → outcome parse load config = tree parse load) ∧
      (¬ Known load config → outcome parse load config = none) := by
  rcases perform_outcomes parse load config with
    ⟨known, value, text, done⟩ | ⟨refused, failure, failed⟩
  · exact ⟨fun _ => by rw [outcome, done, text], fun unknown => absurd known unknown⟩
  · have noOutcome : outcome parse load config = none := by rw [outcome, failed]
    refine ⟨fun known => ?_, fun _ => noOutcome⟩
    rw [noOutcome, refused.resolve_left (not_not_intro known)]

theorem outcome_eq_of_format {first second : Config}
    (same : first.format = second.format) (load : Load) :
    outcome parse load first = outcome parse load second := by
  have both : Known load first ↔ Known load second := by rw [Known, Known, same]
  by_cases known : Known load first
  · rw [(outcome_eq parse load first).1 known, (outcome_eq parse load second).1 (both.mp known)]
  · rw [(outcome_eq parse load first).2 known,
      (outcome_eq parse load second).2 fun other => known (both.mpr other)]

/-- What has been loaded before matters for an object without a format, when the call does not
tell the format of a text that can be loaded. -/
theorem outcome_eq_iff {format : ConfigFormat}
    {config : Config} (settled : Settled format config) (load : Load) :
    outcome parse load config = outcome parse load (new format) ↔
      format ≠ .auto ∨ config.loaded = false ∨ Names load ∨ tree parse load = none := by
  by_cases same : config.format = format
  · refine ⟨fun _ => ?_, fun _ => outcome_eq_of_format same load⟩
    cases loaded : config.loaded with
    | false => exact .inr (.inl rfl)
    | true =>
      have used : format = .json := by simpa [Settled, loaded, same] using settled
      exact .inl (by simp [used])
  · have loaded : config.loaded = true := by
      by_contra unloaded
      exact same (by simpa [Settled, unloaded] using settled)
    have used : config.format = .json := by simpa [Settled, loaded] using settled
    have auto : format = .auto := by
      cases format with
      | auto => rfl
      | json => exact absurd used same
    rw [(outcome_eq parse load config).1 (.inl used)]
    by_cases named : Names load
    · rw [(outcome_eq parse load (new format)).1 (.inr named)]
      simp [named]
    · have unknown : ¬ Known load (new format) := by simp [Known, new, auto, named]
      rw [(outcome_eq parse load (new format)).2 unknown]
      simp [auto, loaded, named]

/-- A load after any history has the outcome it has on a new object exactly if the constructor
was given a format, or nothing has been loaded before, or the call itself tells the format, or
its text cannot be loaded in any case. A load that fails leaves the object as it was.

Proof: the outcome is decided by the text and by whether the format is known. For an object
that was constructed without a format, an earlier success is the only way to know more than
the call tells. -/
theorem load_independent_iff (parse : Text → Except ParseError Document) (format : ConfigFormat)
    (history : List Load) (config : Config) (load : Load)
    (reached : (system parse).run (new format) history = some config) :
    (outcome parse load config = outcome parse load (new format) ↔
      format ≠ .auto ∨ config.loaded = false ∨ Names load ∨ tree parse load = none) ∧
    (outcome parse load config = none → (exec (perform parse load) config).2 = config) := by
  have kept : ∀ config load next, Settled format config → True →
      (system parse).step config load = some next → Settled format next := by
    intro config load next settled _ stepped
    cases stepped
    exact perform_settled settled load
  have start : Settled format (new format) := rfl
  have settled : Settled format config :=
    System.run_invariant (Settled format) kept _ _ history start
      (System.along_forall _ _ fun _ _ => trivial) reached
  constructor
  · exact outcome_eq_iff settled load
  · intro nothing
    rcases perform_outcomes parse load config with ⟨_, value, _, done⟩ | ⟨_, failure, failed⟩
    · simp [outcome, done] at nothing
    · rw [failed]

/-- The parser of a text that holds an empty object. -/
def parseEmpty (_ : Text) : Except ParseError Document :=
  .ok ⟨.object [], by simp [Json.Sized]⟩

/-- A file, a text without a format and again a file are loaded. -/
def reloads : List Load :=
  [.file "a.json".toList (.content []), .string [] .auto, .file "b.json".toList .missing]

/-- What was loaded before does not matter here. -/
theorem load_independent_iff_reloads :
    ∃ config, (system parseEmpty).run (new .json) reloads = some config ∧
      outcome parseEmpty (.string [] .auto) config =
        outcome parseEmpty (.string [] .auto) (new .json) := by
  refine ⟨_, rfl, ?_⟩
  exact (load_independent_iff parseEmpty .json reloads _ (.string [] .auto) rfl).1.mpr
    (.inl (by decide))

/-- An object constructed to infer the format refuses a text without one and a file with an
unknown extension, until it has loaded something: then it installs both. -/
theorem load_depends_on_history :
    ∃ config, (system parseEmpty).run (new .auto) [.file "a.json".toList (.content [])] =
        some config ∧
      outcome parseEmpty (.string [] .auto) (new .auto) = none ∧
      outcome parseEmpty (.string [] .auto) config = some (.object [] []) ∧
      outcome parseEmpty (.file "b.txt".toList (.content [])) (new .auto) = none ∧
      outcome parseEmpty (.file "b.txt".toList (.content [])) config = some (.object [] []) :=
  ⟨_, rfl, rfl, rfl, rfl, rfl⟩

end Moban.Config
