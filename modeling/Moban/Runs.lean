import Mathlib

/-!
# Runs of guarded partial transition systems

A system offers a partial step for every label. No next state means that the
component itself has failed: an assertion was violated or a dead object was
used. Which labels the environment may ask for is a separate question, answered
by a relation between the current state and the label, so that a failure of the
component is never confused with a request that cannot arise.

The rules below are the only inductions over runs. A development states what one
step preserves and obtains the property of every run from them.
-/

namespace Moban.Runs

universe u v w
variable {State : Type u} {Label : Type v}

/-- A component and its environment. The step returns no state exactly when the
component fails; the guard bounds what the environment may request. -/
structure System (State : Type u) (Label : Type v) where
  step : State → Label → Option State
  enabled : State → Label → Prop

namespace System

variable (system : System State Label)

/-- Perform the labels in order and stop at the first failure. -/
def run : State → List Label → Option State
  | state, [] => some state
  | state, label :: rest => (system.step state label).bind fun next => run next rest

/-- Every step taken meets a relation between its source state and its label.
A step that fails ends the obligation together with the run. -/
def Along (condition : State → Label → Prop) : State → List Label → Prop
  | _, [] => True
  | state, label :: rest =>
      condition state label ∧
        ∀ next ∈ system.step state label, Along condition next rest

/-- The environment only makes requests that its guard admits. -/
def Valid (state : State) (labels : List Label) : Prop :=
  system.Along system.enabled state labels

instance decidableAlong (condition : State → Label → Prop)
    [∀ state label, Decidable (condition state label)] :
    ∀ state labels, Decidable (system.Along condition state labels)
  | _, [] => inferInstanceAs (Decidable True)
  | state, label :: rest =>
      have : ∀ next, Decidable (system.Along condition next rest) :=
        fun next => decidableAlong condition next rest
      inferInstanceAs (Decidable (condition state label ∧
        ∀ next ∈ system.step state label, system.Along condition next rest))

instance decidableValid [∀ state label, Decidable (system.enabled state label)]
    (state : State) (labels : List Label) : Decidable (system.Valid state labels) :=
  inferInstanceAs (Decidable (system.Along system.enabled state labels))

variable {system} {admitted condition : State → Label → Prop}

@[simp] theorem run_nil (state : State) : system.run state [] = some state := rfl

@[simp] theorem run_cons (state : State) (label : Label) (rest : List Label) :
    system.run state (label :: rest) =
      (system.step state label).bind fun next => system.run next rest := rfl

@[simp] theorem along_nil (condition : State → Label → Prop) (state : State) :
    system.Along condition state [] := trivial

theorem along_cons (condition : State → Label → Prop) (state : State) (label : Label)
    (rest : List Label) :
    system.Along condition state (label :: rest) ↔
      condition state label ∧
        ∀ next, system.step state label = some next → system.Along condition next rest :=
  Iff.rfl

/-- A run of two consecutive parts passes through the state between them. -/
theorem run_append (state : State) (first second : List Label) :
    system.run state (first ++ second) =
      (system.run state first).bind fun middle => system.run middle second := by
  induction first generalizing state with
  | nil => rfl
  | cons label rest ih =>
    cases stepped : system.step state label with
    | none => simp [stepped]
    | some next => simp [stepped, ih next]

/-- A condition on every step splits at the state between two parts. -/
theorem along_append (condition : State → Label → Prop) (state : State)
    (first second : List Label) :
    system.Along condition state (first ++ second) ↔
      system.Along condition state first ∧
        ∀ middle, system.run state first = some middle →
          system.Along condition middle second := by
  induction first generalizing state with
  | nil => simp
  | cons label rest ih =>
    simp only [List.cons_append, along_cons, run_cons]
    cases stepped : system.step state label with
    | none => simp
    | some next => simp [ih next, and_assoc]

/-- A condition on the labels alone holds along every run of them. -/
theorem along_forall {condition : Label → Prop} (state : State) (labels : List Label)
    (holds : ∀ label ∈ labels, condition label) :
    system.Along (fun _ => condition) state labels := by
  induction labels generalizing state with
  | nil => trivial
  | cons label rest ih =>
    refine (along_cons _ _ _ _).mpr ⟨holds label List.mem_cons_self, ?_⟩
    intro next _
    exact ih next fun other later => holds other (List.mem_cons_of_mem _ later)

/-- Two conditions on every step form one condition on every step. -/
theorem along_and (first second : State → Label → Prop) (state : State) (labels : List Label) :
    system.Along (fun source label => first source label ∧ second source label) state labels ↔
      system.Along first state labels ∧ system.Along second state labels := by
  induction labels generalizing state with
  | nil => simp
  | cons label rest ih =>
    simp only [along_cons, ih]
    constructor
    · rintro ⟨⟨left, right⟩, later⟩
      exact ⟨⟨left, fun next stepped => (later next stepped).1⟩,
        ⟨right, fun next stepped => (later next stepped).2⟩⟩
    · rintro ⟨⟨left, laterLeft⟩, ⟨right, laterRight⟩⟩
      exact ⟨⟨left, right⟩, fun next stepped =>
        ⟨laterLeft next stepped, laterRight next stepped⟩⟩

/-- The safety rule. When every admitted step from an invariant state succeeds
and re-establishes the invariant, every admitted run succeeds and ends in it.

Proof: induction over the labels; the invariant supplies the next state of the
first step and the remaining labels are admitted from there. -/
theorem run_safe (Invariant : State → Prop)
    (progress : ∀ state label, Invariant state → condition state label →
      ∃ next, system.step state label = some next ∧ Invariant next)
    (state : State) (labels : List Label) (initial : Invariant state)
    (along : system.Along condition state labels) :
    ∃ final, system.run state labels = some final ∧ Invariant final := by
  induction labels generalizing state with
  | nil => exact ⟨state, rfl, initial⟩
  | cons label rest ih =>
    obtain ⟨here, later⟩ := (along_cons _ _ _ _).mp along
    obtain ⟨next, stepped, kept⟩ := progress state label initial here
    obtain ⟨final, finished, established⟩ :=
      ih next kept (later next stepped)
    exact ⟨final, by simp [stepped, finished], established⟩

/-- The decision rule. When every admitted step that violates a condition fails or spoils a
property for good, and every other step succeeds and keeps it, a run succeeds with the
property exactly if the condition held along it.

Proof: induction over the labels. A failed first step has violated the condition; after
any other step, the remaining labels decide what the first left undecided. -/
theorem run_decides (Invariant Property : State → Prop)
    (decided : ∀ state label, Invariant state → admitted state label →
      (system.step state label = none ∧ ¬ condition state label) ∨
      ∃ next, system.step state label = some next ∧ Invariant next ∧
        (Property next ↔ Property state ∧ condition state label))
    (state : State) (labels : List Label) (initial : Invariant state)
    (along : system.Along admitted state labels) :
    (∃ final, system.run state labels = some final ∧ Property final) ↔
      Property state ∧ system.Along condition state labels := by
  induction labels generalizing state with
  | nil => simp
  | cons label rest ih =>
    obtain ⟨here, later⟩ := (along_cons _ _ _ _).mp along
    rcases decided state label initial here with
      ⟨failed, violated⟩ | ⟨next, stepped, kept, decision⟩
    · simp [along_cons, failed, violated]
    · have remaining := ih next kept (later next stepped)
      rw [decision, and_assoc] at remaining
      simpa [along_cons, stepped] using remaining

/-- The decision rule for runs that are already known to succeed. -/
theorem run_decided (Invariant Property : State → Prop)
    (decided : ∀ state label next, Invariant state → admitted state label →
      system.step state label = some next →
        Invariant next ∧ (Property next ↔ Property state ∧ condition state label))
    (state final : State) (labels : List Label) (initial : Invariant state)
    (along : system.Along admitted state labels)
    (finished : system.run state labels = some final) :
    Property final ↔ Property state ∧ system.Along condition state labels := by
  induction labels generalizing state with
  | nil =>
    cases Option.some.inj finished
    simp
  | cons label rest ih =>
    obtain ⟨here, later⟩ := (along_cons _ _ _ _).mp along
    obtain ⟨next, stepped, following⟩ := Option.bind_eq_some_iff.mp finished
    obtain ⟨kept, decision⟩ := decided state label next initial here stepped
    rw [ih next kept (later next stepped) following, decision, and_assoc]
    simp [along_cons, stepped]

/-- The preservation rule for runs that are already known to succeed. -/
theorem run_invariant (Invariant : State → Prop)
    (preserved : ∀ state label next, Invariant state → condition state label →
      system.step state label = some next → Invariant next)
    (state final : State) (labels : List Label) (initial : Invariant state)
    (along : system.Along condition state labels)
    (finished : system.run state labels = some final) : Invariant final := by
  induction labels generalizing state with
  | nil =>
    cases Option.some.inj finished
    exact initial
  | cons label rest ih =>
    obtain ⟨here, later⟩ := (along_cons _ _ _ _).mp along
    obtain ⟨next, stepped, following⟩ := Option.bind_eq_some_iff.mp finished
    exact ih next (preserved state label next initial here stepped)
      (later next stepped) following

/-- The observation rule. What an invariant guarantees of the next step is met by every step
of a run that keeps the invariant. -/
theorem along_invariant (Invariant : State → Prop)
    (preserved : ∀ state label next, Invariant state → admitted state label →
      system.step state label = some next → Invariant next)
    (guaranteed : ∀ state label, Invariant state → admitted state label → condition state label)
    (state : State) (labels : List Label) (initial : Invariant state)
    (along : system.Along admitted state labels) : system.Along condition state labels := by
  induction labels generalizing state with
  | nil => exact along_nil _ _
  | cons label rest ih =>
    obtain ⟨here, later⟩ := (along_cons _ _ _ _).mp along
    refine (along_cons _ _ _ _).mpr ⟨guaranteed state label initial here, ?_⟩
    intro next stepped
    exact ih next (preserved state label next initial here stepped)
      (later next stepped)

/-- The exchange rule. Two conditions that an invariant makes equivalent hold along the same runs,
if either of them keeps the invariant. -/
theorem along_exchange (Invariant : State → Prop) {admitted first second : State → Label → Prop}
    (equivalent : ∀ state label, Invariant state → admitted state label →
      (first state label ↔ second state label))
    (preserved : ∀ state label next, Invariant state → admitted state label →
      first state label → system.step state label = some next → Invariant next)
    (state : State) (labels : List Label) (initial : Invariant state)
    (along : system.Along admitted state labels) :
    system.Along first state labels ↔ system.Along second state labels := by
  induction labels generalizing state with
  | nil => simp
  | cons label rest ih =>
    obtain ⟨here, later⟩ := (along_cons _ _ _ _).mp along
    rw [along_cons, along_cons, ← equivalent state label initial here]
    refine and_congr_right fun met => forall_congr' fun next => ?_
    refine imp_congr_right fun stepped => ?_
    exact ih next (preserved state label next initial here met stepped)
      (later next stepped)

/-- The termination rule. When every admitted step lowers a measure, a run has at most as many
steps as the measure allows. -/
theorem run_bounded (Invariant : State → Prop) (measure : State → Nat)
    (lowered : ∀ state label next, Invariant state → condition state label →
      system.step state label = some next → Invariant next ∧ measure next < measure state)
    (state final : State) (labels : List Label) (initial : Invariant state)
    (along : system.Along condition state labels)
    (finished : system.run state labels = some final) :
    labels.length + measure final ≤ measure state := by
  induction labels generalizing state with
  | nil =>
    cases Option.some.inj finished
    simp
  | cons label rest ih =>
    obtain ⟨here, later⟩ := (along_cons _ _ _ _).mp along
    obtain ⟨next, stepped, following⟩ := Option.bind_eq_some_iff.mp finished
    obtain ⟨kept, lower⟩ := lowered state label next initial here stepped
    have remaining := ih next kept (later next stepped) following
    rw [List.length_cons]
    omega

section Projection

variable {Other : Type w} {other : System Other Label} (project : State → Other)

/-- The projection rule. A component that only observes another one runs as that one does. -/
theorem run_projects (steps : ∀ state label,
      (system.step state label).map project = other.step (project state) label)
    (state : State) (labels : List Label) :
    (system.run state labels).map project = other.run (project state) labels := by
  induction labels generalizing state with
  | nil => rfl
  | cons label rest ih =>
    rw [run_cons, run_cons, ← steps]
    cases system.step state label with
    | none => rfl
    | some next => exact ih next

/-- A condition on the observed component holds along the same runs. -/
theorem along_projects (steps : ∀ state label,
      (system.step state label).map project = other.step (project state) label)
    (condition : Other → Label → Prop) (state : State) (labels : List Label) :
    system.Along (fun source => condition (project source)) state labels ↔
      other.Along condition (project state) labels := by
  induction labels generalizing state with
  | nil => simp
  | cons label rest ih =>
    rw [along_cons, along_cons, ← steps]
    cases system.step state label with
    | none => simp
    | some next => simp [ih next]

end Projection

/-- Forward simulation with an allowance. Each label has a cost, and a related
pair may spend it; the total cost of the labels must be available at the start.

Proof: induction over the labels. The cost of the first label is spent by its own
step, which leaves exactly the cost of the remaining labels. -/
theorem run_simulates (system : System State Label) {Abstract : Type w}
    (Related : State → Abstract → Nat → Prop)
    (abstractStep : Abstract → Label → Abstract) (cost : Label → Nat)
    (simulated : ∀ state abstract label allowance,
      Related state abstract (cost label + allowance) → condition state label →
        ∃ next, system.step state label = some next ∧
          Related next (abstractStep abstract label) allowance)
    (state : State) (abstract : Abstract) (labels : List Label)
    (initial : Related state abstract (labels.map cost).sum)
    (along : system.Along condition state labels) :
    ∃ final, system.run state labels = some final ∧
      Related final (labels.foldl abstractStep abstract) 0 := by
  induction labels generalizing state abstract with
  | nil => exact ⟨state, rfl, initial⟩
  | cons label rest ih =>
    obtain ⟨here, later⟩ := (along_cons _ _ _ _).mp along
    have spendable : Related state abstract (cost label + (rest.map cost).sum) := initial
    obtain ⟨next, stepped, related⟩ := simulated state abstract label _ spendable here
    obtain ⟨final, finished, established⟩ :=
      ih next (abstractStep abstract label) related (later next stepped)
    exact ⟨final, by simp [stepped, finished], established⟩

end System

end Moban.Runs
