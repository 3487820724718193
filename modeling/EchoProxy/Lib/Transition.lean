import Mathlib.Logic.Basic

/-! Executable labelled transition systems. A system is a partial step function
over explicit states; everything a proof needs about runs (invariants, runs that
avoid some actions, components of a product) is stated once here. -/

namespace Transition

/-- `step state action` is `none` where the action is not enabled. -/
structure System (σ : Type*) (α : Type*) where
  init : σ → Prop
  step : σ → α → Option σ

variable {σ τ α β : Type*}

/-- States reached by runs all of whose actions are allowed. -/
inductive System.Reach (m : System σ α) (allowed : α → Prop) : σ → Prop where
  | init {state} (start : m.init state) : m.Reach allowed state
  | step {before action after} (run : m.Reach allowed before) (permitted : allowed action)
      (taken : m.step before action = some after) : m.Reach allowed after

abbrev System.Reachable (m : System σ α) (state : σ) : Prop := m.Reach (fun _ => True) state

/-- No action of the given kind can be taken. -/
def System.Quiescent (m : System σ α) (internal : α → Prop) (state : σ) : Prop :=
  ∀ action, internal action → m.step state action = none

/-- Some action of the given kind can be taken. -/
def System.Enabled (m : System σ α) (internal : α → Prop) (state : σ) : Prop :=
  ∃ action, internal action ∧ (m.step state action).isSome = true

/-- The state after a list of actions, when every one of them is enabled. -/
def System.exec (m : System σ α) : σ → List α → Option σ
  | state, [] => some state
  | state, action :: rest => (m.step state action).bind (m.exec · rest)

/-- The runs each of whose steps meets a condition on the state it is taken in. -/
def System.when (m : System σ α) (meets : σ → α → Bool) : System σ α where
  init := m.init
  step state action := if meets state action then m.step state action else none

/-- The steps a task makes for one request: the one that takes it and, until a request is
taken again, the task's own steps, whatever the other tasks do in between. -/
inductive System.Serves (m : System σ α) (request : α) (takes own : α → Bool) (start : σ) : σ → σ → Prop where
  | first {after} (taken : m.step start request = some after) : m.Serves request takes own start start after
  | later {opened actions before action after} (taken : m.step start request = some opened)
      (meanwhile : (m.when fun _ action => !takes action).exec opened actions = some before)
      (mine : own action = true) (stepped : m.step before action = some after) : m.Serves request takes own start before after

namespace System
variable {m : System σ α} {allowed : α → Prop} {internal : α → Prop}

theorem quiescent_iff_not_enabled {state : σ} :
    m.Quiescent internal state ↔ ¬ m.Enabled internal state := by
  constructor
  · rintro quiet ⟨action, kind, taken⟩
    simp [quiet action kind] at taken
  · intro stuck action kind
    cases taken : m.step state action with
    | none => rfl
    | some after => exact absurd ⟨action, kind, by simp [taken]⟩ stuck

/-- An inductive invariant; the step obligation may use reachability, and so
every invariant that is already proved. -/
theorem Reach.invariant {p : σ → Prop} {state : σ} (run : m.Reach allowed state)
    (initial : ∀ start, m.init start → p start)
    (preserved : ∀ before action after, m.Reach allowed before → p before → allowed action →
      m.step before action = some after → p after) : p state := by
  induction run with
  | init start => exact initial _ start
  | step run permitted taken ih => exact preserved _ _ _ run ih permitted taken

theorem Reach.mono {wider : α → Prop} {state : σ} (run : m.Reach allowed state)
    (implies : ∀ action, allowed action → wider action) : m.Reach wider state := by
  induction run with
  | init start => exact .init start
  | step _ permitted taken ih => exact ih.step (implies _ permitted) taken

theorem Reach.reachable {state : σ} (run : m.Reach allowed state) : m.Reachable state :=
  run.mono fun _ _ => trivial

/-- A component of a product: when each step of `m` is a step of `n` on the
component or leaves it alone, the component is reachable in `n`. -/
theorem Reach.component {n : System τ β} {permits : β → Prop} (view : σ → τ) {state : σ}
    (run : m.Reach allowed state) (initial : ∀ start, m.init start → n.init (view start))
    (simulates : ∀ before action after, allowed action → m.step before action = some after →
      view after = view before ∨ ∃ move, permits move ∧ n.step (view before) move = some (view after)) :
    n.Reach permits (view state) := by
  induction run with
  | init start => exact .init (initial _ start)
  | step _ permitted taken ih =>
    rcases simulates _ _ _ permitted taken with same | ⟨move, permit, moved⟩
    · exact same ▸ ih
    · exact ih.step permit moved

/-- Executing a list of allowed actions stays within the reachable states. -/
theorem Reach.exec {state final : σ} {actions : List α} (run : m.Reach allowed state)
    (permitted : ∀ action ∈ actions, allowed action)
    (executed : m.exec state actions = some final) : m.Reach allowed final := by
  induction actions generalizing state with
  | nil => cases executed; exact run
  | cons action rest ih =>
    obtain ⟨next, taken, remaining⟩ := Option.bind_eq_some_iff.mp executed
    exact ih (run.step (permitted action (by simp)) taken)
      (fun later member => permitted later (by simp [member])) remaining

/-- A run that evaluates to a state passing the test. -/
theorem reached {start : σ} {actions : List α} {test : σ → Bool} (executed : (m.exec start actions).any test = true)
    (initial : m.init start) : ∃ final, m.Reachable final ∧ test final = true := by
  obtain ⟨final, ran, passed⟩ := (Option.any_eq_true _ _).mp executed
  have begin : m.Reachable start := .init initial
  exact ⟨final, begin.exec (fun _ _ => trivial) ran, passed⟩

/-- What every step preserves holds after any list of actions. -/
theorem exec_preserves {p : σ → Prop} {state final : σ} {actions : List α}
    (preserved : ∀ before action after, p before → m.step before action = some after → p after)
    (executed : m.exec state actions = some final) (holds : p state) : p final := by
  induction actions generalizing state with
  | nil => cases executed; exact holds
  | cons action rest ih =>
    obtain ⟨next, taken, remaining⟩ := Option.bind_eq_some_iff.mp executed
    exact ih remaining (preserved _ _ _ holds taken)

/-- What every allowed step preserves holds after any list of allowed actions. -/
theorem exec_keeps {p : σ → Prop} {state final : σ} {actions : List α} (permitted : ∀ action ∈ actions, allowed action)
    (preserved : ∀ before action after, p before → allowed action → m.step before action = some after → p after)
    (executed : m.exec state actions = some final) (holds : p state) : p final := by
  induction actions generalizing state with
  | nil => cases executed; exact holds
  | cons action rest ih =>
    obtain ⟨next, taken, remaining⟩ := Option.bind_eq_some_iff.mp executed
    exact ih (fun later member => permitted later (by simp [member])) remaining
      (preserved _ _ _ holds (permitted action (by simp)) taken)

theorem when_step {meets : σ → α → Bool} {before after : σ} {action : α} :
    (m.when meets).step before action = some after ↔ meets before action = true ∧ m.step before action = some after := by
  simp only [System.when]
  split <;> simp_all

/-- What the first step establishes and every step but the next request keeps may be assumed
of the task's later steps. -/
theorem Serves.confined {request : α} {takes own : α → Bool} {start before after : σ} {p : σ → Prop} {q : σ → σ → Prop}
    (serves : m.Serves request takes own start before after)
    (begins : ∀ opened, m.step start request = some opened → q start opened ∧ p opened)
    (keeps : ∀ before action after, p before → takes action = false → m.step before action = some after → p after)
    (steps : ∀ before action after, p before → own action = true → m.step before action = some after → q before after) :
    q before after := by
  cases serves with
  | first taken => exact (begins after taken).1
  | later taken meanwhile mine stepped =>
    refine steps before _ after ?_ mine stepped
    refine exec_preserves ?_ meanwhile (begins _ taken).2
    intro before action after holds moved
    obtain ⟨other, moved⟩ := when_step.mp moved
    exact keeps before action after holds (by simpa using other) moved

theorem Reach.unguarded {meets : σ → α → Bool} {state : σ} (run : (m.when meets).Reach allowed state) :
    m.Reach allowed state := by
  induction run with
  | init start => exact .init start
  | step _ permitted taken ih => exact ih.step permitted (when_step.mp taken).2

end System
end Transition
