import EchoProxy.Lib.Transition

/-! Systems with a component in common. A step of either system makes at most one step of the
component; together, the two make a step of the component at once and all other steps alone. -/

namespace Transition
variable {σ τ ρ π : Type*} {α β γ δ : Type*}

/-- A component of a system. `move` is the component's step in a step of the whole. -/
structure Part (σ α ρ γ : Type*) where
  view : σ → ρ
  move : σ → α → Option γ

/-- The component takes the steps of a system of its own, and is left alone otherwise. -/
structure Part.Of (p : Part σ α ρ γ) (m : System σ α) (n : System ρ γ) : Prop where
  silent : ∀ {before action after}, m.step before action = some after → p.move before action = none →
    p.view after = p.view before
  moves : ∀ {before action after own}, m.step before action = some after → p.move before action = some own →
    n.step (p.view before) own = some (p.view after)

/-- A component of a component. -/
def Part.trans (p : Part σ α ρ γ) (q : Part ρ γ π δ) : Part σ α π δ where
  view state := q.view (p.view state)
  move state action := (p.move state action).bind (q.move (p.view state))

theorem Part.Of.trans {p : Part σ α ρ γ} {q : Part ρ γ π δ} {m : System σ α} {n : System ρ γ}
    {l : System π δ} (first : p.Of m n) (second : q.Of n l) : (p.trans q).Of m l where
  silent := by
    intro before action after taken still
    cases own : p.move before action with
    | none => exact congrArg q.view (first.silent taken own)
    | some step => exact second.silent (first.moves taken own) (by simpa [Part.trans, own] using still)
  moves := by
    intro before action after own taken moved
    obtain ⟨step, outer, inner⟩ := Option.bind_eq_some_iff.mp moved
    exact second.moves (first.moves taken outer) inner

inductive CoupledAction (α β : Type*) where
  | left (action : α)
  | right (action : β)
  | both (first : α) (second : β)

section Coupled
variable [DecidableEq γ]

/-- Two systems that start with the same component. -/
def coupled (m : System σ α) (m' : System τ β) (p : Part σ α ρ γ) (q : Part τ β ρ γ) : System (σ × τ)
    (CoupledAction α β) where
  init state := m.init state.1 ∧ m'.init state.2 ∧ p.view state.1 = q.view state.2
  step
    | (s, t), .left action => if p.move s action = none then (m.step s action).map fun s' => (s', t) else none
    | (s, t), .right action => if q.move t action = none then (m'.step t action).map fun t' => (s, t') else none
    | (s, t), .both first second =>
      if (p.move s first).isSome = true ∧ p.move s first = q.move t second then
        (m.step s first).bind fun s' => (m'.step t second).map fun t' => (s', t')
      else none

/-- The component that the two systems have in common. -/
def Part.coupled (p : Part σ α ρ γ) : Part (σ × τ) (CoupledAction α β) ρ γ where
  view state := p.view state.1
  move
    | (s, _), .left action | (s, _), .both action _ => p.move s action
    | _, .right _ => none

variable {m : System σ α} {m' : System τ β} {n : System ρ γ} {p : Part σ α ρ γ} {q : Part τ β ρ γ}

/-- What a step is for the two systems. -/
inductive CoupledEffect (m : System σ α) (m' : System τ β) (p : Part σ α ρ γ) (q : Part τ β ρ γ) (s : σ) (t : τ) :
    CoupledAction α β → σ × τ → Prop where
  | left {action s'} (alone : p.move s action = none) (stepped : m.step s action = some s') :
    CoupledEffect m m' p q s t (.left action) (s', t)
  | right {action t'} (alone : q.move t action = none) (stepped : m'.step t action = some t') :
    CoupledEffect m m' p q s t (.right action) (s, t')
  | both {first second own s' t'} (move : p.move s first = some own) (same : q.move t second = some own)
    (stepped : m.step s first = some s') (stepped' : m'.step t second = some t') :
    CoupledEffect m m' p q s t (.both first second) (s', t')

theorem coupled_effect {s : σ} {t : τ} {action : CoupledAction α β} {after : σ × τ}
    (taken : (coupled m m' p q).step (s, t) action = some after) : CoupledEffect m m' p q s t action after := by
  cases action with
  | left action =>
    obtain ⟨alone, moved⟩ := Option.ite_none_right_eq_some.mp taken
    obtain ⟨s', stepped, rfl⟩ := Option.map_eq_some_iff.mp moved
    exact .left alone stepped
  | right action =>
    obtain ⟨alone, moved⟩ := Option.ite_none_right_eq_some.mp taken
    obtain ⟨t', stepped, rfl⟩ := Option.map_eq_some_iff.mp moved
    exact .right alone stepped
  | both first second =>
    obtain ⟨⟨moves, same⟩, moved⟩ := Option.ite_none_right_eq_some.mp taken
    obtain ⟨s', stepped, rest⟩ := Option.bind_eq_some_iff.mp moved
    obtain ⟨t', stepped', rfl⟩ := Option.map_eq_some_iff.mp rest
    obtain ⟨own, move⟩ := Option.isSome_iff_exists.mp moves
    exact .both move (same.symm.trans move) stepped stepped'

theorem coupled_left {state : σ × τ} (run : (coupled m m' p q).Reachable state) : m.Reachable state.1 := by
  refine run.component Prod.fst (fun _ initial => initial.1) ?_
  rintro ⟨s, t⟩ action after _ taken
  cases coupled_effect taken with
  | left _ stepped | both _ _ stepped => exact .inr ⟨_, trivial, stepped⟩
  | right => exact .inl rfl

theorem coupled_right {state : σ × τ} (run : (coupled m m' p q).Reachable state) : m'.Reachable state.2 := by
  refine run.component Prod.snd (fun _ initial => initial.2.1) ?_
  rintro ⟨s, t⟩ action after _ taken
  cases coupled_effect taken with
  | left => exact .inl rfl
  | right _ stepped | both _ _ _ stepped => exact .inr ⟨_, trivial, stepped⟩

/-- The component stays the same one. -/
theorem coupled_agrees (left : p.Of m n) (right : q.Of m' n) {state : σ × τ}
    (run : (coupled m m' p q).Reachable state) :
    p.view state.1 = q.view state.2 := by
  refine run.invariant (p := fun state => p.view state.1 = q.view state.2) (fun _ initial => initial.2.2) ?_
  rintro ⟨s, t⟩ action after _ agree _ taken
  dsimp only at agree
  cases coupled_effect taken with
  | left alone stepped => exact (left.silent stepped alone).trans agree
  | right alone stepped => exact agree.trans (right.silent stepped alone).symm
  | both move same stepped stepped' =>
    have first := left.moves stepped move
    rw [agree, right.moves stepped' same] at first
    exact (Option.some.inj first).symm

theorem Part.Of.coupled (left : p.Of m n) : p.coupled.Of (Transition.coupled m m' p q) n where
  silent := by
    rintro ⟨s, t⟩ action after taken still
    cases coupled_effect taken with
    | left _ stepped | both _ _ stepped => exact left.silent stepped still
    | right => rfl
  moves := by
    rintro ⟨s, t⟩ action after own taken moved
    cases coupled_effect taken with
    | left _ stepped | both _ _ stepped => exact left.moves stepped moved
    | right => cases moved

end Coupled
end Transition
