import EchoProxy.Lib.Transition
import Mathlib.Algebra.BigOperators.Group.List.Basic
import Mathlib.Algebra.GroupWithZero.Nat

/-! Work that comes to an end. A rank pays for every step of a kind, and no other step
raises it by more than what that step brings in: so the steps of the kind are bounded by
the rank and what was brought in, and left to themselves they end at rest. -/

namespace Transition
variable {σ α : Type*}

/-- `brings` is what a step adds to the work; a step of the kind adds nothing and does a
part of it. -/
structure System.Ranked (m : System σ α) (internal : α → Bool) (rank : σ → Nat) (brings : α → Nat) : Prop where
  pays : ∀ before action after, m.step before action = some after →
    rank after + (if internal action then 1 else 0) ≤ rank before + brings action
  own : ∀ action, internal action = true → brings action = 0

namespace System.Ranked
variable {m : System σ α} {internal : α → Bool} {rank : σ → Nat} {brings : α → Nat}

theorem lowers (ranked : m.Ranked internal rank brings) {before after : σ} {action : α}
    (kind : internal action = true)
    (taken : m.step before action = some after) : rank after < rank before := by
  have paid := ranked.pays before action after taken
  rw [if_pos kind, ranked.own action kind] at paid
  omega

/-- A run makes at most as many steps of the kind as the rank and what was brought in. -/
theorem exec_count (ranked : m.Ranked internal rank brings) {start final : σ} {actions : List α}
    (executed : m.exec start actions = some final) :
    actions.countP internal + rank final ≤ rank start + (actions.map brings).sum := by
  induction actions generalizing start with
  | nil => cases executed; simp
  | cons action rest ih =>
    obtain ⟨next, taken, remaining⟩ := Option.bind_eq_some_iff.mp executed
    have paid := ranked.pays start action next taken
    have later := ih remaining
    rw [List.countP_cons, List.map_cons, List.sum_cons]
    omega

/-- A run of steps of the kind alone is no longer than the rank. -/
theorem exec_length (ranked : m.Ranked internal rank brings) {start final : σ} {actions : List α}
    (kind : ∀ action ∈ actions, internal action = true) (executed : m.exec start actions = some final) :
    actions.length + rank final ≤ rank start := by
  have counted := ranked.exec_count executed
  have nothing : (actions.map brings).sum = 0 :=
    List.sum_eq_zero (by simpa using fun action member => ranked.own action (kind action member))
  rw [List.countP_eq_length.mpr kind, nothing] at counted
  exact counted

/-- From every state steps of the kind lead to one where none is left. -/
theorem settles (ranked : m.Ranked internal rank brings) (start : σ) :
    ∃ actions final, (∀ action ∈ actions, internal action = true) ∧ m.exec start actions = some final ∧
      m.Quiescent (fun action => internal action = true) final := by
  by_cases quiet : m.Quiescent (fun action => internal action = true) start
  · exact ⟨[], start, by simp, rfl, quiet⟩
  · rw [quiescent_iff_not_enabled, not_not] at quiet
    obtain ⟨action, kind, enabled⟩ := quiet
    obtain ⟨next, taken⟩ := Option.isSome_iff_exists.mp enabled
    have lower := ranked.lowers kind taken
    obtain ⟨actions, final, kinds, executed, rest⟩ := ranked.settles next
    refine ⟨action :: actions, final, ?_, Option.bind_eq_some_iff.mpr ⟨next, taken, executed⟩, rest⟩
    intro other member
    rcases List.mem_cons.mp member with rfl | later
    · exact kind
    · exact kinds other later
termination_by rank start

end System.Ranked
end Transition
