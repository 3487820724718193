import Mathlib.Algebra.BigOperators.Group.List.Basic
import Mathlib.Algebra.GroupWithZero.Nat
import Mathlib.Data.List.Basic

/-! Lists whose elements keep their places: a step replaces the element at one place
or appends a new one. -/

namespace Places
variable {α : Type*}

theorem set_cases {items : List α} {k j : Nat} {s' t : α} (found : (items.set k s')[j]? = some t) :
    j = k ∧ t = s' ∨ j ≠ k ∧ items[j]? = some t := by
  rw [List.getElem?_set] at found
  split at found
  · next same =>
    split at found
    · cases found; exact .inl ⟨same.symm, rfl⟩
    · cases found
  · next different => exact .inr ⟨fun same => different same.symm, found⟩

theorem set_found {items : List α} {k : Nat} {s : α} (found : items[k]? = some s) (s' : α) :
    (items.set k s')[k]? = some s' := by
  have inside := (List.getElem?_eq_some_iff.mp found).1
  simp [inside]

theorem set_other {items : List α} {k j : Nat} (different : j ≠ k) (s' : α) :
    (items.set k s')[j]? = items[j]? := List.getElem?_set_ne (fun same => different same.symm)

/-- What holds at a place still does if the replacement has it. -/
theorem exists_set {items : List α} {k j : Nat} {s s' : α} {p : α → Prop} (found : items[k]? = some s) (keeps : p s → p s')
    (there : ∃ t, items[j]? = some t ∧ p t) : ∃ t, (items.set k s')[j]? = some t ∧ p t := by
  obtain ⟨t, there, holds⟩ := there
  by_cases here : j = k
  · subst here
    cases found.symm.trans there
    exact ⟨s', set_found found s', keeps holds⟩
  · exact ⟨t, (set_other here s').trans there, holds⟩

theorem append_cases {items : List α} {j : Nat} {new t : α} (found : (items ++ [new])[j]? = some t) :
    j = items.length ∧ t = new ∨ items[j]? = some t := by
  rcases Nat.lt_trichotomy j items.length with inside | same | outside
  · rw [List.getElem?_append_left inside] at found
    exact .inr found
  · subst same
    simp only [List.getElem?_concat_length, Option.some.injEq] at found
    exact .inl ⟨rfl, found.symm⟩
  · rw [List.getElem?_eq_none (by simp; omega)] at found
    cases found

theorem append_found {items : List α} {j : Nat} {s : α} (found : items[j]? = some s) (new : α) :
    (items ++ [new])[j]? = some s := by
  rw [List.getElem?_append_left (List.getElem?_eq_some_iff.mp found).1, found]

theorem forall_set {items : List α} {k : Nat} {s' : α} {p : α → Prop} (all : ∀ s ∈ items, p s) (new : p s') :
    ∀ s ∈ items.set k s', p s := by
  intro s member
  rcases List.mem_or_eq_of_mem_set member with old | rfl
  · exact all s old
  · exact new

theorem forall_append {items : List α} {s' : α} {p : α → Prop} (all : ∀ s ∈ items, p s) (new : p s') :
    ∀ s ∈ items ++ [s'], p s := by
  intro s member
  rcases List.mem_append.mp member with old | added
  · exact all s old
  · rw [List.mem_singleton.mp added]
    exact new

/-- The number of elements with a property does not grow when the new element has it only
if the old one did. -/
theorem countP_set_le {items : List α} {k : Nat} {s s' : α} {p : α → Bool} (found : items[k]? = some s)
    (keeps : p s' = true → p s = true) : (items.set k s').countP p ≤ items.countP p := by
  obtain ⟨inside, rfl⟩ := List.getElem?_eq_some_iff.mp found
  have counted := List.boole_getElem_le_countP (p := p) inside
  rw [List.countP_set inside]
  by_cases new : p s' = true
  · simp only [new, keeps new, if_true] at counted ⊢
    omega
  · simp only [new, Bool.false_eq_true, if_false]
    omega

theorem countP_set_lost {items : List α} {k : Nat} {s s' : α} {p : α → Bool} (found : items[k]? = some s)
    (before : p s = true) (after : p s' = false) : (items.set k s').countP p + 1 = items.countP p := by
  obtain ⟨inside, rfl⟩ := List.getElem?_eq_some_iff.mp found
  have counted := List.boole_getElem_le_countP (p := p) inside
  rw [List.countP_set inside]
  simp only [before, after, if_true] at counted ⊢
  simp only [Bool.false_eq_true, if_false]
  omega

/-- A sum over the elements changes by what the one element does. -/
theorem sum_set {items : List α} {k : Nat} {s : α} (found : items[k]? = some s) (s' : α) (f : α → Nat) :
    ((items.set k s').map f).sum + f s = (items.map f).sum + f s' := by
  induction items generalizing k with
  | nil => cases found
  | cons first rest ih =>
    cases k with
    | zero =>
      cases found
      simp only [List.set_cons_zero, List.map_cons, List.sum_cons]
      omega
    | succ k =>
      have later := ih (k := k) found
      simp only [List.set_cons_succ, List.map_cons, List.sum_cons]
      omega

end Places
