import Mathlib.Logic.Basic

/-! Loops that may fail: `foldlM` over `Except`, where whether an element is taken
does not depend on what came before it. -/

namespace Loop
variable {σ α ε : Type} {step : σ → α → Except ε σ}

theorem foldlM_cons_ok {item : α} {items : List α} {start last : σ} :
    (item :: items).foldlM step start = .ok last ↔ ∃ next, step start item = .ok next ∧ items.foldlM step next = .ok last := by
  rw [List.foldlM_cons]
  cases taken : step start item with
  | error e => exact ⟨fun failed => (nomatch failed), fun ⟨_, impossible, _⟩ => (nomatch impossible)⟩
  | ok next =>
    constructor
    · intro rest
      exact ⟨next, rfl, rest⟩
    · intro ⟨other, same, rest⟩
      cases same
      exact rest

/-- The loop ends well exactly if every element is good. -/
theorem foldlM_ok {Good : α → Prop} (takes : ∀ state item, (∃ next, step state item = .ok next) ↔ Good item)
    (items : List α) (start : σ) : (∃ last, items.foldlM step start = .ok last) ↔ ∀ item ∈ items, Good item := by
  induction items generalizing start with
  | nil => exact ⟨fun _ _ impossible => (List.not_mem_nil impossible).elim, fun _ => ⟨start, rfl⟩⟩
  | cons item items ih =>
    constructor
    · intro ⟨last, ran⟩
      obtain ⟨next, taken, rest⟩ := foldlM_cons_ok.mp ran
      intro other member
      rcases List.mem_cons.mp member with rfl | later
      · exact (takes start other).mp ⟨next, taken⟩
      · exact (ih next).mp ⟨last, rest⟩ other later
    · intro good
      obtain ⟨next, taken⟩ := (takes start item).mpr (good item (by simp))
      obtain ⟨last, rest⟩ := (ih next).mpr fun other member => good other (by simp [member])
      exact ⟨last, foldlM_cons_ok.mpr ⟨next, taken, rest⟩⟩

/-- What can be seen of the result is what could be seen of the start and what each
element added. -/
theorem foldlM_collects {Seen : σ → Prop} {Adds : α → Prop} {items : List α}
    (collects : ∀ state item next, item ∈ items → step state item = .ok next → (Seen next ↔ Seen state ∨ Adds item))
    {start last : σ} (ran : items.foldlM step start = .ok last) : Seen last ↔ Seen start ∨ ∃ item ∈ items, Adds item := by
  induction items generalizing start with
  | nil => cases ran; simp
  | cons item items ih =>
    obtain ⟨next, taken, rest⟩ := foldlM_cons_ok.mp ran
    have later := ih (fun state other after member => collects state other after (by simp [member])) rest
    rw [later, collects start item next (by simp) taken]
    simp [or_assoc]

end Loop
