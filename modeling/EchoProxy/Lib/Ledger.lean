import Mathlib.Data.Finset.Insert
import Mathlib.Data.Finset.Basic

/-! Tokens that are issued into a store and redeemed out of it: as long as no token is
issued twice, each is in the store or with exactly one holder. -/

namespace Ledger
variable {ι α : Type*}

/-- `holds i token` when holder `i` has redeemed the token. -/
structure Balanced (issued : List α) (store : Finset α) (holds : ι → α → Prop) : Prop where
  covers : ∀ token, token ∈ issued ↔ token ∈ store ∨ ∃ i, holds i token
  apart : ∀ token i, token ∈ store → ¬ holds i token
  once : ∀ token i j, holds i token → holds j token → i = j

namespace Balanced
variable {issued : List α} {store : Finset α} {holds holds' : ι → α → Prop}

theorem empty (none : ∀ i token, ¬ holds i token) : Balanced [] ∅ holds where
  covers token := by simp [none]
  apart token i := by simp
  once token i j held := absurd held (none i token)

theorem congr (balanced : Balanced issued store holds) (same : ∀ i token, holds' i token ↔ holds i token) :
    Balanced issued store holds' where
  covers token := by simp only [same, balanced.covers]
  apart token i inside := by rw [same]; exact balanced.apart token i inside
  once token i j held held' := balanced.once token i j ((same i token).mp held) ((same j token).mp held')

variable [DecidableEq α]

theorem issue {token : α} (balanced : Balanced issued store holds) (fresh : token ∉ issued) :
    Balanced (issued ++ [token]) (insert token store) holds where
  covers other := by
    simp only [List.mem_append, List.mem_singleton, Finset.mem_insert, balanced.covers]
    tauto
  apart other i inside held := by
    rcases Finset.mem_insert.mp inside with rfl | inside
    · exact fresh ((balanced.covers other).mpr (.inr ⟨i, held⟩))
    · exact balanced.apart other i inside held
  once := balanced.once

theorem redeem {token : α} {j : ι} (balanced : Balanced issued store holds) (inside : token ∈ store)
    (taken : ∀ i other, holds' i other ↔ holds i other ∨ i = j ∧ other = token) :
    Balanced issued (store.erase token) holds' where
  covers other := by
    rw [balanced.covers]
    constructor
    · intro known
      by_cases own : other = token
      · exact .inr ⟨j, (taken j other).mpr (.inr ⟨rfl, own⟩)⟩
      · rcases known with stored | ⟨i, held⟩
        · exact .inl (Finset.mem_erase.mpr ⟨own, stored⟩)
        · exact .inr ⟨i, (taken i other).mpr (.inl held)⟩
    · intro known
      rcases known with stored | ⟨i, held⟩
      · exact .inl (Finset.mem_of_mem_erase stored)
      · rcases (taken i other).mp held with held | ⟨-, rfl⟩
        · exact .inr ⟨i, held⟩
        · exact .inl inside
  apart other i stored held := by
    obtain ⟨different, stored⟩ := Finset.mem_erase.mp stored
    rcases (taken i other).mp held with held | ⟨-, own⟩
    · exact balanced.apart other i stored held
    · exact different own
  once other i k held held' := by
    rcases (taken i other).mp held with first | ⟨rfl, rfl⟩
    · rcases (taken k other).mp held' with second | ⟨rfl, rfl⟩
      · exact balanced.once other i k first second
      · exact absurd first (balanced.apart other i inside)
    · rcases (taken k other).mp held' with second | ⟨rfl, -⟩
      · exact absurd second (balanced.apart other k inside)
      · rfl

end Balanced
end Ledger
