import Mathlib.Data.List.Basic

/-! Readers that take a value off the front of a character list. Three properties
compose along a reader's binds: what it consumes is a prefix of allowed
characters, it reads the same value when input it does not look at follows, and the
last character it consumes is not some given one. -/

namespace Reader

variable {α β : Type*}

abbrev Read (α : Type*) := List Char → Option (α × List Char)

/-- The value is read off a prefix whose characters all satisfy `p`. -/
def Consumes (p : Char → Prop) (read : Read α) : Prop :=
  ∀ input value rest, read input = some (value, rest) → ∃ used, input = used ++ rest ∧ ∀ c ∈ used, p c

/-- Input that starts with a character satisfying `stop`, or is empty, is left
alone and does not change what is read before it. -/
def Splits (stop : Char → Prop) (read : Read α) : Prop :=
  ∀ input rest, (∀ c, rest.head? = some c → stop c) →
    read (input ++ rest) = (read input).map fun found => (found.1, found.2 ++ rest)

/-- Something is consumed, and its last character is not `bad`. -/
def Closes (bad : Char) (read : Read α) : Prop :=
  ∀ input value rest, read input = some (value, rest) → ∃ used c, input = used ++ c :: rest ∧ c ≠ bad

variable {p : Char → Prop} {stop : Char → Prop} {read : Read α}

theorem Consumes.bind {next : α → Read β} (first : Consumes p read) (later : ∀ value, Consumes p (next value)) :
    Consumes p (fun input => (read input).bind fun found => next found.1 found.2) := by
  intro input value rest done
  obtain ⟨⟨middle, remaining⟩, taken, last⟩ := Option.bind_eq_some_iff.mp done
  obtain ⟨used, rfl, allowed⟩ := first input middle remaining taken
  obtain ⟨more, rfl, alsoAllowed⟩ := later middle remaining value rest last
  refine ⟨used ++ more, by simp, ?_⟩
  intro c member
  rcases List.mem_append.mp member with member | member
  · exact allowed c member
  · exact alsoAllowed c member

theorem Consumes.map (f : α → β) (consumes : Consumes p read) :
    Consumes p (fun input => (read input).map fun found => (f found.1, found.2)) := by
  intro input value rest done
  obtain ⟨⟨middle, remaining⟩, taken, same⟩ := Option.map_eq_some_iff.mp done
  cases same
  exact consumes input middle remaining taken

theorem Splits.bind {next : α → Read β} (first : Splits stop read) (later : ∀ value, Splits stop (next value)) :
    Splits stop (fun input => (read input).bind fun found => next found.1 found.2) := by
  intro input rest stops
  simp only [first input rest stops, Option.bind_map, Function.comp_def]
  cases taken : read input with
  | none => rfl
  | some found => exact later found.1 found.2 rest stops

theorem Splits.map (f : α → β) (splits : Splits stop read) :
    Splits stop (fun input => (read input).map fun found => (f found.1, found.2)) := by
  intro input rest stops
  simp only [splits input rest stops, Option.map_map, Function.comp_def]

theorem Splits.mono {narrower : Char → Prop} (splits : Splits stop read) (implies : ∀ c, narrower c → stop c) :
    Splits narrower read :=
  fun input rest stops => splits input rest fun c front => implies c (stops c front)

/-- What was consumed reads alone to the same value. -/
theorem Splits.alone (splits : Splits stop read) {used rest : List Char} {value : α}
    (stops : ∀ c, rest.head? = some c → stop c) (taken : read (used ++ rest) = some (value, rest)) :
    read used = some (value, []) := by
  rw [splits used rest stops] at taken
  obtain ⟨⟨found, left⟩, taken, same⟩ := Option.map_eq_some_iff.mp taken
  simp only [Prod.mk.injEq, List.append_left_eq_self] at same
  rw [taken, same.1, same.2]

theorem Closes.bind {bad : Char} {next : α → Read β} (first : Consumes p read) (later : ∀ value, Closes bad (next value)) :
    Closes bad (fun input => (read input).bind fun found => next found.1 found.2) := by
  intro input value rest done
  obtain ⟨⟨middle, remaining⟩, taken, last⟩ := Option.bind_eq_some_iff.mp done
  obtain ⟨front, rfl, -⟩ := first input middle remaining taken
  obtain ⟨used, c, rfl, other⟩ := later middle remaining value rest last
  exact ⟨front ++ used, c, by simp, other⟩

theorem Closes.map {bad : Char} (f : α → β) (closes : Closes bad read) :
    Closes bad (fun input => (read input).map fun found => (f found.1, found.2)) := by
  intro input value rest done
  obtain ⟨⟨middle, remaining⟩, taken, same⟩ := Option.map_eq_some_iff.mp done
  cases same
  exact closes input middle remaining taken

end Reader
