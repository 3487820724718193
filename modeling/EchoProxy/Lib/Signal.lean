import Mathlib.Data.Nat.Basic

/-! A bounded channel of units with any number of cloned receivers: a unit that was sent
is received once, by whichever receiver comes first, and closing wakes all of them. -/

/-- `sent` and `received` are history. -/
structure Signal (capacity : Nat) where
  queued : Nat
  closed : Bool
  sent : Nat
  received : Nat
  fits : queued ≤ capacity
  balanced : sent = queued + received

namespace Signal
variable {capacity : Nat} {s s' : Signal capacity}

def empty : Signal capacity := ⟨0, false, 0, 0, Nat.zero_le _, rfl⟩

/-- A send waits while the channel is full and fails once it is closed. -/
def send (s : Signal capacity) : Option (Signal capacity) :=
  if room : s.closed = false ∧ s.queued < capacity then
    some ⟨s.queued + 1, s.closed, s.sent + 1, s.received, room.2, by rw [s.balanced, Nat.add_right_comm]⟩
  else none

def close (s : Signal capacity) : Signal capacity := { s with closed := true }

/-- What is queued is received first, also after the close. -/
def recv : Signal capacity → Option (Signal capacity)
  | ⟨0, closed, sent, received, fits, balanced⟩ => if closed then some ⟨0, closed, sent, received, fits, balanced⟩ else none
  | ⟨queued + 1, closed, sent, received, fits, balanced⟩ =>
    some ⟨queued, closed, sent, received + 1, Nat.le_of_succ_le fits, by rw [balanced, Nat.succ_add_eq_add_succ]⟩

@[simp] theorem received_close : s.close.received = s.received := rfl
@[simp] theorem closed_close : s.close.closed = true := rfl

theorem send_received (sent : s.send = some s') : s'.received = s.received ∧ s'.closed = s.closed := by
  unfold send at sent
  split at sent
  · cases sent
    exact ⟨rfl, rfl⟩
  · cases sent

/-- A receive from a channel that is not closed takes a unit. -/
theorem recv_takes (taken : s.recv = some s') (opened : s.closed = false) :
    s'.closed = false ∧ s'.received = s.received + 1 ∧ s'.queued + 1 = s.queued := by
  obtain ⟨queued, closed, sent, received, fits, balanced⟩ := s
  cases queued with
  | zero =>
    simp only at opened
    simp [recv, opened] at taken
  | succ queued =>
    cases taken
    exact ⟨opened, rfl, rfl⟩

theorem recv_closed (taken : s.recv = some s') : s'.closed = s.closed := by
  obtain ⟨queued, closed, sent, received, fits, balanced⟩ := s
  cases queued with
  | zero =>
    cases closed with
    | true =>
      cases taken
      rfl
    | false => cases taken
  | succ queued =>
    cases taken
    rfl

/-- Receivers wait exactly as long as nothing is queued and the channel is open. -/
theorem recv_none : s.recv = none ↔ s.queued = 0 ∧ s.closed = false := by
  obtain ⟨queued, closed, sent, received, fits, balanced⟩ := s
  cases queued with
  | zero => simp [recv]
  | succ queued => simp [recv]

end Signal
