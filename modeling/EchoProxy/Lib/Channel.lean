import Mathlib.Data.List.Basic

/-! A bounded channel with many senders and one receiver. A send waits for room
and fails once the receiver is gone; what was queued before is still received.
`taken` is history: everything the receiver has obtained, in order. -/

structure Channel (α : Type*) (capacity : Nat) where
  queue : List α
  taken : List α
  receiver : Bool
  fits : queue.length ≤ capacity

namespace Channel
variable {α : Type*} {capacity : Nat}

def empty : Channel α capacity := ⟨[], [], true, Nat.zero_le _⟩

/-- What a pending send comes to now: it waits, it fails, or it is accepted. -/
inductive Send (α : Type*) (capacity : Nat) where
  | full
  | closed
  | accepted (channel : Channel α capacity)

def send (channel : Channel α capacity) (value : α) : Send α capacity :=
  if channel.receiver then
    if room : channel.queue.length < capacity then
      .accepted ⟨channel.queue ++ [value], channel.taken, channel.receiver, by simpa using Nat.succ_le_of_lt room⟩
    else .full
  else .closed

def recv : Channel α capacity → Option (α × Channel α capacity)
  | ⟨[], _, _, _⟩ => none
  | ⟨value :: rest, taken, receiver, fits⟩ =>
    some (value, ⟨rest, taken ++ [value], receiver, Nat.le_of_succ_le fits⟩)

def dropReceiver (channel : Channel α capacity) : Channel α capacity := { channel with receiver := false }

/-- Everything the channel ever accepted, in order. -/
def history (channel : Channel α capacity) : List α := channel.taken ++ channel.queue

@[simp] theorem history_empty : (empty : Channel α capacity).history = [] := rfl
@[simp] theorem queue_empty : (empty : Channel α capacity).queue = [] := rfl
@[simp] theorem taken_empty : (empty : Channel α capacity).taken = [] := rfl
@[simp] theorem receiver_empty : (empty : Channel α capacity).receiver = true := rfl
@[simp] theorem history_dropReceiver (channel : Channel α capacity) : channel.dropReceiver.history = channel.history := rfl
@[simp] theorem queue_dropReceiver (channel : Channel α capacity) : channel.dropReceiver.queue = channel.queue := rfl
@[simp] theorem taken_dropReceiver (channel : Channel α capacity) : channel.dropReceiver.taken = channel.taken := rfl
@[simp] theorem receiver_dropReceiver (channel : Channel α capacity) : channel.dropReceiver.receiver = false := rfl

/-- Everything an accepted send does. -/
structure Accepts (before : Channel α capacity) (value : α) (after : Channel α capacity) : Prop where
  receiver : before.receiver = true
  room : before.queue.length < capacity
  queue : after.queue = before.queue ++ [value]
  taken : after.taken = before.taken
  same : after.receiver = before.receiver

theorem Accepts.history {before after : Channel α capacity} {value : α} (accepts : Accepts before value after) :
    after.history = before.history ++ [value] := by
  simp [Channel.history, accepts.queue, accepts.taken]

theorem send_accepted {before after : Channel α capacity} {value : α} (sent : before.send value = .accepted after) :
    Accepts before value after := by
  unfold send at sent
  split at sent
  · split at sent
    · cases sent
      exact ⟨‹_›, ‹_›, rfl, rfl, rfl⟩
    · cases sent
  · cases sent

theorem send_closed {before : Channel α capacity} {value : α} (sent : before.send value = .closed) :
    before.receiver = false := by
  unfold send at sent
  split at sent
  · split at sent <;> cases sent
  · next gone => simpa using gone

theorem send_full {before : Channel α capacity} {value : α} :
    before.send value = .full ↔ before.receiver = true ∧ before.queue.length = capacity := by
  have fits := before.fits
  unfold send
  split
  · next alive =>
    split
    · simp only [reduceCtorEq, false_iff, not_and]
      omega
    · simp only [true_iff]
      exact ⟨alive, by omega⟩
  · next gone => simp [gone]

/-- Everything a receive does. -/
structure Takes (before : Channel α capacity) (value : α) (after : Channel α capacity) : Prop where
  queue : before.queue = value :: after.queue
  taken : after.taken = before.taken ++ [value]
  same : after.receiver = before.receiver

theorem Takes.history {before after : Channel α capacity} {value : α} (takes : Takes before value after) :
    after.history = before.history := by
  simp [Channel.history, takes.queue, takes.taken]

theorem recv_some {before after : Channel α capacity} {value : α} (received : before.recv = some (value, after)) :
    Takes before value after := by
  obtain ⟨queue, taken, receiver, fits⟩ := before
  cases queue with
  | nil => cases received
  | cons head rest => cases received; exact ⟨rfl, rfl, rfl⟩

theorem recv_none {channel : Channel α capacity} : channel.recv = none ↔ channel.queue = [] := by
  obtain ⟨queue, taken, receiver, fits⟩ := channel
  cases queue with
  | nil => exact ⟨fun _ => rfl, fun _ => rfl⟩
  | cons head rest => exact ⟨nofun, nofun⟩

theorem taken_isPrefix (channel : Channel α capacity) : channel.taken <+: channel.history := List.prefix_append _ _

end Channel
