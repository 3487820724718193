import EchoProxy.Proofs.ProxySteps

/-! How long the keeper sleeps after a failure: by the failures since it last obtained a
token or established a session, doubling up to the limit. -/

namespace EchoProxy.Proofs.Backoff
open EchoProxy ProxySteps

/-- The sleep after the `n`-th failure in a row, in milliseconds. -/
def delay (n : Nat) : Nat := min (reconnectInitialMs * 2 ^ (n - 1)) reconnectMaxMs

/-- The count of failures after an action. -/
def counted (n : Nat) : ResilientAction → Nat
  | .keeper .unobtained | .keeper .unconnected => n + 1
  | .keeper (.obtained _) | .keeper .greeted => 0
  | _ => n

def failures (actions : List ResilientAction) : Nat := actions.foldl counted 0

theorem delay_first : delay 1 = reconnectInitialMs := by decide

theorem delay_doubles {n : Nat} (positive : 0 < n) : min (delay n * 2) reconnectMaxMs = delay (n + 1) := by
  obtain ⟨m, rfl⟩ := Nat.exists_eq_add_one.mpr positive
  unfold delay
  have power : reconnectInitialMs * 2 ^ (m + 1 + 1 - 1) = reconnectInitialMs * 2 ^ (m + 1 - 1) * 2 := by
    rw [Nat.add_sub_cancel, Nat.add_sub_cancel, Nat.pow_succ, Nat.mul_assoc]
  rw [power]
  omega

/-- While the keeper sleeps the backoff is the sleep; otherwise it is what the next
failure will sleep. -/
def Paced (n : Nat) (p : Resilient) : Prop :=
  match p.keeper with
  | .sleeping => 0 < n ∧ p.backoff = delay n
  | .stopped => True
  | _ => p.backoff = delay (n + 1)

variable {socks : Bool} {p p' : Resilient} {action : ResilientAction} {n : Nat}

private theorem paced_awake (awake : p.keeper ≠ .sleeping) (same : p.backoff = delay (n + 1)) : Paced n p := by
  unfold Paced
  split
  · next asleep => exact absurd asleep awake
  · trivial
  · exact same

private theorem counted_ends {move : KeeperAction} (which : move = .disconnected ∨ move = .shutdown) :
    counted n (.keeper move) = n := by
  obtain rfl | rfl := which <;> rfl

theorem Paced.step (paced : Paced n p) (effect : ResilientEffect p action p') : Paced (counted n action) p' := by
  cases effect with
  | keeper effect =>
    cases effect with
    | obtained | greeted => exact paced_awake (by simp) rfl
    | unobtained now | unconnected now =>
      simp only [Paced, now] at paced
      exact ⟨Nat.succ_pos n, paced⟩
    | slept now =>
      simp only [Paced, now] at paced
      apply paced_awake (by simp)
      change min (p.backoff * 2) reconnectMaxMs = delay (n + 1)
      rw [← delay_doubles paced.1, ← paced.2]
    | took now _ why =>
      simp only [Paced, now] at paced
      rw [counted_ends (why.imp And.left And.left)]
      exact paced_awake (by simp) paced
    | connected now | ungreeted now | clear now =>
      simp only [Paced, now] at paced
      exact paced_awake (by simp) paced
    | @empty _ _ last now _ which =>
      simp only [Paced, now] at paced
      rw [counted_ends which]
      cases last with
      | true => trivial
      | false => exact paced
    | @close _ last _ now =>
      simp only [Paced, now] at paced
      cases last with
      | true => trivial
      | false => exact paced
    | stopped => trivial
  | halted which => obtain rfl | ⟨listener, rfl⟩ := which <;> exact paced
  | _ => exact paced

theorem exec_paced {actions : List ResilientAction} (paced : Paced n p) (ran : (resilientSystem socks).exec p actions = some p') :
    Paced (actions.foldl counted n) p' := by
  induction actions generalizing p n with
  | nil =>
    cases ran
    exact paced
  | cons action rest ih =>
    obtain ⟨middle, taken, remaining⟩ := Option.bind_eq_some_iff.mp ran
    exact ih (paced.step (resilient_effect taken)) remaining

/-- Only the end of the sleep or a shutdown wakes the keeper. -/
theorem asleep_stays (asleep : p.keeper = .sleeping) (effect : ResilientEffect p action p') :
    (p'.keeper = .sleeping ∧ p'.backoff = p.backoff) ∨ action = .keeper .slept ∨ action = .keeper .shutdown := by
  cases effect with
  | keeper effect =>
    cases effect with
    | slept => exact .inr (.inl rfl)
    | stopped => exact .inr (.inr rfl)
    | obtained now | unobtained now | connected now | unconnected now | greeted now | ungreeted now | took now | empty now
    | clear now | close now => cases asleep.symm.trans now
  | _ => exact .inl ⟨asleep, rfl⟩

theorem failure_sleeps {move : KeeperAction} (failure : move = .unobtained ∨ move = .unconnected)
    (effect : ResilientEffect p (.keeper move) p') : p'.keeper = .sleeping := by
  cases effect with
  | halted which => simp at which
  | keeper effect =>
    cases effect with
    | unobtained | unconnected => rfl
    | took _ _ why => obtain ⟨rfl, _⟩ | ⟨rfl, _⟩ := why <;> simp at failure
    | empty _ _ which => obtain rfl | rfl := which <;> simp at failure
    | _ => simp at failure

/-- The `n`-th failure of the control handshake or of the mux connect since the last
token, the last session or the start is followed by a sleep of `delay n`. -/
theorem reconnect_delays (socks : Bool) (actions : List ResilientAction) (p : Resilient)
    (ran : (resilientSystem socks).exec (Resilient.fresh socks) actions = some p) :
    (∀ move p', move = .unobtained ∨ move = .unconnected → p.step (.keeper move) = some p' →
        p'.keeper = .sleeping ∧ p'.backoff = delay (failures actions + 1)) ∧
      (p.keeper = .sleeping → 0 < failures actions ∧ p.backoff = delay (failures actions) ∧
        ∀ action p', p.step action = some p' → (p'.keeper = .sleeping ∧ p'.backoff = p.backoff) ∨
          action = .keeper .slept ∨ action = .keeper .shutdown) := by
  have start : Paced 0 (Resilient.fresh socks) := delay_first.symm
  have paced : Paced (failures actions) p := exec_paced start ran
  constructor
  · intro move p' failure taken
    have effect := resilient_effect taken
    have asleep := failure_sleeps failure effect
    have after := paced.step effect
    simp only [Paced, asleep] at after
    obtain rfl | rfl := failure <;> exact ⟨asleep, after.2⟩
  · intro asleep
    simp only [Paced, asleep] at paced
    exact ⟨paced.1, paced.2, fun action p' taken => asleep_stays asleep (resilient_effect taken)⟩

private def twoUnreached : List ResilientAction :=
  [.keeper (.obtained "a"), .keeper .unconnected, .keeper .slept, .keeper (.obtained "b"), .keeper .unconnected]

/-- A second failure of the mux connect sleeps no longer than the first. -/
theorem two_unreached_delays : ∃ p, (resilientSystem true).exec (Resilient.fresh true) twoUnreached = some p ∧
    p.keeper = .sleeping ∧ 0 < failures twoUnreached ∧ p.backoff = delay (failures twoUnreached) := by
  obtain ⟨p, ran⟩ : ∃ p, (resilientSystem true).exec (Resilient.fresh true) twoUnreached = some p := ⟨_, rfl⟩
  have asleep : p.keeper = .sleeping := by
    cases ran
    rfl
  obtain ⟨positive, slept, _⟩ := (reconnect_delays true twoUnreached p ran).2 asleep
  exact ⟨p, ran, asleep, positive, slept⟩

/-- Every failed attempt since the last session, also a HELLO that could not be sent. -/
def failedAttempts (actions : List ResilientAction) : Nat :=
  actions.foldl (fun n action =>
    match action with
    | .keeper .unobtained | .keeper .unconnected | .keeper .ungreeted => n + 1
    | .keeper .greeted => 0
    | _ => n) 0

theorem token_resets_delay : ¬∀ (socks : Bool) (actions : List ResilientAction) (p : Resilient),
    (resilientSystem socks).exec (Resilient.fresh socks) actions = some p → p.keeper = .sleeping →
      p.backoff = delay (failedAttempts actions) := by
  intro doubles
  have second := doubles true twoUnreached _ rfl rfl
  revert second
  decide +kernel

end EchoProxy.Proofs.Backoff
