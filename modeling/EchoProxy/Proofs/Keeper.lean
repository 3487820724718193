import EchoProxy.Lib.Rank
import EchoProxy.Proofs.Reconnect
import EchoProxy.Proofs.Shutdown

/-! What `run_mux_keeper` keeps. It lets go of every connection but the last one it made,
and as long as the network answers, a few of its own steps put a connection into the slot
again, wherever it stands. -/

namespace EchoProxy.Proofs.Keeper
open EchoProxy Transition ClientSteps ProxySteps ProxyInvariant Reconnect Shutdown Places
variable {socks : Bool} {p p' : Resilient} {action : ResilientAction}

/-! ### Connections let go -/

/-- Every connection but the keeper's is released. -/
def Released (p : Resilient) : Prop :=
  ∀ (conn : Nat) (c : Client), p.conns[conn]? = some c → current p.keeper = some conn ∨ c.link = .released

/-- A step that is not the keeper's leaves the links alone. -/
private theorem Released.moved {j : Nat} {move : ClientAction} {conns : List Client} (released : Released p)
    (moved : ConnStep p j move conns) (other : isOwner move = false) : Released { p with conns } := by
  obtain ⟨there, stepped⟩ := moved
  intro conn c found
  rcases set_cases found with ⟨rfl, rfl⟩ | ⟨-, before⟩
  · rw [(client_link (client_effect stepped) other).1]
    exact released _ _ there
  · exact released conn c before

/-- A step of the keeper is on its own connection. -/
private theorem Released.own {j : Nat} {move : ClientAction} {conns : List Client} (released : Released p)
    (own : current p.keeper = some j) (moved : ConnStep p j move conns)
    (lets : current p'.keeper = some j ∨ ∀ c c', ClientEffect c move c' → c'.link = .released)
    (same : p'.conns = conns) :
    Released p' := by
  obtain ⟨there, stepped⟩ := moved
  intro conn c found
  rw [same] at found
  rcases set_cases found with ⟨rfl, rfl⟩ | ⟨other, before⟩
  · exact lets.imp_right fun lets => lets _ _ (client_effect stepped)
  · rcases released conn c before with now | gone
    · exact absurd (Option.some.inj (now.symm.trans own)) other
    · exact .inr gone

private theorem none_current (released : Released p) (none : current p.keeper = none) {conn : Nat} {c : Client}
    (found : p.conns[conn]? = some c) : c.link = .released :=
  (released conn c found).resolve_left fun now => by simp [none] at now

theorem Released.step (released : Released p) (held : Held p) (effect : ResilientEffect p action p') :
    Released p' := by
  cases effect with
  | accept | halted | departed | unavailable => exact released
  | tunnelled _ _ _ moved => exact released.moved moved rfl
  | handler _ moved => exact released.moved moved (task_isOwner _ _)
  | loop moved => exact released.moved moved (loop_isOwner _)
  | keeper effect =>
    cases effect with
    | obtained now | unobtained now | slept now | unconnected now | stopped now =>
      exact fun conn c found => .inr (none_current released (by simp [now, current]) found)
    | connected now =>
      intro conn c found
      rcases append_cases found with ⟨rfl, -⟩ | before
      · exact .inl rfl
      · exact .inr (none_current released (by simp [now, current]) before)
    | greeted now moved => exact released.own (by simp [now, current]) moved (.inl rfl) rfl
    | ungreeted now moved =>
      refine released.own (by simp [now, current]) moved (.inr fun c c' fails => ?_) rfl
      cases fails
      rfl
    | took now slot _ moved =>
      simp only [Held, now] at held
      cases held.1.symm.trans slot
      exact released.own (by simp [now, current]) moved (.inl rfl) rfl
    | empty now none =>
      simp only [Held, now] at held
      exact absurd (held.1.symm.trans none) (by simp)
    | clear now moved => exact released.own (by simp [now, current]) moved (.inl rfl) rfl
    | close now moved =>
      refine released.own (by simp [now, current]) moved (.inr fun c c' closes => ?_) rfl
      cases closes
      rfl

theorem released (run : (resilientSystem socks).Reachable p) : Released p := by
  refine run.invariant (p := Released) ?_ fun _ _ _ run valid _ taken =>
    valid.step (held run) (resilient_effect taken)
  rintro p rfl conn c found
  simp [Resilient.fresh] at found

/-! ### The way back -/

/-- The keeper's steps from the loss of a connection to the next one in the slot. -/
def toGo : Keeper → Nat
  | .clearing _ _ => 5
  | .closing _ _ => 4
  | .sleeping => 4
  | .obtaining => 3
  | .connecting _ => 2
  | .greeting _ => 1
  | .waiting _ | .stopped => 0

/-- The network answers and nobody stops the keeper. -/
def succeeds : ResilientAction → Bool
  | .keeper .unobtained | .keeper .unconnected | .keeper .ungreeted | .keeper .shutdown => false
  | _ => true

/-- The keeper's steps but the one that notices a loss. -/
def isAdvance : ResilientAction → Bool
  | .keeper .disconnected => false
  | .keeper _ => true
  | _ => false

def isLoss : ResilientAction → Bool
  | .keeper .disconnected => true
  | _ => false

/-- The keeper is about to return or has. -/
def Stopping : Keeper → Prop
  | .clearing _ last | .closing _ last => last = true
  | .stopped => True
  | _ => False

def answering (socks : Bool) : System Resilient ResilientAction :=
  (resilientSystem socks).when fun _ action => succeeds action

private theorem keeper_pays {move : KeeperAction} (effect : KeeperEffect p move p')
    (answers : succeeds (.keeper move) = true) :
    toGo p'.keeper + (if isAdvance (.keeper move) then 1 else 0) ≤
      toGo p.keeper + (if isLoss (.keeper move) then 5 else 0) := by
  cases effect with
  | obtained now | slept now | connected now | greeted now | clear now => simp [toGo, now, isAdvance, isLoss]
  | @close _ last _ now => cases last <;> simp [toGo, now, isAdvance, isLoss]
  | took now _ why =>
    rcases why with ⟨rfl, rfl, -⟩ | ⟨rfl, -⟩
    · simp [toGo, now, isAdvance, isLoss]
    · cases answers
  | @empty _ _ last now _ which =>
    rcases which with rfl | rfl
    · cases last <;> simp [toGo, now, isAdvance, isLoss]
    · cases answers
  | unobtained | unconnected | ungreeted | stopped => cases answers

theorem keeper_ranked (socks : Bool) : (answering socks).Ranked
    (fun action => succeeds action && isAdvance action) (fun p => toGo p.keeper)
    (fun action => if isLoss action then 5 else 0) where
  pays before action after taken := by
    obtain ⟨answers, taken⟩ := System.when_step.mp taken
    cases resilient_effect taken with
    | keeper effect =>
      rw [answers, Bool.true_and]
      exact keeper_pays effect answers
    | halted which =>
      rcases which with rfl | ⟨listener, rfl⟩ <;> simp [isAdvance]
    | accept | departed | unavailable | tunnelled | handler | loop => simp [isAdvance]
  own action kind := by
    cases action with
    | keeper move => cases move <;> first | rfl | cases kind
    | accept | acceptError | shutdown | depart | snapshot | handler | loop => cases kind

/-- Without a shutdown the keeper goes on. -/
private theorem unstopped_step (going : ¬ Stopping p.keeper) (effect : ResilientEffect p action p')
    (answers : succeeds action = true) (held : Held p) : ¬ Stopping p'.keeper := by
  cases effect with
  | accept | halted | departed | unavailable | tunnelled | handler | loop => exact going
  | keeper effect =>
    cases effect with
    | obtained | slept | connected | greeted | unobtained | unconnected | ungreeted => simp [Stopping]
    | clear now => simpa [Stopping, now] using going
    | close now =>
      simp only [Stopping, now, Bool.not_eq_true] at going
      simp [Stopping, going]
    | took _ _ why =>
      rcases why with ⟨-, rfl, -⟩ | ⟨rfl, -⟩
      · simp [Stopping]
      · cases answers
    | empty now none =>
      simp only [Held, now] at held
      exact absurd (held.1.symm.trans none) (by simp)
    | stopped => cases answers

/-- A connection is in the slot, and the keeper waits on it. -/
def Established (p : Resilient) : Prop :=
  ∃ conn c, p.keeper = .waiting conn ∧ p.shared = some conn ∧ p.conns[conn]? = some c ∧ c.link = .attached

private theorem onConn_enabled {q : Resilient} {conn : Nat} {move : ClientAction} {c : Client}
    (there : q.conns[conn]? = some c)
    (steps : (c.step move).isSome = true) : (q.onConn conn move).isSome = true := by
  simpa [Resilient.onConn, there] using steps

/-- Wherever the keeper stands without a connection in the slot, it can go on. -/
theorem goes_on (socks : Bool) (held : Held p) (going : ¬ Stopping p.keeper) :
    Established p ∨ (answering socks).Enabled (fun action => (succeeds action && isAdvance action) = true) p := by
  have enabled (move : KeeperAction) (kind : (succeeds (.keeper move) && isAdvance (.keeper move)) = true)
      (steps : (p.keeperStep move).isSome = true) :
      (answering socks).Enabled (fun action => (succeeds action && isAdvance action) = true) p := by
    refine ⟨.keeper move, kind, ?_⟩
    rw [Bool.and_eq_true] at kind
    simpa [answering, System.when, kind.1, resilientSystem, Resilient.step] using steps
  cases now : p.keeper with
  | obtaining => exact .inr (enabled (.obtained "") rfl (by simp [Resilient.keeperStep, now]))
  | sleeping => exact .inr (enabled .slept rfl (by simp [Resilient.keeperStep, now]))
  | connecting token => exact .inr (enabled .connected rfl (by simp [Resilient.keeperStep, now]))
  | greeting conn =>
    simp only [Held, now] at held
    obtain ⟨c, there, -, token, connecting⟩ := held
    refine .inr (enabled .greeted rfl ?_)
    simp only [Resilient.keeperStep, now]
    exact onConn_enabled there (by simp [Client.step, connecting])
  | waiting conn =>
    simp only [Held, now] at held
    obtain ⟨slot, c, there, -, attached⟩ := held
    exact .inl ⟨conn, c, now, slot, there, attached⟩
  | clearing conn last =>
    simp only [Held, now] at held
    obtain ⟨c, there, -, clearing⟩ := held
    refine .inr (enabled .clear rfl ?_)
    simp only [Resilient.keeperStep, now]
    exact onConn_enabled there (by simp [Client.step, clearing])
  | closing conn last =>
    simp only [Held, now] at held
    obtain ⟨c, there, -, closing⟩ := held
    refine .inr (enabled .close rfl ?_)
    simp only [Resilient.keeperStep, now]
    exact onConn_enabled there (by simp [Client.step, closing])
  | stopped => simp [Stopping, now] at going

/-- A connection whose reader or writer has ended can be taken out of the slot. -/
theorem loss_noticed (held : Held p) {conn : Nat} (now : p.keeper = .waiting conn)
    (lost : p.isDisconnected conn = true) :
    ∃ q, p.step (.keeper .disconnected) = some q ∧ q.shared = none := by
  simp only [Held, now] at held
  obtain ⟨slot, c, there, -, attached⟩ := held
  have steps : (c.step .release).isSome = true := by simp [Client.step, attached]
  obtain ⟨c', stepped⟩ := Option.isSome_iff_exists.mp steps
  refine ⟨{ p with shared := none, keeper := .clearing conn false, conns := p.conns.set conn c' }, ?_, rfl⟩
  simp [Resilient.step, Resilient.keeperStep, now, lost, Resilient.takeShared, slot, Resilient.onConn,
    there, stepped]

private theorem exec_going {actions : List ResilientAction} {q : Resilient}
    (run : (resilientSystem socks).Reachable p)
    (going : ¬ Stopping p.keeper) (ran : (answering socks).exec p actions = some q) :
    (resilientSystem socks).Reachable q ∧ ¬ Stopping q.keeper := by
  refine System.exec_preserves (p := fun p => (resilientSystem socks).Reachable p ∧
    ¬ Stopping p.keeper) ?_ ran ⟨run, going⟩
  intro before action after ⟨run, going⟩ taken
  obtain ⟨answers, taken⟩ := System.when_step.mp taken
  exact ⟨run.step trivial taken, unstopped_step going (resilient_effect taken) answers (held run)⟩

/-- The keeper is on its way to a connection, or has one, and loses no step. -/
structure Recovers (socks : Bool) (p : Resilient) : Prop where
  back : ∃ actions q, (∀ action ∈ actions, (succeeds action && isAdvance action) = true) ∧
    actions.length ≤ toGo p.keeper ∧
    (answering socks).exec p actions = some q ∧ Established q
  steps : ∀ actions q, (answering socks).exec p actions = some q →
    actions.countP (fun action => succeeds action && isAdvance action) + toGo q.keeper ≤
      toGo p.keeper + 5 * actions.countP isLoss ∧
      (Established q ∨ (answering socks).Enabled (fun action => (succeeds action && isAdvance action) = true) q)

private theorem losses_sum (actions : List ResilientAction) :
    (actions.map fun action => if isLoss action then 5 else 0).sum = 5 * actions.countP isLoss := by
  induction actions with
  | nil => rfl
  | cons action rest ih =>
    rw [List.map_cons, List.sum_cons, ih, List.countP_cons]
    split <;> omega

/-- In every run: the connections that are not the keeper's are released; one whose reader
or writer has ended is noticed; and unless the keeper is being stopped, at most five of its
steps that succeed put a connection into the slot, and each further loss costs at most five
more, whatever the rest of the program does in between. -/
theorem keeper_recovers (socks : Bool) (p : Resilient) (run : (resilientSystem socks).Reachable p) :
    Released p ∧
      (∀ conn, p.keeper = .waiting conn → p.isDisconnected conn = true →
        ∃ q, p.step (.keeper .disconnected) = some q ∧ q.shared = none) ∧
      (¬ Stopping p.keeper → Recovers socks p) := by
  refine ⟨released run, fun conn => loss_noticed (held run), fun going => ⟨?_, ?_⟩⟩
  · obtain ⟨actions, q, kinds, ran, rest⟩ := (keeper_ranked socks).settles p
    have paid := (keeper_ranked socks).exec_length kinds ran
    obtain ⟨reached, still⟩ := exec_going run going ran
    refine ⟨actions, q, kinds, by omega, ran, ?_⟩
    rcases goes_on socks (held reached) still with established | enabled
    · exact established
    · exact absurd enabled (System.quiescent_iff_not_enabled.mp rest)
  · intro actions q ran
    have paid := (keeper_ranked socks).exec_count ran
    rw [losses_sum] at paid
    obtain ⟨reached, still⟩ := exec_going run going ran
    exact ⟨paid, goes_on socks (held reached) still⟩

/-- A session is up and its reader ends. -/
private def lostOnce : List ResilientAction :=
  [.keeper (.obtained "a"), .keeper .connected, .keeper .greeted, .loop 0 (.incoming .other),
    .loop 0 .readerCloseAll,
    .loop 0 .readerClear, .keeper .disconnected, .keeper .clear, .keeper .close]

theorem lost_once_recovers : ∃ p, (resilientSystem true).Reachable p ∧ p.shared = none ∧
    p.conns.map (·.link) = [.released] ∧
    Released p ∧ Recovers true p := by
  have executed : ((resilientSystem true).exec (Resilient.fresh true) lostOnce).any (fun p =>
      decide (p.shared = none ∧ p.conns.map (·.link) = [.released] ∧ p.keeper = .obtaining)) = true :=
        by decide +kernel
  obtain ⟨p, run, view⟩ := Transition.System.reached executed rfl
  obtain ⟨slot, links, now⟩ := of_decide_eq_true view
  obtain ⟨released, -, recovers⟩ := keeper_recovers true p run
  exact ⟨p, run, slot, links, released, recovers (by simp [Stopping, now])⟩

end EchoProxy.Proofs.Keeper
