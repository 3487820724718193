import EchoProxy.Proofs.ProxyInvariant

/-! What is still running once `run_proxy_resilient` has returned. The HTTP loop and two
of the keeper's waits see the stop signal; the SOCKS5 loop and the keeper's network
operations do not. -/

namespace EchoProxy.Proofs.Shutdown
open EchoProxy ClientSteps ProxySteps ProxyInvariant Places

variable {socks : Bool} {p p' : Resilient} {action : ResilientAction}

/-! ### The keeper's connection -/

/-- The connection has the given link to the keeper. -/
def Linked (p : Resilient) (conn : Nat) (link : Link → Prop) : Prop :=
  ∃ c, p.conns[conn]? = some c ∧ c.resilient = true ∧ link c.link

/-- What the keeper relies on where it stands. -/
def Held (p : Resilient) : Prop :=
  match p.keeper with
  | .greeting conn => Linked p conn fun link => ∃ token, link = .connecting token
  | .waiting conn => p.shared = some conn ∧ Linked p conn (· = .attached)
  | .clearing conn _ => Linked p conn (· = .clearing)
  | .closing conn _ => Linked p conn (· = .closing)
  | _ => True

/-- The steps of a connection that the keeper takes. -/
def isOwner : ClientAction → Bool
  | .connect | .connectFail | .release | .releaseClear | .releaseCloseAll => true
  | _ => false

theorem client_link {c c' : Client} {move : ClientAction} (effect : ClientEffect c move c') (other : isOwner move = false) :
    c'.link = c.link ∧ c'.resilient = c.resilient := by
  cases effect with
  | connect | connectFail | release | releaseClear | releaseCloseAll => cases other
  | _ => exact ⟨rfl, rfl⟩

theorem client_resilient {c c' : Client} {move : ClientAction} (effect : ClientEffect c move c') :
    c'.resilient = c.resilient := by
  cases effect <;> rfl

/-- A step that is not the keeper's leaves the link alone. -/
theorem Linked.moved {conn j : Nat} {move : ClientAction} {link : Link → Prop} (linked : Linked p conn link)
    (moved : ConnStep p j move p'.conns) (other : isOwner move = false) : Linked p' conn link := by
  unfold Linked
  generalize p'.conns = conns at moved
  obtain ⟨there, stepped⟩ := moved
  obtain ⟨sameLink, same⟩ := client_link (client_effect stepped) other
  apply exists_set there _ linked
  intro ⟨resilient, holds⟩
  exact ⟨same.trans resilient, sameLink.symm ▸ holds⟩

/-- A step of the keeper changes the link of its connection. -/
theorem Linked.changed {conn : Nat} {move : ClientAction} {before after : Link → Prop} (linked : Linked p conn before)
    (moved : ConnStep p conn move p'.conns)
    (changes : ∀ c c', ClientEffect c move c' → c.resilient = true → before c.link → after c'.link) : Linked p' conn after := by
  unfold Linked
  obtain ⟨c, found, resilient, holds⟩ := linked
  generalize p'.conns = conns at moved
  obtain ⟨there, stepped⟩ := moved
  cases found.symm.trans there
  have effect := client_effect stepped
  exact ⟨_, set_found there _, (client_resilient effect).trans resilient, changes _ _ effect resilient holds⟩

theorem task_isOwner (k : Nat) (task : TaskAction) : isOwner (task.on k) = false := by cases task <;> rfl

theorem loop_isOwner (loop : LoopAction) : isOwner loop.on = false := by cases loop <;> rfl

private theorem Held.frame (held : Held p) (keeper : p'.keeper = p.keeper) (shared : p'.shared = p.shared)
    (links : ∀ conn link, Linked p conn link → Linked p' conn link) : Held p' := by
  unfold Held at held ⊢
  rw [keeper]
  split at held
  · exact links _ _ held
  · exact ⟨shared.trans held.1, links _ _ held.2⟩
  · exact links _ _ held
  · exact links _ _ held
  · trivial

theorem Held.step (held : Held p) (effect : ResilientEffect p action p') : Held p' := by
  cases effect with
  | accept | halted | departed | unavailable => exact held.frame rfl rfl fun _ _ linked => linked
  | tunnelled _ _ _ moved => exact held.frame rfl rfl fun _ _ linked => linked.moved moved rfl
  | handler _ moved => exact held.frame rfl rfl fun _ _ linked => linked.moved moved (task_isOwner _ _)
  | loop moved => exact held.frame rfl rfl fun _ _ linked => linked.moved moved (loop_isOwner _)
  | keeper effect =>
    cases effect with
    | obtained | unobtained | slept | unconnected | ungreeted | stopped => trivial
    | @connected token => exact ⟨Client.fresh token true, List.getElem?_concat_length, rfl, token, rfl⟩
    | greeted now moved =>
      simp only [Held, now] at held
      refine ⟨rfl, held.changed moved ?_⟩
      intro c c' connects _ _
      cases connects
      rfl
    | took now slot _ moved =>
      simp only [Held, now] at held ⊢
      cases held.1.symm.trans slot
      refine held.2.changed moved ?_
      intro c c' releases resilient _
      cases releases
      simp [resilient]
    | @empty _ _ last => cases last <;> trivial
    | clear now moved =>
      simp only [Held, now] at held ⊢
      refine held.changed moved ?_
      intro c c' clears _ _
      cases clears
      rfl
    | @close _ last => cases last <;> trivial

theorem held (run : (resilientSystem socks).Reachable p) : Held p := by
  apply run.invariant
  · intro start fresh
    subst fresh
    trivial
  · intro before action after _ valid _ taken
    exact valid.step (resilient_effect taken)

/-! ### After the return -/

/-- The steps of the keeper that wait for nothing but itself, the reader and writer
tasks, the clock and the stop signal. -/
def isOwnStep : KeeperAction → Bool
  | .slept | .disconnected | .clear | .close | .shutdown => true
  | _ => false

def KeeperQuiet (p : Resilient) : Prop := ∀ move, isOwnStep move = true → p.keeperStep move = none

/-- The keeper waits for the network: for a token, for the WebSocket, or for HELLO to
be sent. -/
def OnNetwork : Keeper → Prop
  | .obtaining | .connecting _ | .greeting _ => True
  | _ => False

/-- No listener accepts anything any more, and a keeper at rest has ended and left no
connection behind. -/
structure Complete (p : Resilient) : Prop where
  accepts : ∀ actions q, (resilientSystem p.socks).exec p actions = some q → ∀ listener, q.step (.accept listener) = none
  ended : KeeperQuiet p → p.keeper = .stopped ∧ p.shared = none

private theorem Linked.takes {conn : Nat} {link : Link → Prop} {move : ClientAction} (linked : Linked p conn link) (q : Resilient)
    (same : q.conns = p.conns) (enabled : ∀ c : Client, link c.link → (c.step move).isSome = true) : (q.onConn conn move).isSome = true := by
  obtain ⟨c, found, _, holds⟩ := linked
  simp [Resilient.onConn, same, found, enabled c holds]

theorem network_quiet (network : OnNetwork p.keeper) : KeeperQuiet p := by
  intro move own
  cases now : p.keeper with
  | obtaining | connecting | greeting =>
    cases move with
    | slept | disconnected | clear | close | shutdown => simp [Resilient.keeperStep, now]
    | _ => cases own
  | _ =>
    rw [now] at network
    exact network.elim

/-- After the return a keeper that waits for something else can go on. -/
theorem quiet_keeper (held : Held p) (returned : p.running = false) (quiet : KeeperQuiet p) :
    p.keeper = .stopped ∨ OnNetwork p.keeper := by
  have none_some (move : KeeperAction) (own : isOwnStep move = true) (enabled : (p.keeperStep move).isSome = true) : False := by
    rw [quiet move own] at enabled
    cases enabled
  unfold Held at held
  cases now : p.keeper with
  | obtaining | connecting | greeting => exact .inr trivial
  | stopped => exact .inl rfl
  | sleeping => exact (none_some .shutdown rfl (by simp [Resilient.keeperStep, returned, now])).elim
  | waiting conn =>
    simp only [now] at held
    refine (none_some .shutdown rfl ?_).elim
    simp only [Resilient.keeperStep, returned, now, Resilient.takeShared, held.1]
    exact held.2.takes _ rfl fun c attached => by simp [Client.step, attached]
  | clearing conn last =>
    simp only [now] at held
    refine (none_some .clear rfl ?_).elim
    simp only [Resilient.keeperStep, now]
    exact held.takes _ rfl fun c clearing => by simp [Client.step, clearing]
  | closing conn last =>
    simp only [now] at held
    refine (none_some .close rfl ?_).elim
    simp only [Resilient.keeperStep, now]
    exact held.takes _ rfl fun c closing => by simp [Client.step, closing]

private theorem returned_stays (returned : p.running = false) (closed : p.socks = false) (taken : p.step action = some p') :
    p'.running = false ∧ p'.socks = false := by
  have effect := resilient_effect taken
  cases effect with
  | halted which =>
    obtain rfl | ⟨listener, rfl⟩ := which
    · simp [Resilient.step, returned] at taken
    · cases listener with
      | http => simp [Resilient.step, returned] at taken
      | socks5 => simp [Resilient.step, closed] at taken
  | keeper effect => cases effect <;> exact ⟨returned, closed⟩
  | _ => exact ⟨returned, closed⟩

/-- The shutdown is complete exactly if no SOCKS5 listener is left and the keeper is not
in a network operation. -/
theorem shutdown_complete_iff (socks : Bool) (p : Resilient) (run : (resilientSystem socks).Reachable p)
    (returned : p.running = false) : Complete p ↔ p.socks = false ∧ ¬OnNetwork p.keeper := by
  constructor
  · intro complete
    constructor
    · have refused := complete.accepts [] p rfl .socks5
      simpa [Resilient.step] using refused
    · intro network
      have stopped := (complete.ended (network_quiet network)).1
      rw [stopped] at network
      exact network
  · intro ⟨closed, elsewhere⟩
    constructor
    · intro actions q ran listener
      have kept := Transition.System.exec_preserves (p := fun p => p.running = false ∧ p.socks = false)
        (fun _ _ _ holds taken => returned_stays holds.1 holds.2 taken) ran ⟨returned, closed⟩
      cases listener with
      | http => simp [Resilient.step, kept.1]
      | socks5 => simp [Resilient.step, kept.2]
    · intro quiet
      obtain stopped | network := quiet_keeper (held run) returned quiet
      · refine ⟨stopped, ?_⟩
        cases slot : p.shared with
        | none => rfl
        | some conn => cases stopped.symm.trans (slot_waits run conn slot)
      · exact absurd network elsewhere

/-- The client is stopped while a session is up. -/
private def stoppedUp : List ResilientAction :=
  [.keeper (.obtained "a"), .keeper .connected, .keeper .greeted, .shutdown, .keeper .shutdown, .keeper .clear, .keeper .close]

theorem stopped_without_socks : ∃ p, p.running = false ∧ (Complete p ↔ p.socks = false ∧ ¬OnNetwork p.keeper) := by
  have executed : ((resilientSystem false).exec (Resilient.fresh false) stoppedUp).any
      (fun p => decide (p.running = false)) = true := by decide +kernel
  obtain ⟨p, run, view⟩ := Transition.System.reached executed rfl
  have returned := of_decide_eq_true view
  exact ⟨p, returned, shutdown_complete_iff false p run returned⟩

/-- The SOCKS5 loop accepts after the return. -/
theorem socks_outlives_shutdown : ¬∀ (socks : Bool) (p : Resilient), (resilientSystem socks).Reachable p → p.running = false →
    Complete p := by
  intro complete
  have executed : ((resilientSystem true).exec (Resilient.fresh true) [.shutdown]).any
      (fun p => decide (p.running = false ∧ p.socks = true)) = true := by decide +kernel
  obtain ⟨p, run, view⟩ := Transition.System.reached executed rfl
  obtain ⟨returned, listening⟩ := of_decide_eq_true view
  have refused := (complete true p run returned).accepts [] p rfl .socks5
  simp [Resilient.step, listening] at refused

end EchoProxy.Proofs.Shutdown
