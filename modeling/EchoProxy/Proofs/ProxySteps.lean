import EchoProxy.Proofs.ClientSteps
import EchoProxy.Proxy

/-! What the steps of the client programs do. -/

namespace EchoProxy.Proofs.ProxySteps
open EchoProxy

inductive PlainEffect (p : Plain) : PlainAction → Plain → Prop where
  | elsewhere (attached : p.client.link = .attached) :
    PlainEffect p (.accept none) { p with listeners := p.listeners.accept .http .elsewhere }
  | tunnelled {tunnel client} (stepped : p.client.step (.accept p.listeners.nextId tunnel) = some client) :
    PlainEffect p (.accept (some tunnel)) { client, listeners := p.listeners.accept .http (.tunnelled 0 p.client.streams.length) }
  | client {action client} (other : action.isAccept = false) (stepped : p.client.step action = some client) :
    PlainEffect p (.client action) { p with client }

theorem plain_effect {p p' : Plain} {action : PlainAction} (taken : p.step action = some p') : PlainEffect p action p' := by
  unfold Plain.step at taken
  split at taken
  · split at taken
    · next attached => cases taken; exact .elsewhere attached
    · cases taken
  · split at taken
    · obtain ⟨client, stepped, rfl⟩ := Option.map_eq_some_iff.mp taken
      exact .tunnelled stepped
    · cases taken
  · split at taken
    · cases taken
    · next other =>
      obtain ⟨client, stepped, rfl⟩ := Option.map_eq_some_iff.mp taken
      exact .client (by simpa using other) stepped

/-- A step of connection `conn`. -/
inductive ConnStep (p : Resilient) (conn : Nat) (action : ClientAction) : List Client → Prop where
  | moved {c c'} (there : p.conns[conn]? = some c) (stepped : c.step action = some c') :
    ConnStep p conn action (p.conns.set conn c')

/-- What the keeper does. It takes a connection out of the slot (`took`) where its
reader or its writer has ended, or on the shutdown of the program. -/
inductive KeeperEffect (p : Resilient) : KeeperAction → Resilient → Prop where
  | obtained {token} (now : p.keeper = .obtaining) :
    KeeperEffect p (.obtained token)
      { p with keeper := .connecting token, backoff := reconnectInitialMs, obtained := p.obtained ++ [token] }
  | unobtained (now : p.keeper = .obtaining) : KeeperEffect p .unobtained { p with keeper := .sleeping }
  | slept (now : p.keeper = .sleeping) :
    KeeperEffect p .slept { p with keeper := .obtaining, backoff := min (p.backoff * 2) reconnectMaxMs }
  | connected {token} (now : p.keeper = .connecting token) :
    KeeperEffect p .connected { p with keeper := .greeting p.conns.length, conns := p.conns ++ [Client.fresh token true] }
  | unconnected {token} (now : p.keeper = .connecting token) : KeeperEffect p .unconnected { p with keeper := .sleeping }
  | greeted {conn conns} (now : p.keeper = .greeting conn) (moved : ConnStep p conn .connect conns) :
    KeeperEffect p .greeted { p with keeper := .waiting conn, backoff := reconnectInitialMs, shared := some conn, conns }
  | ungreeted {conn conns} (now : p.keeper = .greeting conn) (moved : ConnStep p conn .connectFail conns) :
    KeeperEffect p .ungreeted { p with keeper := .obtaining, conns }
  | took {action conn taken last conns} (now : p.keeper = .waiting conn) (slot : p.shared = some taken)
      (why : action = .disconnected ∧ last = false ∧ p.isDisconnected conn = true ∨
        action = .shutdown ∧ last = true ∧ p.running = false)
      (moved : ConnStep p taken .release conns) :
    KeeperEffect p action { p with shared := none, keeper := .clearing taken last, conns }
  | empty {action conn} {last : Bool} (now : p.keeper = .waiting conn) (slot : p.shared = none)
      (which : action = .disconnected ∨ action = .shutdown) :
    KeeperEffect p action { p with keeper := if last then .stopped else .obtaining }
  | stopped (now : p.keeper = .sleeping) : KeeperEffect p .shutdown { p with keeper := .stopped }
  | clear {conn last conns} (now : p.keeper = .clearing conn last) (moved : ConnStep p conn .releaseClear conns) :
    KeeperEffect p .clear { p with keeper := .closing conn last, conns }
  | close {conn last conns} (now : p.keeper = .closing conn last) (moved : ConnStep p conn .releaseCloseAll conns) :
    KeeperEffect p .close { p with keeper := if last then .stopped else .obtaining, conns }

private theorem onConn_some {p p' : Resilient} {conn : Nat} {action : ClientAction} (taken : p.onConn conn action = some p') :
    ∃ conns, ConnStep p conn action conns ∧ p' = { p with conns } := by
  obtain ⟨c, there, taken⟩ := Option.bind_eq_some_iff.mp taken
  obtain ⟨c', stepped, rfl⟩ := Option.map_eq_some_iff.mp taken
  exact ⟨_, .moved there stepped, rfl⟩

/-- Only the connections matter to a step of one of them. -/
private theorem ConnStep.same {p q : Resilient} {conn : Nat} {action : ClientAction} {conns : List Client}
    (moved : ConnStep q conn action conns) (same : q.conns = p.conns) : ConnStep p conn action conns := by
  obtain ⟨there, stepped⟩ := moved
  rw [same] at there ⊢
  exact .moved there stepped

private theorem takeShared_effect {p p' : Resilient} {action : KeeperAction} {conn : Nat} {last : Bool}
    (now : p.keeper = .waiting conn)
    (why : action = .disconnected ∧ last = false ∧ p.isDisconnected conn = true ∨
      action = .shutdown ∧ last = true ∧ p.running = false)
    (taken : p.takeShared last = some p') : KeeperEffect p action p' := by
  unfold Resilient.takeShared at taken
  split at taken
  · next slot =>
    obtain ⟨conns, moved, rfl⟩ := onConn_some taken
    exact .took now slot why (moved.same rfl)
  · next slot =>
    cases taken
    exact .empty now slot (why.imp And.left And.left)

theorem keeper_effect {p p' : Resilient} {action : KeeperAction} (taken : p.keeperStep action = some p') :
    KeeperEffect p action p' := by
  unfold Resilient.keeperStep at taken
  split at taken
  · split at taken
    · next now => cases taken; exact .obtained now
    · cases taken
  · split at taken
    · next now => cases taken; exact .unobtained now
    · cases taken
  · split at taken
    · next now => cases taken; exact .slept now
    · cases taken
  · split at taken
    · next now => cases taken; exact .connected now
    · cases taken
  · split at taken
    · next now => cases taken; exact .unconnected now
    · cases taken
  · split at taken
    · next now =>
      obtain ⟨conns, moved, rfl⟩ := onConn_some taken
      exact .greeted now (moved.same rfl)
    · cases taken
  · split at taken
    · next now =>
      obtain ⟨conns, moved, rfl⟩ := onConn_some taken
      exact .ungreeted now (moved.same rfl)
    · cases taken
  · split at taken
    · next now =>
      split at taken
      · next ended => exact takeShared_effect now (.inl ⟨rfl, rfl, ended⟩) taken
      · cases taken
    · cases taken
  · split at taken
    · next now =>
      obtain ⟨conns, moved, rfl⟩ := onConn_some taken
      exact .clear now (moved.same rfl)
    · cases taken
  · split at taken
    · next now =>
      obtain ⟨conns, moved, rfl⟩ := onConn_some taken
      exact .close now (moved.same rfl)
    · cases taken
  · split at taken
    · cases taken
    · next stopped =>
      split at taken
      · next now => cases taken; exact .stopped now
      · next now => exact takeShared_effect now (.inr ⟨rfl, rfl, by simpa using stopped⟩) taken
      · cases taken

/-- What the resilient client does. -/
inductive ResilientEffect (p : Resilient) : ResilientAction → Resilient → Prop where
  | accept {listener} : ResilientEffect p (.accept listener) { p with listeners := p.listeners.accept listener .parsing }
  | halted {action running socks} (which : action = .shutdown ∨ ∃ listener, action = .acceptError listener) :
    ResilientEffect p action { p with running, socks }
  | departed {h id listener} (found : p.listeners.accepted[h]? = some ⟨id, listener, .parsing⟩) :
    ResilientEffect p (.depart h) { p with listeners := p.listeners.settle h .elsewhere }
  | unavailable {h id listener tunnel} (found : p.listeners.accepted[h]? = some ⟨id, listener, .parsing⟩)
      (slot : p.shared = none) :
    ResilientEffect p (.snapshot h tunnel) { p with listeners := p.listeners.settle h .unavailable }
  | tunnelled {h id listener tunnel conn c conns} (found : p.listeners.accepted[h]? = some ⟨id, listener, .parsing⟩)
      (slot : p.shared = some conn) (there : p.conns[conn]? = some c) (moved : ConnStep p conn (.accept id tunnel) conns) :
    ResilientEffect p (.snapshot h tunnel) { p with listeners := p.listeners.settle h (.tunnelled conn c.streams.length), conns }
  | handler {h id listener conn k action conns} (found : p.listeners.accepted[h]? = some ⟨id, listener, .tunnelled conn k⟩)
      (moved : ConnStep p conn (action.on k) conns) : ResilientEffect p (.handler h action) { p with conns }
  | loop {conn action conns} (moved : ConnStep p conn action.on conns) : ResilientEffect p (.loop conn action) { p with conns }
  | keeper {action p'} (effect : KeeperEffect p action p') : ResilientEffect p (.keeper action) p'

theorem resilient_effect {p p' : Resilient} {action : ResilientAction} (taken : p.step action = some p') :
    ResilientEffect p action p' := by
  unfold Resilient.step at taken
  split at taken
  · split at taken
    · cases taken; exact .accept
    · cases taken
  · split at taken
    · cases taken; exact .accept
    · cases taken
  · split at taken
    · cases taken; exact .halted (.inr ⟨_, rfl⟩)
    · cases taken
  · split at taken
    · cases taken; exact .halted (.inr ⟨_, rfl⟩)
    · cases taken
  · split at taken
    · cases taken; exact .halted (.inl rfl)
    · cases taken
  · split at taken
    · next found => cases taken; exact .departed found
    · cases taken
  · split at taken
    · next found =>
      split at taken
      · split at taken
        · next slot => cases taken; exact .unavailable found slot
        · next slot =>
          obtain ⟨c, there, taken⟩ := Option.bind_eq_some_iff.mp taken
          obtain ⟨conns, moved, rfl⟩ := onConn_some taken
          exact .tunnelled found slot there (moved.same rfl)
      · cases taken
    · cases taken
  · split at taken
    · next found =>
      obtain ⟨conns, moved, rfl⟩ := onConn_some taken
      exact .handler found moved
    · cases taken
  · obtain ⟨conns, moved, rfl⟩ := onConn_some taken
    exact .loop moved
  · exact .keeper (keeper_effect taken)

end EchoProxy.Proofs.ProxySteps
