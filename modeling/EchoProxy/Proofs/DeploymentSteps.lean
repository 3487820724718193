import EchoProxy.Deployment
import EchoProxy.Proofs.Authentication
import EchoProxy.Proofs.ProxySteps

/-! What the steps of the two programs together do: to which connection and to which
session a step belongs, and which of them read or write a WebSocket. -/

namespace EchoProxy.Proofs.DeploymentSteps
open EchoProxy ProxySteps Authentication Places

/-- Keeper steps that need the server. -/
def joint : ResilientAction → Bool
  | .keeper (.obtained _) | .keeper .connected => true
  | _ => false

/-- Everything a step of the deployment can do. -/
inductive DeploymentEffect (setup : Setup) (d : Deployment) : DeploymentAction → Deployment → Prop where
  | alone {action client asking} (taken : d.client.step action = some client) (own : joint action = false)
      (unwired : d.client.wired action = none) (forgets : asking = d.asking ∨ asking = none) :
    DeploymentEffect setup d (.client action) { d with client, asking }
  | wired {action client conn move c line upload download} (taken : d.client.step action = some client)
      (own : joint action = false) (wired : d.client.wired action = some (conn, move))
      (there : d.client.conns[conn]? = some c)
      (here : d.lines[conn]? = some line) (delivered : Mux.deliver move.consumes line.download = some download)
      (transmitted : Mux.transmit setup.capacity line.upload (c.emits move) = some upload) :
    DeploymentEffect setup d (.client action)
      { d with client, lines := d.lines.set conn { line with upload, download } }
  | served {action serve} (taken : d.serve.step setup.crates setup.users action = some serve)
      (foreign : ∀ j move, action = .session j move → ∀ line ∈ d.lines, line.session ≠ j) :
    DeploymentEffect setup d (.serve action) { d with serve }
  | session {j move serve conn session line upload download}
      (taken : d.serve.step setup.crates setup.users (.session j move) = some serve)
      (there : d.serve.sessions[j]? = some session)
      (here : d.lines[conn]? = some line) (own : line.session = j)
      (delivered : Mux.deliver move.consumes line.upload = some upload)
      (transmitted : Mux.transmit setup.capacity line.download (session.server.emits move) = some download) :
    DeploymentEffect setup d (.serve (.session j move))
      { d with serve, lines := d.lines.set conn { line with upload, download } }
  | ask {serve} (now : d.client.keeper = .obtaining)
      (taken : d.serve.step setup.crates setup.users (.connect "/control") = some serve) :
    DeploymentEffect setup d .ask { d with serve, asking := some d.serve.controls.length }
  | obtain {i control token client} (asking : d.asking = some i) (there : d.serve.controls[i]? = some control)
      (answered : obtainTokenWithVersion control.firstMessage = some token)
      (taken : d.client.step (.keeper (.obtained token)) = some client) :
    DeploymentEffect setup d .obtain { d with client, asking := none }
  | dial {client serve} (taken : d.client.step (.keeper .connected) = some client)
      (accepted : d.serve.step setup.crates setup.users (.connect "/mux") = some serve) :
    DeploymentEffect setup d .dial
      { d with client, serve, lines := d.lines ++ [⟨d.serve.sessions.length, [], []⟩] }

private theorem clientStep_effect {setup : Setup} {d d' : Deployment} {action : ResilientAction}
    (own : joint action = false)
    (taken : d.clientStep setup action = some d') : DeploymentEffect setup d (.client action) d' := by
  obtain ⟨client, stepped, taken⟩ := Option.bind_eq_some_iff.mp taken
  split at taken
  · next unwired =>
    cases taken
    exact .alone stepped own unwired (.inl rfl)
  · next wired =>
    obtain ⟨c, there, taken⟩ := Option.bind_eq_some_iff.mp taken
    obtain ⟨line, here, taken⟩ := Option.bind_eq_some_iff.mp taken
    obtain ⟨download, delivered, taken⟩ := Option.bind_eq_some_iff.mp taken
    obtain ⟨upload, transmitted, rfl⟩ := Option.map_eq_some_iff.mp taken
    exact .wired stepped own wired there here delivered transmitted

private theorem sessionStep_effect {setup : Setup} {d d' : Deployment} {j : Nat} {move : ServerAction}
    {serve : Serve} (stepped : d.serve.step setup.crates setup.users (.session j move) = some serve)
    (taken : d.sessionStep setup j move serve = some d') :
    DeploymentEffect setup d (.serve (.session j move)) d' := by
  unfold Deployment.sessionStep at taken
  split at taken
  · next foreign =>
    cases taken
    refine .served stepped ?_
    rintro _ _ ⟨⟩ line member
    simpa using List.findIdx?_eq_none_iff.mp foreign line member
  · next conn found =>
    obtain ⟨session, there, taken⟩ := Option.bind_eq_some_iff.mp taken
    obtain ⟨line, here, taken⟩ := Option.bind_eq_some_iff.mp taken
    obtain ⟨upload, delivered, taken⟩ := Option.bind_eq_some_iff.mp taken
    obtain ⟨download, transmitted, rfl⟩ := Option.map_eq_some_iff.mp taken
    obtain ⟨inside, own, -⟩ := List.findIdx?_eq_some_iff_getElem.mp found
    rw [List.getElem?_eq_getElem inside, Option.some.injEq] at here
    subst here
    exact .session stepped there (List.getElem?_eq_getElem inside) (by simpa using own) delivered transmitted

private theorem serveStep_effect {setup : Setup} {d d' : Deployment} {action : ServeAction} {serve : Serve}
    (stepped : d.serve.step setup.crates setup.users action = some serve)
    (taken : d.serveStep setup action serve = some d') :
    DeploymentEffect setup d (.serve action) d' := by
  unfold Deployment.serveStep at taken
  split at taken
  · exact sessionStep_effect stepped taken
  · split at taken
    · cases taken
    · cases taken
      exact .served stepped (by simp)
  · next other _ =>
    cases taken
    exact .served stepped fun j move same => absurd same (other j move)

theorem deployment_effect {setup : Setup} {d d' : Deployment} {action : DeploymentAction}
    (taken : d.step setup action = some d') :
    DeploymentEffect setup d action d' := by
  unfold Deployment.step at taken
  split at taken
  · cases taken
  · cases taken
  · obtain ⟨client, stepped, rfl⟩ := Option.map_eq_some_iff.mp taken
    exact .alone stepped rfl rfl (.inr rfl)
  · next obtained connected unobtained =>
    refine clientStep_effect ?_ taken
    unfold joint
    split
    · next token => exact absurd rfl (obtained token)
    · exact absurd rfl connected
    · rfl
  · obtain ⟨serve, stepped, taken⟩ := Option.bind_eq_some_iff.mp taken
    exact serveStep_effect stepped taken
  · split at taken
    · next now =>
      obtain ⟨serve, stepped, rfl⟩ := Option.map_eq_some_iff.mp taken
      exact .ask now stepped
    · cases taken
  · obtain ⟨i, asking, taken⟩ := Option.bind_eq_some_iff.mp taken
    obtain ⟨control, there, taken⟩ := Option.bind_eq_some_iff.mp taken
    obtain ⟨token, answered, taken⟩ := Option.bind_eq_some_iff.mp taken
    obtain ⟨client, stepped, rfl⟩ := Option.map_eq_some_iff.mp taken
    exact .obtain asking there answered stepped
  · obtain ⟨client, stepped, taken⟩ := Option.bind_eq_some_iff.mp taken
    obtain ⟨serve, accepted, rfl⟩ := Option.map_eq_some_iff.mp taken
    exact .dial stepped accepted

/-! ### The client's steps -/

/-- A step that reads and writes nothing moves at most one connection, and that silently. -/
theorem unwired_move {p p' : Resilient} {action : ResilientAction} (effect : ResilientEffect p action p')
    (own : joint action = false) (unwired : p.wired action = none) :
    p'.conns = p.conns ∨ ∃ conn move, ConnStep p conn move p'.conns ∧ move.consumes = [] ∧
      ∀ c : Client, c.emits move = [] := by
  cases effect with
  | accept | halted | departed | unavailable => exact .inl rfl
  | tunnelled _ _ _ moved => exact .inr ⟨_, _, moved, rfl, fun _ => rfl⟩
  | @handler _ _ _ _ k action _ _ moved =>
    refine .inr ⟨_, _, moved, ?_, ?_⟩
    · cases action <;> rfl
    · intro c
      cases action <;> rfl
  | loop => simp [Resilient.wired] at unwired
  | keeper effect =>
    cases effect with
    | obtained | connected => simp [joint] at own
    | unobtained | slept | unconnected | empty | stopped => exact .inl rfl
    | greeted now => simp [Resilient.wired, now] at unwired
    | ungreeted _ moved | took _ _ _ moved | clear _ moved | close _ moved =>
        exact .inr ⟨_, _, moved, rfl, fun _ => rfl⟩

theorem wired_move {p p' : Resilient} {action : ResilientAction} {conn : Nat} {move : ClientAction}
    (effect : ResilientEffect p action p') (wired : p.wired action = some (conn, move)) :
    ConnStep p conn move p'.conns := by
  cases effect with
  | loop moved =>
    simp only [Resilient.wired, Option.some.injEq, Prod.mk.injEq] at wired
    obtain ⟨rfl, rfl⟩ := wired
    exact moved
  | keeper effect =>
    cases effect with
    | greeted now moved =>
      simp only [Resilient.wired, now, Option.some.injEq, Prod.mk.injEq] at wired
      obtain ⟨rfl, rfl⟩ := wired
      exact moved
    | took _ _ why => rcases why with ⟨rfl, -⟩ | ⟨rfl, -⟩ <;> simp [Resilient.wired] at wired
    | empty _ _ which => rcases which with rfl | rfl <;> simp [Resilient.wired] at wired
    | _ => simp [Resilient.wired] at wired
  | halted which => rcases which with rfl | ⟨listener, rfl⟩ <;> simp [Resilient.wired] at wired
  | _ => simp [Resilient.wired] at wired

end EchoProxy.Proofs.DeploymentSteps
