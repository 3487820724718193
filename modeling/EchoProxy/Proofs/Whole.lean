import EchoProxy.Proofs.Deployment
import EchoProxy.Proofs.HttpReception
import EchoProxy.Proofs.SocksReception
import EchoProxy.Whole

/-! From the bytes of a local connection to the upstream: every upstream that the server dials
for the client was asked for by the request at the front of one accepted connection, which the
routing rules send through the tunnel. -/

namespace EchoProxy.Proofs.Whole
open EchoProxy Transition FrontEnd StreamIds Deployment
variable {setup : Setup} {config : RoutingConfig} {lower : Lowercase}

/-! ### Components -/

theorem httpPart_of : (httpPart config lower).Of (httpSystem true config lower) (receptionSystem true) where
  silent := by
    intro s action s' taken still
    cases HttpReception.http_effect taken with
    | other | accept => cases still
    | malformed found refused => simp [httpPart, HttpReception.receptionMove, found, refused] at still
    | bypass found parsed bypasses => simp [httpPart, HttpReception.receptionMove, found, parsed,
        bypasses] at still
    | look found => simp [httpPart, HttpReception.receptionMove, found] at still
    | tunnel | direct => rfl
  moves := by
    intro s action s' own taken moved
    cases HttpReception.http_effect taken with
    | other _ stepped | accept stepped =>
      cases moved
      exact stepped
    | malformed found refused stepped =>
      simp only [httpPart, HttpReception.receptionMove, found, refused, Option.some.injEq] at moved
      exact moved ▸ stepped
    | bypass found parsed bypasses stepped =>
      simp only [httpPart, HttpReception.receptionMove, found, parsed, bypasses, if_true,
        Option.some.injEq] at moved
      exact moved ▸ stepped
    | look found stepped =>
      simp only [httpPart, HttpReception.receptionMove, found, Option.some.injEq] at moved
      exact moved ▸ stepped
    | tunnel found parsed proxied => simp [httpPart, HttpReception.receptionMove, found, parsed, proxied] at moved
    | direct => cases moved

theorem socksPart_of : (socksPart config lower).Of (socksSystem config lower) (receptionSystem true) where
  silent := by
    intro s action s' taken still
    cases SocksReplies.socks_effect taken with
    | other | accept => cases still
    | refused found parsed => simp [socksPart, SocksReception.receptionMove, found, parsed] at still
    | direct found parsed => simp [socksPart, SocksReception.receptionMove, found, parsed] at still
    | look found => simp [socksPart, SocksReception.receptionMove, found] at still
    | proxied | connected | unconnected | relay => rfl
  moves := by
    intro s action s' own taken moved
    cases SocksReplies.socks_effect taken with
    | other stepped | accept stepped =>
      cases moved
      exact stepped
    | refused found parsed stepped =>
      simp only [socksPart, SocksReception.receptionMove, found, parsed, Option.some.injEq] at moved
      exact moved ▸ stepped
    | direct found parsed stepped =>
      simp only [socksPart, SocksReception.receptionMove, found, parsed, Option.some.injEq] at moved
      exact moved ▸ stepped
    | look =>
      obtain ⟨offered, peer, host, reception, found, stepped, same⟩ :=
        @SocksReception.look_effect config lower _ _ _ taken
      simp only [socksPart, SocksReception.receptionMove, found, Option.some.injEq] at moved
      rw [same]
      exact moved ▸ stepped
    | proxied found parsed => simp [socksPart, SocksReception.receptionMove, found, parsed] at moved
    | connected | unconnected | relay => cases moved

theorem receptionPart_of {socks : Bool} : receptionPart.Of (receptionSystem socks) (resilientSystem socks) where
  silent := by
    intro r action r' taken still
    cases action with
    | proxy => cases still
    | reply | socket => exact (Replies.aside taken).2.2.1
  moves := by
    intro r action r' own taken moved
    cases action with
    | proxy =>
      cases moved
      obtain ⟨proxy, stepped, rfl⟩ := Option.map_eq_some_iff.mp taken
      exact stepped
    | reply | socket => cases moved

theorem deploymentPart_of {socks : Bool} : deploymentPart.Of (deploymentSystem setup)
    (resilientSystem socks) where
  silent := by
    intro d action d' taken still
    cases DeploymentSteps.deployment_effect taken with
    | alone | wired | dial => cases still
    | obtain asking there answered => simp [deploymentPart, Deployment.clientMove, asking, there,
        answered] at still
    | served | session | ask => rfl
  moves := by
    intro d action d' own taken moved
    cases DeploymentSteps.deployment_effect taken with
    | alone stepped | wired stepped | dial stepped =>
      cases moved
      exact stepped
    | obtain asking there answered stepped =>
      simp only [deploymentPart, Deployment.clientMove, asking, there, answered, Option.bind_some,
        Option.map_some, Option.some.injEq] at moved
      exact moved ▸ stepped
    | served | session | ask => cases moved

/-! ### One program -/

section Run
variable {d : EchoProxy.Deployment} {http : EchoProxy.HttpReception} {socks : EchoProxy.SocksReception}

/-- The listeners of the program, with their handlers, are those of the deployed one. -/
structure OneProgram (setup : Setup) (config : RoutingConfig) (lower : Lowercase) (d : EchoProxy.Deployment)
    (http : EchoProxy.HttpReception) (socks : EchoProxy.SocksReception) : Prop where
  deployed : (deploymentSystem { setup with socks := true }).Reachable d
  httpRun : (httpSystem true config lower).Reachable http
  socksRun : (socksSystem config lower).Reachable socks
  httpProxy : http.reception.proxy = d.client
  socksProxy : socks.reception.proxy = d.client

theorem one_program (run : (wholeSystem setup config lower).Reachable (d, http, socks)) :
    OneProgram setup config lower d http socks := by
  have front := coupled_right run
  have same : http.reception = socks.reception := coupled_agrees httpPart_of socksPart_of front
  have client : d.client = http.reception.proxy :=
    coupled_agrees (n := resilientSystem true) deploymentPart_of (httpPart_of.coupled.trans receptionPart_of) run
  exact ⟨coupled_left run, coupled_left front, coupled_right front, client.symm, same ▸ client.symm⟩

/-! ### Requests and upstreams -/

/-- The handler of the connection has read the request for the host from the front of it, and
the routing rules send it through the tunnel. -/
inductive Requested (config : RoutingConfig) (lower : Lowercase) (http : EchoProxy.HttpReception)
    (socks : EchoProxy.SocksReception) (h : Nat) : Listener → String → Tunnel → Prop where
  | http {offered request} (found : http.handlers h = some ⟨offered, .handed request⟩)
      (asked : HttpReception.Asked config lower offered request false) :
    Requested config lower http socks h .http request.host (.viaMuxWithTimeout request)
  | socks5 {offered peer request} (found : socks.handlers h = some ⟨offered, peer, .handed⟩)
      (asked : SocksReception.Asked config lower offered request false) (told : peer.written = [5, 0]) :
    Requested config lower http socks h .socks5 (String.ofList request.text) (.socksViaMuxWithTimeout (String.ofList request.text))

theorem Requested.dest {h : Nat} {listener : Listener} {host : String} {tunnel : Tunnel}
    (requested : Requested config lower http socks h listener host tunnel) : tunnel.spec.dest = host := by
  cases requested <;> rfl

theorem OneProgram.requested (one : OneProgram setup config lower d http socks) {h conn k : Nat}
    {id : StreamId} {listener : Listener}
    (accepted : d.client.listeners.accepted[h]? = some ⟨id, listener, .tunnelled conn k⟩) :
    ∃ host tunnel, Requested config lower http socks h listener host tunnel ∧
      Carries d.client.conns conn k tunnel := by
  cases listener with
  | http =>
    have placed : Placed http.reception .http h (.tunnelled conn k) := ⟨id, one.httpProxy.symm ▸ accepted⟩
    obtain ⟨offered, request, found, asked, carries⟩ := HttpReception.tunnelled_asked one.httpRun placed
    exact ⟨_, _, .http found asked, one.httpProxy ▸ carries⟩
  | socks5 =>
    have placed : Placed socks.reception .socks5 h (.tunnelled conn k) := ⟨id, one.socksProxy.symm ▸ accepted⟩
    obtain ⟨offered, peer, request, found, asked, told, carries⟩ :=
      SocksReception.tunnelled_asked one.socksRun placed
    exact ⟨_, _, .socks5 found asked told, one.socksProxy ▸ carries⟩

/-- The connection is tunnelled to the host of its own request. -/
def Reaches (config : RoutingConfig) (lower : Lowercase) (d : EchoProxy.Deployment)
    (http : EchoProxy.HttpReception) (socks : EchoProxy.SocksReception) (h : Nat) (id : StreamId)
    (listener : Listener) (conn k : Nat) : Prop :=
  ∃ host tunnel c line session s, Requested config lower http socks h listener host tunnel ∧
    d.client.conns[conn]? = some c ∧ d.lines[conn]? = some line ∧
    d.serve.sessions[line.session]? = some session ∧ c.streams[k]? = some s ∧
    s.id = id ∧ s.front.tunnel = tunnel ∧
      (s.task ≠ .absent → ∃ u ∈ session.server.streams, u.id = id) ∧
      ∀ u ∈ session.server.streams, u.id = id → u.front.dest = host ∧ Tunnels s u

/-- What the requests of the local connections come to at the server. -/
structure Fulfils (config : RoutingConfig) (lower : Lowercase) (d : EchoProxy.Deployment)
    (http : EchoProxy.HttpReception) (socks : EchoProxy.SocksReception) : Prop where
  connection : ∀ (h : Nat) id listener conn k,
    d.client.listeners.accepted[h]? = some ⟨id, listener, .tunnelled conn k⟩ →
    Reaches config lower d http socks h id listener conn k
  /-- An upstream was asked for by one connection, to that host. -/
  upstream : ∀ (conn : Nat) line session, d.lines[conn]? = some line →
    d.serve.sessions[line.session]? = some session →
    ∀ u ∈ session.server.streams, ∃! h, ∃ k listener host tunnel,
      d.client.listeners.accepted[h]? = some ⟨u.id, listener, .tunnelled conn k⟩ ∧
      Requested config lower http socks h listener host tunnel ∧ u.front.dest = host

private theorem OneProgram.reaches (one : OneProgram setup config lower d http socks)
    (few : d.client.listeners.accepted.length ≤ idSpace) {h conn k : Nat} {id : StreamId} {listener : Listener}
    (accepted : d.client.listeners.accepted[h]? = some ⟨id, listener, .tunnelled conn k⟩) :
    Reaches config lower d http socks h id listener conn k := by
  obtain ⟨c, line, session, s, there, lined, served, here, same, relays, tunnels⟩ :=
    handler_tunnels one.deployed few ⟨listener, accepted⟩
  obtain ⟨host, tunnel, requested, c', there', s', here', own⟩ := one.requested accepted
  cases there.symm.trans there'
  cases here.symm.trans here'
  refine ⟨host, tunnel, c, line, session, s, requested, there, lined, served, here, same, own, relays, ?_⟩
  intro u upstream twin
  have tunnelled := tunnels u upstream twin
  refine ⟨tunnelled.dest.trans ?_, tunnelled⟩
  rw [Handler.spec, own]
  exact requested.dest

/-- In every run of the two programs with all their handlers, until ids come back: a tunnelled
connection has the upstream its own bytes ask for, and every upstream the server dials for the
client is for the request at the front of exactly one connection. -/
theorem requests_fulfilled (setup : Setup) (config : RoutingConfig) (lower : Lowercase) (d : EchoProxy.Deployment)
    (http : EchoProxy.HttpReception) (socks : EchoProxy.SocksReception)
    (run : (wholeSystem setup config lower).Reachable (d, http, socks))
    (few : d.client.listeners.accepted.length ≤ idSpace) :
    Fulfils config lower d http socks := by
  have one := one_program run
  refine ⟨fun h id listener conn k accepted => one.reaches few accepted, ?_⟩
  intro conn line session lined served u upstream
  obtain ⟨h, ⟨k, listener, accepted⟩, only⟩ := upstream_owner one.deployed few lined served upstream
  obtain ⟨host, tunnel, c, line', session', s, requested, -, lined', served', -, -, -, -, twins⟩ :=
    one.reaches few accepted
  cases lined.symm.trans lined'
  cases served.symm.trans served'
  refine ⟨h, ⟨k, listener, host, tunnel, accepted, requested, (twins u upstream rfl).1⟩, ?_⟩
  rintro i ⟨k', listener', -, -, accepted', -⟩
  exact only i ⟨k', listener', accepted'⟩

end Run

/-! ### A run -/

private abbrev Step := CoupledAction DeploymentAction (CoupledAction HttpAction SocksAction)

/-- A step of the program that no front end makes, with what it is for the deployment. -/
private def program (deployed : DeploymentAction) (action : ResilientAction) : Step :=
  .both deployed (.both (.other (.proxy action)) (.other (.proxy action)))

private def client (action : ResilientAction) : Step := program (.client action) action

private def getRequest : ProxyRequest := ⟨"1.1.1.1:80", false, "GET / HTTP/1.1\r\nHost: 1.1.1.1\r\n\r\n", []⟩

/-- The session is up, and a request for the host is opened through it. -/
private def throughWhole : List Step :=
  [.left .ask, .left (.serve (.control 0 (.incoming (helloMessage "0.2.0" "alice") firstUuid))),
    .left (.serve (.control 0 .sent)),
    program .obtain (.keeper (.obtained firstToken)), program .dial (.keeper .connected),
    client (.keeper .greeted),
    .left (.serve (.session 0 (.incoming (Frame.hello firstToken).message))), .left (.serve (.present 0)),
    .both (.client (.accept .http))
      (.both (.accept (asBytes getRequest.headers) (fun _ => 8191) false) (.other (.proxy (.accept .http)))),
    .right (.left (.parse 0)),
    .both (.client (.snapshot 0 (.viaMuxWithTimeout getRequest)))
      (.both (.look 0) (.other (.proxy (.snapshot 0 (.viaMuxWithTimeout getRequest))))),
    client (.handler 0 (.handler .register)), client (.handler 0 (.handler .insertAck)),
    client (.handler 0 (.handler .send)),
    client (.loop 0 .pop), client (.loop 0 .put),
    .left (.serve (.session 0 (.incoming (Frame.openStream 1 "1.1.1.1:80").message))),
    .left (.serve (.session 0 .connectOk))]

private def tunnelAll : RoutingConfig := ⟨[], [], none, []⟩

theorem get_fulfilled : ∃ d http socks,
    d.serve.sessions.map (fun session => session.server.streams.map (·.front.dest)) = [["1.1.1.1:80"]] ∧
    Fulfils tunnelAll asciiLowercase d http socks := by
  have executed : ((wholeSystem runSetup tunnelAll asciiLowercase).exec
      (.fresh true, .fresh true, .fresh) throughWhole).any (fun w =>
      decide (w.1.serve.sessions.map (fun session => session.server.streams.map (·.front.dest)) =
          [["1.1.1.1:80"]] ∧
        w.1.client.listeners.accepted.length = 1)) = true := by
    decide +kernel
  obtain ⟨⟨d, http, socks⟩, run, view⟩ := System.reached executed ⟨rfl, ⟨rfl, rfl, rfl⟩, rfl⟩
  obtain ⟨dialled, accepted⟩ := of_decide_eq_true view
  exact ⟨d, http, socks, dialled,
    requests_fulfilled runSetup tunnelAll asciiLowercase d http socks run (by rw [accepted]; decide)⟩

end EchoProxy.Proofs.Whole
