import EchoProxy.HttpReception
import EchoProxy.Proofs.Direct
import EchoProxy.Proofs.FrontEnd
import EchoProxy.Proofs.HttpRelay

/-! Where the connections of the HTTP listener go. The request at the front of a connection
decides, and the handler keeps to it: one direct connection or one tunnel, to the host the
request names, or none at all. -/

namespace EchoProxy.Proofs.HttpReception
open EchoProxy Buffered Transition FrontEnd StreamEnd HttpParser
variable {socks : Bool} {config : RoutingConfig} {lower : Lowercase}

/-! ### Handlers -/

section handlers
variable {s s' : EchoProxy.HttpReception}

/-- The program's part in a step of an HTTP handler. -/
inductive HttpEffect (config : RoutingConfig) (lower : Lowercase) (s : EchoProxy.HttpReception) :
    HttpAction → EchoProxy.HttpReception → Prop where
  | other {action reception} (foreign : s.owns action = false)
      (stepped : s.reception.step action = some reception) :
    HttpEffect config lower s (.other action) { s with reception }
  | accept {bytes arrived fails reception}
      (stepped : s.reception.step (.proxy (.accept .http)) = some reception) :
    HttpEffect config lower s (.accept bytes arrived fails)
      ({ s with reception }.set s.reception.proxy.listeners.accepted.length ⟨⟨bytes, 0, arrived, fails⟩,
        .parsing⟩)
  | malformed {h offered reception} (found : s.handlers h = some ⟨offered, .parsing⟩)
      (refused : localRequest offered = none)
      (stepped : s.reception.step (.proxy (.depart h)) = some reception) :
    HttpEffect config lower s (.parse h) ({ s with reception }.set h ⟨offered, .returned⟩)
  | bypass {h offered request left reception} (found : s.handlers h = some ⟨offered, .parsing⟩)
      (parsed : localRequest offered = some (request, left)) (bypasses : config.bypasses lower request = true)
      (stepped : s.reception.step (.proxy (.depart h)) = some reception) :
    HttpEffect config lower s (.parse h) ({ s with reception }.set h
      ⟨offered, .direct request (.dialing { Socket.fresh with incoming := left.rest })⟩)
  | tunnel {h offered request left} (found : s.handlers h = some ⟨offered, .parsing⟩)
      (parsed : localRequest offered = some (request, left)) (proxied : config.bypasses lower request = false) :
    HttpEffect config lower s (.parse h) (s.set h ⟨offered, .looking request⟩)
  | direct {h offered request direct direct' move} (found : s.handlers h = some ⟨offered, .direct request direct⟩)
      (stepped : direct.step request move = some direct') :
    HttpEffect config lower s (.direct h move) (s.set h ⟨offered, .direct request direct'⟩)
  | look {h offered request reception} (found : s.handlers h = some ⟨offered, .looking request⟩)
      (stepped : s.reception.step (.proxy (.snapshot h (.viaMuxWithTimeout request))) = some reception) :
    HttpEffect config lower s (.look h) ({ s with reception }.set h ⟨offered, .handed request⟩)

theorem http_effect {action : HttpAction} (taken : s.step config lower action = some s') :
    HttpEffect config lower s action s' := by
  unfold HttpReception.step at taken
  split at taken
  · split at taken
    · cases taken
    · next foreign =>
      obtain ⟨reception, stepped, rfl⟩ := Option.map_eq_some_iff.mp taken
      exact .other (by simpa using foreign) stepped
  · obtain ⟨reception, stepped, rfl⟩ := Option.map_eq_some_iff.mp taken
    exact .accept stepped
  · split at taken
    · next found =>
      split at taken
      · next refused =>
        obtain ⟨reception, stepped, rfl⟩ := Option.map_eq_some_iff.mp taken
        exact .malformed found refused stepped
      · next parsed =>
        split at taken
        · next bypasses =>
          obtain ⟨reception, stepped, rfl⟩ := Option.map_eq_some_iff.mp taken
          exact .bypass found parsed bypasses stepped
        · next proxied =>
          cases taken
          exact .tunnel found parsed (by simpa using proxied)
    · cases taken
  · split at taken
    · next found =>
      obtain ⟨direct', stepped, rfl⟩ := Option.map_eq_some_iff.mp taken
      exact .direct found stepped
    · cases taken
  · split at taken
    · next found =>
      obtain ⟨reception, stepped, rfl⟩ := Option.map_eq_some_iff.mp taken
      exact .look found stepped
    · cases taken

/-- The request is at the front of the connection, and the routing rules decide as said. -/
def Asked (config : RoutingConfig) (lower : Lowercase) (offered : Source UInt8) (request : ProxyRequest)
    (direct : Bool) : Prop :=
  ∃ left, localRequest offered = some (request, left) ∧ config.bypasses lower request = direct

/-- The direct route has run, and has found what the parser left of the connection. -/
def Ran (offered : Source UInt8) (request : ProxyRequest) (d : EchoProxy.Direct) : Prop :=
  (directSystem request).Reachable d ∧ ∃ left, localRequest offered = some (request, left) ∧
    left.rest <+: sent (Direct.client d)

/-- What has become of a connection of the listener. -/
def Followed (config : RoutingConfig) (lower : Lowercase) (r : Reception) (h : Nat) : HttpHandler → Prop
  | ⟨offered, stage⟩ => offered.position = 0 ∧
    match stage with
    | .parsing => Placed r .http h .parsing
    | .returned => Placed r .http h .elsewhere ∧ localRequest offered = none
    | .direct request d => Placed r .http h .elsewhere ∧ Asked config lower offered request true ∧
        Ran offered request d
    | .looking request => Placed r .http h .parsing ∧ Asked config lower offered request false
    | .handed request => Asked config lower offered request false ∧ ∃ standing, Placed r .http h standing ∧
      Stands r h (.viaMuxWithTimeout request) standing ∧ standing ≠ .parsing ∧ standing ≠ .elsewhere

def Attended (config : RoutingConfig) (lower : Lowercase) (s : EchoProxy.HttpReception) : Prop :=
  Attends .http (Followed config lower) s.reception s.handlers

private theorem followed_stable : Stable (Followed config lower) := by
  intro r r' action h ⟨offered, stage⟩ taken other ⟨start, followed⟩
  refine ⟨start, ?_⟩
  cases stage with
  | parsing => exact followed.step taken other
  | returned => exact ⟨followed.1.step taken other, followed.2⟩
  | direct request d => exact ⟨followed.1.step taken other, followed.2⟩
  | looking request => exact ⟨followed.1.step taken other, followed.2⟩
  | handed request =>
    obtain ⟨asked, standing, before, stands, further⟩ := followed
    exact ⟨asked, standing, before.step taken other, stands.step taken, further⟩

private theorem dialing_ran {offered left : Source UInt8} {request : ProxyRequest}
    (parsed : localRequest offered = some (request, left)) :
    Ran offered request (.dialing { Socket.fresh with incoming := left.rest }) := by
  refine ⟨.init ⟨_, rfl, rfl, rfl⟩, left, parsed, ?_⟩
  simp [sent, Direct.client, Socket.fresh]

private theorem Ran.step {offered : Source UInt8} {request : ProxyRequest} {d d' : EchoProxy.Direct}
    {move : DirectMove}
    (ran : Ran offered request d) (stepped : d.step request move = some d') : Ran offered request d' := by
  obtain ⟨run, left, parsed, front⟩ := ran
  exact ⟨run.step trivial stepped, left, parsed, front.trans (Direct.client_grows (Direct.direct_effect stepped))⟩

private theorem not_decided {action : ReceptionAction} (foreign : s.owns action = false) {h : Nat}
    {handler : HttpHandler} (found : s.handlers h = some handler) : ¬ decides h action := by
  intro decided
  cases action with
  | proxy action =>
    cases action with
    | depart i | snapshot i =>
      cases decided
      simp [HttpReception.owns, found] at foreign
    | _ => cases decided
  | reply | socket => cases decided

theorem Attended.step {action : HttpAction} (valid : Attended config lower s)
    (effect : HttpEffect config lower s action s') :
    Attended config lower s' := by
  have before {h : Nat} {handler : HttpHandler} (found : s.handlers h = some handler) :=
    valid.known h handler found
  cases effect with
  | other foreign stepped =>
    refine valid.moved followed_stable stepped ?_ fun h handler found => not_decided foreign found
    rintro rfl
    cases foreign
  | accept stepped => exact valid.accept followed_stable stepped fun placed => ⟨rfl, placed⟩
  | malformed found refused stepped =>
    obtain ⟨start, parsing⟩ := before found
    exact valid.proceeds followed_stable stepped (by simp) (fun i decided => decided.symm) ⟨start,
      departed stepped parsing, refused⟩
  | bypass found parsed bypasses stepped =>
    obtain ⟨start, parsing⟩ := before found
    exact valid.proceeds followed_stable stepped (by simp) (fun i decided => decided.symm)
      ⟨start, departed stepped parsing, ⟨_, parsed, bypasses⟩, dialing_ran parsed⟩
  | tunnel found parsed proxied =>
    obtain ⟨start, parsing⟩ := before found
    exact valid.goes ⟨start, parsing, _, parsed, proxied⟩
  | direct found stepped =>
    obtain ⟨start, placed, asked, ran⟩ := before found
    exact valid.goes ⟨start, placed, asked, ran.step stepped⟩
  | look found stepped =>
    obtain ⟨start, parsing, asked⟩ := before found
    obtain ⟨standing, placed, stands⟩ := looked stepped parsing
    exact valid.proceeds followed_stable stepped (by simp) (fun i decided => decided.symm) ⟨start, asked,
      standing, placed, stands⟩

theorem attended (run : (httpSystem socks config lower).Reachable s) : Attended config lower s := by
  refine run.invariant (p := Attended config lower) ?_ fun _ _ _ _ valid _ taken => valid.step (http_effect taken)
  rintro s rfl
  exact .fresh

/-- The handler of a tunnelled connection has asked for the tunnel. -/
theorem tunnelled_asked (run : (httpSystem socks config lower).Reachable s) {h conn k : Nat}
    (placed : Placed s.reception .http h (.tunnelled conn k)) :
    ∃ offered request, s.handlers h = some ⟨offered, .handed request⟩ ∧
      Asked config lower offered request false ∧
      Carries s.reception.proxy.conns conn k (.viaMuxWithTimeout request) := by
  have valid := attended run
  obtain ⟨⟨offered, stage⟩, found⟩ := valid.present h _ placed
  obtain ⟨-, followed⟩ := valid.known h _ found
  cases stage with
  | parsing => cases placed.unique followed
  | returned | direct | looking => cases placed.unique followed.1
  | handed request =>
    obtain ⟨asked, other, there, stands, -⟩ := followed
    cases placed.unique there
    exact ⟨offered, request, found, asked, stands⟩

end handlers

/-! ### Where a connection goes -/

/-- The bytes of the connection are its request, what the parser read ahead, and what the
route finds. -/
def Split (offered : Source UInt8) (request : ProxyRequest) (found : Bytes) : Prop :=
  ∃ surplus left, offered.rest = asBytes request.headers ++ request.body ++ (surplus ++ left) ∧ left <+: found ∧
    (surplus = [] ↔ EndsWithRead request offered.rest.length offered.arrived)

/-- The direct route delivers to the two ends what a tunnel would. -/
def Exchanged (request : ProxyRequest) (d : EchoProxy.Direct) : Prop :=
  (Direct.told d <+: badGateway ∧ Direct.upstream d = none) ∨
    ∀ direction, Direct.written direction d <+: Direct.ahead request direction ++ Direct.sentBy direction d

/-- What becomes of a connection, by where it stands: nothing yet; no request and so no
reply and no connection made; one direct connection; or the one tunnel of the request. -/
def Served (config : RoutingConfig) (lower : Lowercase) (r : Reception) (h : Nat) (handler : HttpHandler) :
    Standing → Prop
  | .parsing => handler.stage = .parsing ∨ ∃ request, handler.stage = .looking request
  | .elsewhere => (handler.stage = .returned ∧ localRequest handler.offered = none) ∨
    ∃ request d, handler.stage = .direct request d ∧ Asked config lower handler.offered request true ∧
      Split handler.offered request (sent (Direct.client d)) ∧ Exchanged request d
  | standing => ∃ request, handler.stage = .handed request ∧ Asked config lower handler.offered request false ∧
    Stands r h (.viaMuxWithTimeout request) standing

theorem Ran.split {offered : Source UInt8} {request : ProxyRequest} {d : EchoProxy.Direct}
    (ran : Ran offered request d)
    (start : offered.position = 0) : Split offered request (sent (Direct.client d)) := by
  obtain ⟨bytes, position, arrived, fails⟩ := offered
  cases start
  obtain ⟨-, left, parsed, front⟩ := ran
  obtain ⟨surplus, split, ends⟩ := HttpRelay.localRequest_splits parsed
  exact ⟨surplus, left.rest, split, front, ends⟩

/-- Every connection that the HTTP listener accepts goes where the request at its front
says, and nowhere else: the host it names, directly or through one tunnel as the routing
rules decide. -/
theorem http_served (socks : Bool) (config : RoutingConfig) (lower : Lowercase) (s : EchoProxy.HttpReception)
    (run : (httpSystem socks config lower).Reachable s) :
    ∀ (h : Nat) id standing, s.reception.proxy.listeners.accepted[h]? = some ⟨id, .http, standing⟩ →
      ∃ handler, s.handlers h = some handler ∧ Served config lower s.reception h handler standing := by
  have valid := attended run
  intro h id standing accepted
  have here : Placed s.reception .http h standing := ⟨id, accepted⟩
  obtain ⟨⟨offered, stage⟩, found⟩ := valid.present h standing here
  obtain ⟨start, followed⟩ := valid.known h _ found
  refine ⟨⟨offered, stage⟩, found, ?_⟩
  cases stage with
  | parsing =>
    cases here.unique followed
    exact .inl rfl
  | returned =>
    cases here.unique followed.1
    exact .inl ⟨rfl, followed.2⟩
  | direct request d =>
    obtain ⟨placed, asked, ran⟩ := followed
    cases here.unique placed
    exact .inr ⟨request, d, rfl, asked, ran.split start, (Direct.attends ran.1).fronts⟩
  | looking request =>
    cases here.unique followed.1
    exact .inr ⟨request, rfl⟩
  | handed request =>
    obtain ⟨asked, other, placed, stands, further⟩ := followed
    cases here.unique placed
    cases standing with
    | parsing => exact absurd rfl further.1
    | elsewhere => exact absurd rfl further.2
    | unavailable | tunnelled => exact ⟨request, rfl, asked, stands⟩

private def getBytes (host : String) : Bytes := asBytes ("GET / HTTP/1.1\r\nHost: " ++ host ++ "\r\n\r\n")

private def bypassing : RoutingConfig := ⟨[], [⟨"a".toList, none⟩], none, []⟩

private def accepting (host : String) : HttpAction := .accept (getBytes host) (fun _ => 8191) false

/-- A connection for a host with a bypass rule, one for another host and one without a
request. -/
private def threeConnections : List HttpAction :=
  [.other (.proxy (.keeper (.obtained "t"))), .other (.proxy (.keeper .connected)),
    .other (.proxy (.keeper .greeted)),
    accepting "a", accepting "b", .accept [0xff, 10] (fun _ => 0) false, .parse 0, .parse 1, .parse 2,
    .direct 0 .connected,
    .direct 0 (.write 20), .look 1]

private def standings (s : EchoProxy.HttpReception) : List (Listener × Standing) :=
  s.reception.proxy.listeners.accepted.map fun connection => (connection.listener, connection.standing)

theorem three_served : ∃ s, (httpSystem true bypassing asciiLowercase).Reachable s ∧
    standings s = [(.http, .elsewhere), (.http, .tunnelled 0 0), (.http, .elsewhere)] ∧
    ∀ (h : Nat) id standing, s.reception.proxy.listeners.accepted[h]? = some ⟨id, .http, standing⟩ →
      ∃ handler, s.handlers h = some handler ∧
        Served bypassing asciiLowercase s.reception h handler standing := by
  have executed : ((httpSystem true bypassing asciiLowercase).exec (HttpReception.fresh true) threeConnections).any (fun s =>
      decide (standings s = [(.http, .elsewhere), (.http, .tunnelled 0 0), (.http, .elsewhere)])) = true :=
        by decide +kernel
  obtain ⟨s, run, view⟩ := Transition.System.reached executed rfl
  exact ⟨s, run, of_decide_eq_true view, http_served true bypassing asciiLowercase s run⟩

end EchoProxy.Proofs.HttpReception
