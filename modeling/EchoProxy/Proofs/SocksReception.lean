import EchoProxy.Proofs.DirectRelay
import EchoProxy.Proofs.FrontEnd

/-! Where the connections of the SOCKS5 listener go. The address of the request at the front of
a connection decides, as the host of a request does for the HTTP listener. -/

namespace EchoProxy.Proofs.SocksReception
open EchoProxy Dialogue Transition FrontEnd Socks StreamEnd DirectRelay
variable {config : RoutingConfig} {lower : Lowercase}

/-! ### Requests -/

/-- The request is at the front of the connection and was read, and the routing rules decide
about its address as said. -/
structure Asked (config : RoutingConfig) (lower : Lowercase) (offered : Peer UInt8) (request : Request)
    (direct : Bool) : Prop where
  front : request.bytes <+: offered.source.rest
  read : (parseSocks5Request offered).1 = some request.text
  decided : config.shouldBypass lower (splitHostPort request.text).1 (splitHostPort request.text).2 = direct

/-- No request is at the front of the connection, unless the method selection failed. -/
def Unasked (offered : Peer UInt8) : Prop := offered.writable = true →
    ∀ request : Request, ¬ request.bytes <+: offered.source.rest

/-- Without the method selection no request is read. -/
private theorem parse_needs : NeedsReply parseSocks5Request := by
  refine NeedsReply.bind (.read 2 fun hdr => .ite (.read _ fun methods => ?_) .giveUp) _
  exact .ite (.writeAll _) (.refuse _)

private theorem handle_parse {offered left : Peer UInt8} {result : Option (List Char × Bool)}
    (parsed : handleSocksConnection config lower offered = (result, left)) :
    parseSocks5Request offered = (result.map Prod.fst, left) ∧
      ∀ host direct, result = some (host, direct) →
        config.shouldBypass lower (splitHostPort host).1 (splitHostPort host).2 = direct := by
  simp only [handleSocksConnection, bind] at parsed
  split at parsed
  · next host peer found =>
    cases parsed
    refine ⟨found, ?_⟩
    intro host direct same
    cases same
    rfl
  · next peer found =>
    cases parsed
    exact ⟨found, fun _ _ same => by cases same⟩

theorem asked_of_parsed {offered left : Peer UInt8} {host : List Char} {direct : Bool}
    (parsed : handleSocksConnection config lower offered = (some (host, direct), left)) :
    ∃ request, host = request.text ∧ Asked config lower offered request direct ∧
      left = offered.after request.bytes.length [5, 0] := by
  obtain ⟨read, decided⟩ := handle_parse parsed
  cases writable : offered.writable with
  | false =>
    have unread := parse_needs offered writable
    rw [read] at unread
    cases unread
  | true =>
    obtain ⟨word, front, ⟨request, rfl, rfl⟩, moved⟩ := (parse_reads offered writable host left).mp read
    exact ⟨request, rfl, ⟨front, congrArg Prod.fst read, decided _ _ rfl⟩, moved⟩

theorem unasked_of_refused {offered left : Peer UInt8}
    (refused : handleSocksConnection config lower offered = (none, left)) :
    Unasked offered := by
  intro writable request front
  obtain ⟨read, -⟩ := handle_parse refused
  have accepted := (parse_reads offered writable request.text _).mpr ⟨request.bytes, front,
    ⟨request, rfl, rfl⟩, rfl⟩
  rw [read] at accepted
  cases accepted

theorem Asked.writable {offered : Peer UInt8} {request : Request} {direct : Bool}
    (asked : Asked config lower offered request direct) :
    offered.writable = true := by
  by_contra broken
  have unread := parse_needs offered (Bool.eq_false_iff.mpr broken)
  rw [asked.read] at unread
  cases unread

/-! ### Handlers -/

section handlers
variable {s s' : EchoProxy.SocksReception}

/-- What has become of a connection that was accepted with nothing written. -/
def Followed (config : RoutingConfig) (lower : Lowercase) (r : Reception) (h : Nat) : SocksHandler → Prop
  | ⟨offered, peer, stage⟩ => offered.written = [] ∧
    match stage with
    | .parsing => Placed r .socks5 h .parsing ∧ peer = offered
    | .returned => Placed r .socks5 h .elsewhere ∧
        (Unasked offered ∨ ∃ request, Asked config lower offered request true ∧
      peer.written = [5, 0] ++ socks5Reply socks5RepGeneralFailure)
    | .dialing host => Placed r .socks5 h .elsewhere ∧ ∃ request, host = request.text ∧
        Asked config lower offered request true ∧
      peer = offered.after request.bytes.length [5, 0]
    | .relaying relay => Placed r .socks5 h .elsewhere ∧ relayTcpSystem.Reachable relay ∧ ∃ request,
      Asked config lower offered request true ∧ peer.written = [5, 0] ++ socks5Reply socks5RepSuccess
    | .looking host => Placed r .socks5 h .parsing ∧ ∃ request, host = request.text ∧
        Asked config lower offered request false ∧
      peer.written = [5, 0]
    | .handed => ∃ request, Asked config lower offered request false ∧ peer.written = [5, 0] ∧
        ∃ standing, Placed r .socks5 h standing ∧
      Stands r h (.socksViaMuxWithTimeout (String.ofList request.text)) standing ∧ standing ≠ .parsing ∧
      standing ≠ .elsewhere

def Attended (config : RoutingConfig) (lower : Lowercase) (s : EchoProxy.SocksReception) : Prop :=
  Attends .socks5 (Followed config lower) s.reception s.handlers

private theorem followed_stable : Stable (Followed config lower) := by
  intro r r' action h ⟨offered, peer, stage⟩ taken other ⟨new, followed⟩
  refine ⟨new, ?_⟩
  cases stage with
  | parsing | returned | dialing host | relaying relay | looking host =>
      exact ⟨followed.1.step taken other, followed.2⟩
  | handed =>
    obtain ⟨request, asked, told, standing, before, stands, further⟩ := followed
    exact ⟨request, asked, told, standing, before.step taken other, stands.step taken, further⟩

private theorem answer_told {offered : Peer UInt8} {request : Request} {direct : Bool}
    (new : offered.written = []) (asked : Asked config lower offered request direct) (reply : Bytes) :
    (writeAll reply (offered.after request.bytes.length [5, 0])).2.written = [5, 0] ++ reply := by
  simp [writeAll, Peer.after, asked.writable, new]

/-- A step of the program outside the handlers decides nothing for them. -/
private theorem not_decided {action : ReceptionAction} (foreign : s.owns action = false) {h : Nat}
    {handler : SocksHandler} (found : s.handlers h = some handler) : ¬ decides h action := by
  intro decided
  cases action with
  | proxy action =>
    cases action with
    | depart i | snapshot i =>
      cases decided
      simp [EchoProxy.SocksReception.owns, found] at foreign
    | _ => cases decided
  | reply | socket => cases decided

private theorem Attended.other {action : ReceptionAction} (valid : Attended config lower s)
    (taken : s.step config lower (.other action) = some s') : Attended config lower s' := by
  obtain ⟨foreign, taken⟩ := Option.ite_none_left_eq_some.mp taken
  obtain ⟨reception, stepped, rfl⟩ := Option.map_eq_some_iff.mp taken
  have apart := Bool.eq_false_iff.mpr foreign
  refine valid.moved followed_stable stepped ?_ fun h handler found => not_decided apart found
  rintro rfl
  cases apart

theorem look_effect {h : Nat} (taken : s.step config lower (.look h) = some s') : ∃ offered peer host reception,
    s.handlers h = some ⟨offered, peer, .looking host⟩ ∧
      s.reception.step (.proxy (.snapshot h (.socksViaMuxWithTimeout (String.ofList host)))) = some reception ∧
        s' = { s with reception }.set h ⟨offered, peer, .handed⟩ := by
  unfold EchoProxy.SocksReception.step at taken
  dsimp only at taken
  split at taken
  · next offered peer host found =>
    obtain ⟨reception, stepped, rfl⟩ := Option.map_eq_some_iff.mp taken
    exact ⟨offered, peer, host, reception, found, stepped, rfl⟩
  · cases taken

private theorem Attended.look {h : Nat} (valid : Attended config lower s)
    (taken : s.step config lower (.look h) = some s') :
    Attended config lower s' := by
  obtain ⟨offered, peer, host, reception, found, stepped, rfl⟩ := look_effect taken
  obtain ⟨new, parsing, request, rfl, asked, told⟩ := valid.known h _ found
  obtain ⟨standing, placed, stands⟩ := looked stepped parsing
  exact valid.proceeds followed_stable stepped (by simp) (fun i decided => decided.symm)
    ⟨new, request, asked, told, standing, placed, stands⟩

theorem Attended.step {action : SocksAction} (valid : Attended config lower s)
    (taken : s.step config lower action = some s') :
    Attended config lower s' := by
  have before {h : Nat} {handler : SocksHandler} (found : s.handlers h = some handler) :=
    valid.known h handler found
  cases SocksReplies.socks_effect taken with
  | other => exact valid.other taken
  | look => exact valid.look taken
  | accept stepped => exact valid.accept followed_stable stepped fun placed => ⟨rfl, placed, rfl⟩
  | refused found parsed stepped =>
    obtain ⟨new, parsing, rfl⟩ := before found
    exact valid.proceeds followed_stable stepped (by simp) (fun i decided => decided.symm)
      ⟨new, departed stepped parsing, .inl (unasked_of_refused parsed)⟩
  | direct found parsed stepped =>
    obtain ⟨new, parsing, rfl⟩ := before found
    exact valid.proceeds followed_stable stepped (by simp) (fun i decided => decided.symm)
      ⟨new, departed stepped parsing, asked_of_parsed parsed⟩
  | proxied found parsed =>
    obtain ⟨new, parsing, rfl⟩ := before found
    obtain ⟨request, same, asked, rfl⟩ := asked_of_parsed parsed
    exact valid.goes ⟨new, parsing, request, same, asked, by simp [Peer.after, new]⟩
  | connected found =>
    obtain ⟨new, placed, request, -, asked, rfl⟩ := before found
    exact valid.goes ⟨new, placed, .init ⟨⟨rfl, rfl⟩, ⟨rfl, rfl⟩, rfl, rfl⟩, request, asked,
      answer_told new asked _⟩
  | unconnected found =>
    obtain ⟨new, placed, request, -, asked, rfl⟩ := before found
    exact valid.goes ⟨new, placed, .inr ⟨request, asked, answer_told new asked _⟩⟩
  | relay found stepped =>
    obtain ⟨new, placed, run, told⟩ := before found
    exact valid.goes ⟨new, placed, run.step trivial stepped, told⟩

theorem attended (run : (socksSystem config lower).Reachable s) : Attended config lower s := by
  refine run.invariant (p := Attended config lower) ?_ fun _ _ _ _ valid _ taken => valid.step taken
  rintro s rfl
  exact .fresh

/-- The handler of a tunnelled connection has asked for the tunnel. -/
theorem tunnelled_asked (run : (socksSystem config lower).Reachable s) {h conn k : Nat}
    (placed : Placed s.reception .socks5 h (.tunnelled conn k)) : ∃ offered peer request,
      s.handlers h = some ⟨offered, peer, .handed⟩ ∧ Asked config lower offered request false ∧
      peer.written = [5, 0] ∧
        Carries s.reception.proxy.conns conn k (.socksViaMuxWithTimeout (String.ofList request.text)) := by
  have valid := attended run
  obtain ⟨⟨offered, peer, stage⟩, found⟩ := valid.present h _ placed
  obtain ⟨-, followed⟩ := valid.known h _ found
  cases stage with
  | parsing | returned | dialing | relaying | looking => cases placed.unique followed.1
  | handed =>
    obtain ⟨request, asked, told, other, there, stands, -⟩ := followed
    cases placed.unique there
    exact ⟨offered, peer, request, found, asked, told, stands⟩

end handlers

/-! ### Where a connection goes -/

/-- The direct route to the address of a request, and what the client has been told. -/
inductive DirectRoute (request : Request) : SocksHandler → Prop where
  | dialing {handler} (stage : handler.stage = .dialing request.text)
      (told : handler.peer.written = [5, 0]) : DirectRoute request handler
  | failed {handler} (stage : handler.stage = .returned)
      (told : handler.peer.written = [5, 0] ++ socks5Reply socks5RepGeneralFailure) :
    DirectRoute request handler
  | relaying {handler relay} (stage : handler.stage = .relaying relay)
      (told : handler.peer.written = [5, 0] ++ socks5Reply socks5RepSuccess)
      (fronts : ∀ direction : Direction, (direction.target relay).written <+: sent (direction.source relay)) :
    DirectRoute request handler

/-- What becomes of a connection, by where it stands: nothing yet; no request and so no
connection made; one direct connection; or the one tunnel to the address of the request. -/
def Served (config : RoutingConfig) (lower : Lowercase) (r : Reception) (h : Nat) (handler : SocksHandler) :
    Standing → Prop
  | .parsing => handler.stage = .parsing ∨ ∃ request, handler.stage = .looking request.text ∧
      Asked config lower handler.offered request false
  | .elsewhere => (handler.stage = .returned ∧ Unasked handler.offered) ∨
    ∃ request, Asked config lower handler.offered request true ∧ DirectRoute request handler
  | standing => ∃ request, handler.stage = .handed ∧ Asked config lower handler.offered request false ∧
      handler.peer.written = [5, 0] ∧
    Stands r h (.socksViaMuxWithTimeout (String.ofList request.text)) standing

private def bypassing : RoutingConfig := ⟨[], [⟨['a'], none⟩], none, []⟩

private def accepting (bytes : Bytes) : SocksAction :=
  .accept ⟨bytes, 0, fun position => position % 3, false⟩ true

/-- A connection for a host with a bypass rule, one for another host and one of an older
version. -/
private def threeConnections : List SocksAction :=
  [.other (.proxy (.keeper (.obtained "t"))), .other (.proxy (.keeper .connected)),
    .other (.proxy (.keeper .greeted)),
    accepting [5, 1, 0, 5, 1, 0, 3, 1, 97, 0, 80], accepting [5, 1, 0, 5, 1, 0, 3, 1, 98, 0, 80],
    accepting [4, 1], .parse 0, .parse 1,
    .parse 2, .connected 0, .relay 0 (.b (.arrive [7])), .look 1]

private def standings (s : EchoProxy.SocksReception) : List (Listener × Standing) :=
  s.reception.proxy.listeners.accepted.map fun connection => (connection.listener, connection.standing)

end EchoProxy.Proofs.SocksReception
