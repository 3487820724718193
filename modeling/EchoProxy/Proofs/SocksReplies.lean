import EchoProxy.SocksReception
import EchoProxy.Proofs.Replies
import EchoProxy.Proofs.Socks
import EchoProxy.Proofs.StreamEnd

/-! What a SOCKS5 client is told before its connection is closed. Its request may be
malformed in several ways; for all but one of them there is a reply. -/

namespace EchoProxy.Proofs.SocksReplies
open EchoProxy Dialogue StreamFlow HandlerFlow EndpointSteps ClientSteps ProxySteps ProxyInvariant WireFormat Socks Replies Places

/-! ### Exchanges -/

/-- The address of a request as it stands, whether or not anything can be made of it. -/
inductive RawAddress where
  | ipv4 (octets : Bytes) (four : octets.length = 4)
  | ipv6 (octets : Bytes) (sixteen : octets.length = 16)
  | domain (name : Bytes) (short : name.length < 256)
  | other (atyp : UInt8) (unknown : atyp ≠ 1 ∧ atyp ≠ 3 ∧ atyp ≠ 4) (bytes : Bytes)

namespace RawAddress

def atyp : RawAddress → UInt8
  | ipv4 _ _ => 1
  | ipv6 _ _ => 4
  | domain _ _ => 3
  | other atyp _ _ => atyp

def bytes : RawAddress → Bytes
  | ipv4 octets _ => octets
  | ipv6 octets _ => octets
  | domain name _ => UInt8.ofNat name.length :: name
  | other _ _ bytes => bytes

/-- What the parser answers to the address of a CONNECT that it gives up on. -/
def refusal : RawAddress → Option Bytes
  | ipv4 _ _ | ipv6 _ _ => none
  | domain name _ => if fromUtf8 name = none then some [] else none
  | other _ _ _ => some (socks5Reply socks5RepAtypNotSupported)

end RawAddress

/-- A complete exchange of version 5. Where NO_AUTH is not among the methods there is no
request. -/
inductive Exchange where
  | declined (methods : Bytes) (few : methods.length < 256) (unoffered : 0 ∉ methods)
  | asked (methods : Bytes) (few : methods.length < 256) (offered : 0 ∈ methods) (cmd rsv : UInt8) (address : RawAddress)
    (port : UInt16)

namespace Exchange

def bytes : Exchange → Bytes
  | declined methods _ _ => greetingBytes methods
  | asked methods _ _ cmd rsv address port =>
    greetingBytes methods ++ (5 :: cmd :: rsv :: address.atyp :: (address.bytes ++ portBytes port))

/-- A CONNECT to a name that is not UTF-8. -/
def Unprintable : Exchange → Prop
  | asked _ _ _ cmd _ (.domain name _) _ => cmd = socks5CmdConnect ∧ fromUtf8 name = none
  | _ => False

/-- All that the parser writes when it gives up. -/
def refusal : Exchange → Option Bytes
  | declined _ _ _ => some [5, 0xff]
  | asked _ _ _ cmd _ address _ =>
    (if cmd = socks5CmdConnect then address.refusal else some (socks5Reply socks5RepCmdNotSupported)).map ([5, 0] ++ ·)

end Exchange

/-! ### The parser -/

theorem greeting_declined {methods : Bytes} (few : methods.length < 256) (unoffered : 0 ∉ methods) :
    Refuses readGreeting (greetingBytes methods) [5, 0xff] := by
  have whole : Refuses readGreeting ([5, UInt8.ofNat methods.length] ++ (methods ++ [])) [5, 0xff] := by
    have version : ([5, UInt8.ofNat methods.length] : Bytes)[0]? = some socks5Version := rfl
    unfold readGreeting
    apply Refuses.exact rfl
    rw [if_pos version]
    apply Refuses.exact (UInt8.toNat_ofNat_of_lt' few).symm
    have absent : socks5AuthNoAuth ∉ methods := unoffered
    rw [if_neg absent]
    exact Refuses.refuse [] _
  simpa [greetingBytes] using whole

/-- After the method selection the parser goes on to the request. -/
theorem request_refused {methods : Bytes} (few : methods.length < 256) (offered : 0 ∈ methods) {cmd rsv atyp : UInt8}
    {more reply : Bytes} (rest : Refuses (if cmd = socks5CmdConnect then (do
        let host ← readHost atyp
        let portBytes ← readExact 2
        pure (host ++ ':' :: Nat.toDigits 10 (u16FromBeBytes portBytes).toNat) : Program UInt8 (List Char))
      else refuse (socks5Reply socks5RepCmdNotSupported)) more reply) :
    Refuses parseSocks5Request (greetingBytes methods ++ (5 :: cmd :: rsv :: atyp :: more)) ([5, 0] ++ reply) := by
  unfold parseSocks5Request
  have version : ([5, cmd, rsv, atyp] : Bytes)[0]? = some socks5Version := rfl
  have header : Refuses (do
      let req ← readExact 4
      if req[0]? = some socks5Version then
        if req[1]? = some socks5CmdConnect then do
          let host ← readHost (req[3]?.getD 0)
          let portBytes ← readExact 2
          pure (host ++ ':' :: Nat.toDigits 10 (u16FromBeBytes portBytes).toNat)
        else refuse (socks5Reply socks5RepCmdNotSupported)
      else giveUp : Program UInt8 (List Char)) ([5, cmd, rsv, atyp] ++ more) reply := by
    apply Refuses.exact rfl
    rw [if_pos version]
    simpa using rest
  exact Refuses.later readGreeting_reads () ⟨methods, few, offered, rfl⟩ header

private theorem readHost_unknown {atyp : UInt8} (unknown : atyp ≠ 1 ∧ atyp ≠ 3 ∧ atyp ≠ 4) (word : Bytes) :
    Refuses (readHost atyp) word (socks5Reply socks5RepAtypNotSupported) := by
  have four : atyp ≠ socks5AtypIpv4 := unknown.1
  have name : atyp ≠ socks5AtypDomain := unknown.2.1
  have six : atyp ≠ socks5AtypIpv6 := unknown.2.2
  unfold readHost
  rw [if_neg four, if_neg six, if_neg name]
  exact Refuses.refuse word _

private theorem readHost_unprintable {name : Bytes} (short : name.length < 256) (invalid : fromUtf8 name = none) :
    Refuses (readHost socks5AtypDomain) (UInt8.ofNat name.length :: name) [] := by
  have whole : Refuses (readHost socks5AtypDomain) ([UInt8.ofNat name.length] ++ (name ++ [])) [] := by
    unfold readHost
    rw [if_neg (by decide), if_neg (by decide), if_pos rfl]
    apply Refuses.exact rfl
    apply Refuses.exact (UInt8.toNat_ofNat_of_lt' short).symm
    simp only [invalid]
    exact Refuses.giveUp []
  simpa using whole

theorem exchange_refused {exchange : Exchange} {reply : Bytes} (refused : exchange.refusal = some reply) :
    Refuses parseSocks5Request exchange.bytes reply := by
  cases exchange with
  | declined methods few unoffered =>
    cases refused
    exact Refuses.bind (greeting_declined few unoffered) _
  | asked methods few offered cmd rsv address port =>
    obtain ⟨answer, chosen, rfl⟩ := Option.map_eq_some_iff.mp refused
    apply request_refused few offered
    by_cases connect : cmd = socks5CmdConnect
    · rw [if_pos connect] at chosen ⊢
      cases address with
      | ipv4 | ipv6 => cases chosen
      | other atyp unknown bytes =>
        cases chosen
        exact ((readHost_unknown unknown bytes).bind _).extend _
      | domain name short =>
        obtain ⟨invalid, same⟩ := Option.ite_none_right_eq_some.mp chosen
        cases same
        exact ((readHost_unprintable short invalid).bind _).extend _
    · rw [if_neg connect] at chosen ⊢
      cases chosen
      exact Refuses.refuse _ _

private theorem four_octets {octets : Bytes} (four : octets.length = 4) : ∃ ip, octets = ipv4Octets ip := by
  obtain ⟨a, b, c, d, rfl⟩ := List.length_eq_four.mp four
  exact ⟨⟨a, b, c, d⟩, rfl⟩

private theorem sixteen_octets {octets : Bytes} (sixteen : octets.length = 16) : ∃ ip, octets = ipv6Octets ip := by
  have made : ∃ ip, Ipv6Addr.ofOctets octets = some ip := by
    rw [Ipv6Addr.ofOctets, dif_pos sixteen]
    exact ⟨_, rfl⟩
  obtain ⟨ip, made⟩ := made
  exact ⟨ip, ipv6_ofOctets.mp made⟩

/-- An address that is not refused can be printed. -/
private theorem address_printed {address : RawAddress} (accepted : address.refusal = none) :
    ∃ printed : Address, printed.atyp = address.atyp ∧ printed.bytes = address.bytes := by
  cases address with
  | ipv4 octets four =>
    obtain ⟨ip, rfl⟩ := four_octets four
    exact ⟨.ipv4 ip, rfl, rfl⟩
  | ipv6 octets sixteen =>
    obtain ⟨ip, rfl⟩ := sixteen_octets sixteen
    exact ⟨.ipv6 ip, rfl, rfl⟩
  | domain name short =>
    have valid : fromUtf8 name ≠ none := fun invalid => by simp [RawAddress.refusal, invalid] at accepted
    obtain ⟨text, decoded⟩ := Option.ne_none_iff_exists'.mp valid
    have printed := asBytes_of_fromUtf8 decoded
    subst printed
    exact ⟨.domain text short, rfl, rfl⟩
  | other => cases accepted

theorem exchange_accepted {exchange : Exchange} (accepted : exchange.refusal = none) :
    ∃ request : Request, exchange.bytes = request.bytes := by
  cases exchange with
  | declined => cases accepted
  | asked methods few offered cmd rsv address port =>
    have request := Option.map_eq_none_iff.mp accepted
    by_cases connect : cmd = socks5CmdConnect
    · rw [if_pos connect] at request
      obtain ⟨printed, type, encoded⟩ := address_printed request
      refine ⟨⟨methods, few, offered, rsv, printed, port⟩, ?_⟩
      rw [connect, Exchange.bytes, Request.bytes, type, encoded]
      simp [socks5CmdConnect]
    · rw [if_neg connect] at request
      cases request

/-! ### Tunnels

A handler's tunnel is one of its listener, in the streams of the connections and among
the handlers that were turned away. -/

variable {socks : Bool} {p p' : Resilient} {r r' : Reception}

def IsOf (listener : Listener) (s : Stream Handler) : Prop := s.front.tunnel.listener = listener

theorem endpoint_keeps {e e' : Endpoint Handler} {action} (effect : EndpointEffect e action e') {k : Nat} {listener : Listener}
    (there : ∃ s, e.streams[k]? = some s ∧ IsOf listener s) : ∃ s, e'.streams[k]? = some s ∧ IsOf listener s := by
  cases effect with
  | pop | put | putFail => exact there
  | stream found _ stepped | sent found _ _ stepped | unsent found _ _ stepped | finish found _ stepped
  | route _ found stepped | unregister found stepped =>
    refine exists_set found (fun own => ?_) there
    unfold IsOf
    rw [stepped.same.2]
    exact own

theorem client_stream {c c' : Client} {action : ClientAction} (effect : ClientEffect c action c') {k : Nat} {listener : Listener}
    (there : ∃ s, c.streams[k]? = some s ∧ IsOf listener s) : ∃ s, c'.streams[k]? = some s ∧ IsOf listener s := by
  cases effect with
  | endpoint effect => exact endpoint_keeps effect there
  | accept =>
    obtain ⟨s, found, own⟩ := there
    exact ⟨s, append_found found _, own⟩
  | register found stepped | insertAck found stepped | leave found stepped | sent found _ _ _ stepped
  | unsent found _ _ _ stepped | ackLost found _ stepped | handler found _ stepped | acked _ _ _ _ found stepped =>
    refine exists_set found (fun own => ?_) there
    unfold IsOf
    rw [stepped.same.2.1]
    exact own
  | routing _ _ _ _ found stepped =>
    refine exists_set found (fun own => ?_) there
    unfold IsOf
    rw [stepped.same.2]
    exact own
  | _ => exact there

/-- Stream `k` of connection `conn` is the tunnel of a handler of the listener. -/
def Serves (conns : List Client) (conn k : Nat) (listener : Listener) : Prop :=
  ∃ c, conns[conn]? = some c ∧ ∃ s, c.streams[k]? = some s ∧ IsOf listener s

theorem Serves.moved {conn j k : Nat} {listener : Listener} {action : ClientAction} {conns : List Client}
    (moved : ConnStep p conn action conns) (serves : Serves p.conns j k listener) : Serves conns j k listener := by
  obtain ⟨there, stepped⟩ := moved
  exact exists_set there (client_stream (client_effect stepped)) serves

theorem Serves.step {conn k : Nat} {listener : Listener} {action : ResilientAction} (serves : Serves p.conns conn k listener)
    (effect : ResilientEffect p action p') : Serves p'.conns conn k listener := by
  cases effect with
  | accept | halted | departed | unavailable => exact serves
  | tunnelled _ _ _ moved | handler _ moved | loop moved => exact serves.moved moved
  | keeper effect =>
    cases effect with
    | obtained | unobtained | slept | unconnected | empty | stopped => exact serves
    | connected =>
      obtain ⟨c, there, stream⟩ := serves
      exact ⟨c, append_found there _, stream⟩
    | greeted _ moved | ungreeted _ moved | took _ _ _ moved | clear _ moved | close _ moved => exact serves.moved moved

/-- The tunnel a handler asks for is one of its listener. -/
theorem snapshot_listener {h : Nat} {tunnel : Tunnel} (taken : p.step (.snapshot h tunnel) = some p') :
    ∃ id, p.listeners.accepted[h]? = some ⟨id, tunnel.listener, .parsing⟩ := by
  simp only [Resilient.step] at taken
  split at taken
  · next id listener found =>
    obtain ⟨⟨same, -⟩, -⟩ := Option.ite_none_right_eq_some.mp taken
    exact ⟨id, by rw [found, same]⟩
  · cases taken

/-- A handler keeps its listener, and where it stands once it has looked at the slot. -/
theorem accepted_kept {h : Nat} {id : StreamId} {listener : Listener} {standing : Standing} {action : ResilientAction}
    (effect : ResilientEffect p action p') (found : p.listeners.accepted[h]? = some ⟨id, listener, standing⟩) :
    ∃ later, p'.listeners.accepted[h]? = some ⟨id, listener, later⟩ ∧ (standing ≠ .parsing → later = standing) := by
  have settles {i : Nat} {own : StreamId} {which : Listener} {now : Standing}
      (parsing : p.listeners.accepted[i]? = some ⟨own, which, .parsing⟩) :
      ∃ later, (p.listeners.settle i now).accepted[h]? = some ⟨id, listener, later⟩ ∧ (standing ≠ .parsing → later = standing) := by
    by_cases same : h = i
    · subst same
      cases found.symm.trans parsing
      exact ⟨now, settle_own found, fun further => absurd rfl further⟩
    · exact ⟨standing, (settle_other same).trans found, fun _ => rfl⟩
  cases effect with
  | accept => exact ⟨standing, append_found found _, fun _ => rfl⟩
  | departed parsing | unavailable parsing | tunnelled parsing => exact settles parsing
  | halted | handler | loop => exact ⟨standing, found, fun _ => rfl⟩
  | keeper effect => cases effect <;> exact ⟨standing, found, fun _ => rfl⟩

structure Listens (r : Reception) : Prop where
  turned : ∀ h s, (h, s) ∈ r.turned → ∃ id, r.proxy.listeners.accepted[h]? = some ⟨id, s.front.tunnel.listener, .unavailable⟩
  tunnelled : ∀ (h : Nat) id listener conn k, r.proxy.listeners.accepted[h]? = some ⟨id, listener, .tunnelled conn k⟩ →
    Serves r.proxy.conns conn k listener

theorem turnedAway_tunnel (id : StreamId) (tunnel : Tunnel) : (turnedAway id tunnel).front.tunnel = tunnel := by
  unfold turnedAway Stream.finishReply
  split <;> rfl

private theorem turned_kept {action : ResilientAction} (valid : Listens r) (taken : r.proxy.step action = some p') {h : Nat}
    {s : Stream Handler} (member : (h, s) ∈ r.turned ++ r.turns action) :
    ∃ id, p'.listeners.accepted[h]? = some ⟨id, s.front.tunnel.listener, .unavailable⟩ := by
  have effect := resilient_effect taken
  rcases List.mem_append.mp member with old | new
  · obtain ⟨id, found⟩ := valid.turned h s old
    obtain ⟨later, stays, same⟩ := accepted_kept effect found
    rw [same (by simp)] at stays
    exact ⟨id, stays⟩
  · cases action with
    | snapshot i tunnel =>
      obtain ⟨slot, new⟩ := List.mem_ite_nil_right.mp new
      obtain ⟨id, parsing⟩ := snapshot_listener taken
      simp only [parsing, Option.map_some, Option.toList_some, List.mem_singleton, Prod.mk.injEq] at new
      obtain ⟨rfl, rfl⟩ := new
      rw [turnedAway_tunnel]
      cases effect with
      | unavailable found =>
        cases parsing.symm.trans found
        exact ⟨id, settle_own found⟩
      | tunnelled _ occupied =>
        rw [slot] at occupied
        cases occupied
      | halted which => simp at which
    | _ => cases new

private theorem tunnelled_kept {action : ResilientAction} (valid : Listens r) (taken : r.proxy.step action = some p') {h : Nat}
    {id : StreamId} {listener : Listener} {conn k : Nat} (found : p'.listeners.accepted[h]? = some ⟨id, listener, .tunnelled conn k⟩) :
    Serves p'.conns conn k listener := by
  have effect := resilient_effect taken
  have kept (before : r.proxy.listeners.accepted[h]? = some ⟨id, listener, .tunnelled conn k⟩) : Serves p'.conns conn k listener :=
    (valid.tunnelled h id listener conn k before).step effect
  cases effect with
  | accept =>
    rcases append_cases found with ⟨-, same⟩ | before
    · cases same
    · exact kept before
  | departed | unavailable =>
    rcases settled found with ⟨-, same⟩ | before
    · cases same
    · exact kept before
  | tunnelled parsing _ there moved =>
    rcases settled found with ⟨rfl, same⟩ | before
    · cases same
      obtain ⟨own, asked⟩ := snapshot_listener taken
      rw [settle_own parsing] at found
      cases found
      cases parsing.symm.trans asked
      obtain ⟨there', stepped⟩ := moved
      cases there.symm.trans there'
      cases client_effect stepped with
      | accept => exact ⟨_, set_found there _, _, List.getElem?_concat_length, rfl⟩
    · exact kept before
  | halted | handler | loop => exact kept found
  | keeper effect => cases effect <;> exact kept found

/-- A step of a handler that was turned away leaves its tunnel and the others alone. -/
private theorem Listens.aside {i : Nat} {isLocal : Bool} {change : Stream Handler → Option (Stream Handler)} (valid : Listens r)
    (taken : (if isLocal then r.modify i change else none) = some r')
    (keeps : ∀ s s', change s = some s' → s'.front.tunnel = s.front.tunnel) : Listens r' := by
  obtain ⟨-, modified, proxy, -⟩ := Replies.aside taken
  obtain ⟨⟨h, s⟩, found, modified⟩ := Option.bind_eq_some_iff.mp modified
  obtain ⟨s', changed, rfl⟩ := Option.map_eq_some_iff.mp modified
  refine ⟨?_, valid.tunnelled⟩
  intro j t member
  rcases List.mem_or_eq_of_mem_set member with old | same
  · exact valid.turned j t old
  · cases same
    rw [keeps s s' changed]
    exact valid.turned h s (List.mem_of_getElem? found)

theorem listens (run : (receptionSystem socks).Reachable r) : Listens r := by
  refine run.invariant (p := Listens) ?_ ?_
  · rintro r rfl
    constructor <;> simp [Reception.fresh, Resilient.fresh, Listeners.fresh]
  · intro before action after _ valid _ taken
    cases action with
    | proxy action =>
      obtain ⟨proxy, stepped, rfl⟩ := Option.map_eq_some_iff.mp taken
      exact ⟨fun h s member => turned_kept valid stepped member, fun h id listener conn k found => tunnelled_kept valid stepped found⟩
    | reply i move => exact valid.aside taken fun s s' stepped => (handlerStep_effect stepped).same.2.1
    | socket i move => exact valid.aside taken fun s s' stepped => by rw [(StreamFlow.step_effect stepped).same.2]

/-! ### Handlers -/

section handlers
variable {config : RoutingConfig} {lower : Lowercase} {s s' : SocksReception}

/-- The program's part in a step of a SOCKS5 handler. -/
inductive SocksEffect (config : RoutingConfig) (lower : Lowercase) (s : SocksReception) : SocksAction → SocksReception → Prop where
  | other {action reception} (stepped : s.reception.step action = some reception) :
    SocksEffect config lower s (.other action) { s with reception }
  | accept {source writable reception} (stepped : s.reception.step (.proxy (.accept .socks5)) = some reception) :
    SocksEffect config lower s (.accept source writable) ({ s with reception }.set s.reception.proxy.listeners.accepted.length
      ⟨⟨source, [], writable⟩, ⟨source, [], writable⟩, .parsing⟩)
  | refused {h offered peer left reception} (found : s.handlers h = some ⟨offered, peer, .parsing⟩)
      (parsed : handleSocksConnection config lower peer = (none, left))
      (stepped : s.reception.step (.proxy (.depart h)) = some reception) :
    SocksEffect config lower s (.parse h) ({ s with reception }.set h ⟨offered, left, .returned⟩)
  | direct {h offered peer left host reception} (found : s.handlers h = some ⟨offered, peer, .parsing⟩)
      (parsed : handleSocksConnection config lower peer = (some (host, true), left))
      (stepped : s.reception.step (.proxy (.depart h)) = some reception) :
    SocksEffect config lower s (.parse h) ({ s with reception }.set h ⟨offered, left, .dialing host⟩)
  | proxied {h offered peer left host} (found : s.handlers h = some ⟨offered, peer, .parsing⟩)
      (parsed : handleSocksConnection config lower peer = (some (host, false), left)) :
    SocksEffect config lower s (.parse h) (s.set h ⟨offered, left, .looking host⟩)
  | connected {h offered peer host} (found : s.handlers h = some ⟨offered, peer, .dialing host⟩) :
    SocksEffect config lower s (.connected h)
      (s.set h ⟨offered, (writeAll (socks5Reply socks5RepSuccess) peer).2, .relaying .fresh⟩)
  | unconnected {h offered peer host} (found : s.handlers h = some ⟨offered, peer, .dialing host⟩) :
    SocksEffect config lower s (.unconnected h)
      (s.set h ⟨offered, (writeAll (socks5Reply socks5RepGeneralFailure) peer).2, .returned⟩)
  | relay {h action offered peer relay relay'} (found : s.handlers h = some ⟨offered, peer, .relaying relay⟩)
      (stepped : relay.step action = some relay') :
    SocksEffect config lower s (.relay h action) (s.set h ⟨offered, peer, .relaying relay'⟩)
  | look {h offered peer host tunnel reception} (found : s.handlers h = some ⟨offered, peer, .looking host⟩)
      (stepped : s.reception.step (.proxy (.snapshot h tunnel)) = some reception) :
    SocksEffect config lower s (.look h) ({ s with reception }.set h ⟨offered, peer, .handed⟩)

theorem socks_effect {action : SocksAction} (taken : s.step config lower action = some s') : SocksEffect config lower s action s' := by
  unfold SocksReception.step at taken
  split at taken
  · split at taken
    · cases taken
    · obtain ⟨reception, stepped, rfl⟩ := Option.map_eq_some_iff.mp taken
      exact .other stepped
  · obtain ⟨reception, stepped, rfl⟩ := Option.map_eq_some_iff.mp taken
    exact .accept stepped
  · split at taken
    · next found =>
      split at taken
      · next parsed =>
        obtain ⟨reception, stepped, rfl⟩ := Option.map_eq_some_iff.mp taken
        exact .refused found parsed stepped
      · next parsed =>
        obtain ⟨reception, stepped, rfl⟩ := Option.map_eq_some_iff.mp taken
        exact .direct found parsed stepped
      · next parsed =>
        cases taken
        exact .proxied found parsed
    · cases taken
  · split at taken
    · next found => cases taken; exact .connected found
    · cases taken
  · split at taken
    · next found => cases taken; exact .unconnected found
    · cases taken
  · split at taken
    · next found =>
      obtain ⟨relay', stepped, rfl⟩ := Option.map_eq_some_iff.mp taken
      exact .relay found stepped
    · cases taken
  · split at taken
    · next found =>
      obtain ⟨reception, stepped, rfl⟩ := Option.map_eq_some_iff.mp taken
      exact .look found stepped
    · cases taken

/-- Writes to the local sockets succeed. -/
def answers : SocksAction → Bool
  | .other action => writes action
  | .accept _ writable => writable
  | _ => true

theorem reception_run (run : (socksSystem config lower).Reach (fun action => answers action = true) s) :
    (receptionSystem true).Reach (fun action => writes action = true) s.reception := by
  refine run.component SocksReception.reception ?_ ?_
  · rintro s rfl
    rfl
  · intro before action after works taken
    cases socks_effect taken with
    | other stepped => exact .inr ⟨_, works, stepped⟩
    | accept stepped => exact .inr ⟨.proxy (.accept .socks5), rfl, stepped⟩
    | refused _ _ stepped | direct _ _ stepped => exact .inr ⟨.proxy (.depart _), rfl, stepped⟩
    | look _ stepped => exact .inr ⟨.proxy (.snapshot _ _), rfl, stepped⟩
    | proxied | connected | unconnected | relay => exact .inl rfl

theorem reception_keeps {action : ReceptionAction} (stepped : r.step action = some r') {h : Nat} {id : StreamId} {listener : Listener}
    {standing : Standing} (found : r.proxy.listeners.accepted[h]? = some ⟨id, listener, standing⟩) :
    ∃ later, r'.proxy.listeners.accepted[h]? = some ⟨id, listener, later⟩ := by
  cases action with
  | proxy action =>
    obtain ⟨proxy, moved, rfl⟩ := Option.map_eq_some_iff.mp stepped
    obtain ⟨later, stays, -⟩ := accepted_kept (resilient_effect moved) found
    exact ⟨later, stays⟩
  | reply i move =>
    rw [← (aside stepped).2.2.1] at found
    exact ⟨standing, found⟩
  | socket i move =>
    rw [← (aside stepped).2.2.1] at found
    exact ⟨standing, found⟩

/-- What has become of a connection that was accepted with nothing written. -/
def Followed (config : RoutingConfig) (lower : Lowercase) : SocksHandler → Prop
  | ⟨offered, peer, stage⟩ => (offered.writable = true ∧ offered.written = []) ∧
    match stage with
    | .parsing => peer = offered
    | .dialing host => handleSocksConnection config lower offered = (some (host, true), peer)
    | .relaying relay => relayTcpSystem.Reachable relay ∧ ∃ host left,
      handleSocksConnection config lower offered = (some (host, true), left) ∧ peer = (writeAll (socks5Reply socks5RepSuccess) left).2
    | .looking host => handleSocksConnection config lower offered = (some (host, false), peer)
    | .handed => ∃ host, handleSocksConnection config lower offered = (some (host, false), peer)
    | .returned => handleSocksConnection config lower offered = (none, peer) ∨ ∃ host left,
      handleSocksConnection config lower offered = (some (host, true), left) ∧
        peer = (writeAll (socks5Reply socks5RepGeneralFailure) left).2

structure Attended (config : RoutingConfig) (lower : Lowercase) (s : SocksReception) : Prop where
  followed : ∀ h handler, s.handlers h = some handler → Followed config lower handler
  listener : ∀ h handler, s.handlers h = some handler →
    ∃ id standing, s.reception.proxy.listeners.accepted[h]? = some ⟨id, .socks5, standing⟩

theorem set_handlers {h j : Nat} {new handler : SocksHandler} (found : (s.set h new).handlers j = some handler) :
    j = h ∧ handler = new ∨ s.handlers j = some handler := by
  by_cases same : j = h
  · subst same
    simp only [SocksReception.set, Function.update_self, Option.some.injEq] at found
    exact .inl ⟨rfl, found.symm⟩
  · simp only [SocksReception.set, Function.update_of_ne same] at found
    exact .inr found

namespace Attended

private theorem moved {action : ReceptionAction} {reception : Reception} (valid : Attended config lower s)
    (stepped : s.reception.step action = some reception) : Attended config lower { s with reception } := by
  refine ⟨valid.followed, fun h handler found => ?_⟩
  obtain ⟨id, standing, accepted⟩ := valid.listener h handler found
  exact ⟨id, reception_keeps stepped accepted⟩

private theorem set {h : Nat} {new : SocksHandler} (valid : Attended config lower s) (followed : Followed config lower new)
    (listener : ∃ id standing, s.reception.proxy.listeners.accepted[h]? = some ⟨id, .socks5, standing⟩) :
    Attended config lower (s.set h new) := by
  constructor
  · intro j handler found
    rcases set_handlers found with ⟨-, rfl⟩ | old
    · exact followed
    · exact valid.followed j handler old
  · intro j handler found
    rcases set_handlers found with ⟨rfl, -⟩ | old
    · exact listener
    · exact valid.listener j handler old

private theorem goes {h : Nat} {handler new : SocksHandler} (valid : Attended config lower s) (found : s.handlers h = some handler)
    (followed : Followed config lower new) : Attended config lower (s.set h new) :=
  valid.set followed (valid.listener h handler found)

private theorem proceeds {h : Nat} {handler new : SocksHandler} {action : ReceptionAction} {reception : Reception}
    (valid : Attended config lower s) (found : s.handlers h = some handler) (stepped : s.reception.step action = some reception)
    (followed : Followed config lower new) : Attended config lower ({ s with reception }.set h new) :=
  (valid.moved stepped).goes found followed

private theorem step {action : SocksAction} (valid : Attended config lower s) (effect : SocksEffect config lower s action s')
    (works : answers action = true) : Attended config lower s' := by
  have before {h : Nat} {handler : SocksHandler} (found : s.handlers h = some handler) := valid.followed h handler found
  cases effect with
  | other stepped => exact valid.moved stepped
  | @accept source writable reception stepped =>
    refine (valid.moved stepped).set ⟨⟨works, rfl⟩, rfl⟩ ?_
    obtain ⟨proxy, moved, rfl⟩ := Option.map_eq_some_iff.mp stepped
    cases resilient_effect moved with
    | accept => exact ⟨_, _, List.getElem?_concat_length⟩
    | halted which => simp at which
  | refused found parsed stepped =>
    obtain ⟨new, rfl⟩ := before found
    exact valid.proceeds found stepped ⟨new, .inl parsed⟩
  | direct found parsed stepped =>
    obtain ⟨new, rfl⟩ := before found
    exact valid.proceeds found stepped ⟨new, parsed⟩
  | proxied found parsed =>
    obtain ⟨new, rfl⟩ := before found
    exact valid.goes found ⟨new, parsed⟩
  | connected found =>
    obtain ⟨new, parsed⟩ := before found
    exact valid.goes found ⟨new, .init ⟨⟨rfl, rfl⟩, ⟨rfl, rfl⟩, rfl, rfl⟩, _, _, parsed, rfl⟩
  | unconnected found =>
    obtain ⟨new, parsed⟩ := before found
    exact valid.goes found ⟨new, .inr ⟨_, _, parsed, rfl⟩⟩
  | relay found stepped =>
    obtain ⟨new, run, parsed⟩ := before found
    exact valid.goes found ⟨new, run.step trivial stepped, parsed⟩
  | look found stepped =>
    obtain ⟨new, parsed⟩ := before found
    exact valid.proceeds found stepped ⟨new, _, parsed⟩

end Attended

theorem attended (run : (socksSystem config lower).Reach (fun action => answers action = true) s) : Attended config lower s := by
  refine run.invariant (p := Attended config lower) ?_ ?_
  · rintro s rfl
    exact ⟨fun _ _ placed => (by cases placed), fun _ _ placed => (by cases placed)⟩
  · intro before action after _ valid works taken
    exact valid.step (socks_effect taken) works

/-! ### The relay -/

private theorem pump_front {pump pump' : Pump} {source target source' target' : Socket} {move : PumpMove}
    (taken : pump.step source target move = some (pump', source', target')) (valid : StreamEnd.Carried pump source target)
    (front : target.written <+: source.chunks.flatten) : target'.written <+: source'.chunks.flatten := by
  unfold Pump.step at taken
  split at taken
  · split at taken
    · cases taken
      rw [List.flatten_append]
      exact front.trans (List.prefix_append _ _)
    · cases taken
  · split at taken
    · cases taken
      exact front
    · cases taken
  · cases taken
    exact front
  · next rest count =>
    split at taken
    · cases taken
      refine ⟨rest.drop count, ?_⟩
      rw [List.append_assoc, List.take_append_drop]
      exact valid.2
    · cases taken
  · cases taken
    exact front
  · cases taken

/-- What the relay writes was read from the far end. -/
theorem relay_front {relay : RelayTcp} (run : relayTcpSystem.Reachable relay) : relay.a.written <+: relay.b.chunks.flatten := by
  refine run.invariant (p := fun relay => relay.a.written <+: relay.b.chunks.flatten) ?_ ?_
  · rintro relay ⟨-, ⟨-, written⟩, -⟩
    rw [written]
    exact List.nil_prefix
  · intro before action after prior front _ taken
    obtain ⟨up, down⟩ := StreamEnd.relay_carried prior
    cases action with
    | a move =>
      obtain ⟨socket, moved, rfl⟩ := Option.map_eq_some_iff.mp taken
      rw [(StreamEnd.peer_same moved).2]
      exact front
    | b move =>
      obtain ⟨socket, moved, rfl⟩ := Option.map_eq_some_iff.mp taken
      rw [(StreamEnd.peer_same moved).1]
      exact front
    | aToB move =>
      obtain ⟨⟨pump, source, target⟩, moved, rfl⟩ := Option.map_eq_some_iff.mp taken
      obtain ⟨-, written, chunks⟩ := StreamEnd.pump_carried moved up
      dsimp only
      rw [written, chunks]
      exact front
    | bToA move =>
      obtain ⟨⟨pump, source, target⟩, moved, rfl⟩ := Option.map_eq_some_iff.mp taken
      exact pump_front moved down front

/-! ### Complete exchanges -/

/-- One method selection and, where a method was acceptable, one reply, of code 0 for what
is established, with nothing after it but what came from the far end. -/
def AnsweredExchange (exchange : Exchange) (written came : Bytes) (established : Prop) : Prop :=
  match exchange with
  | .declined _ _ _ => written = [5, 0xff] ∧ ¬established
  | .asked _ _ _ _ _ _ _ => ∃ code relayed, written = [5, 0] ++ socks5Reply code ++ relayed ∧ (code = 0 ↔ established) ∧
    (code ≠ 0 → relayed = []) ∧ relayed <+: came

/-- A refusal is an answer but for the silent one. -/
theorem refusal_answers {exchange : Exchange} {reply : Bytes} (refused : exchange.refusal = some reply) :
    AnsweredExchange exchange reply [] False ↔ ¬exchange.Unprintable := by
  cases exchange with
  | declined =>
    cases refused
    exact iff_of_true ⟨rfl, not_false⟩ not_false
  | asked methods few offered cmd rsv address port =>
    obtain ⟨answer, chosen, rfl⟩ := Option.map_eq_some_iff.mp refused
    by_cases connect : cmd = socks5CmdConnect
    · rw [if_pos connect] at chosen
      cases address with
      | ipv4 | ipv6 => cases chosen
      | other =>
        cases chosen
        exact iff_of_true ⟨_, [], (List.append_nil _).symm, by decide, fun _ => rfl, List.nil_prefix⟩ not_false
      | domain name short =>
        obtain ⟨invalid, same⟩ := Option.ite_none_right_eq_some.mp chosen
        cases same
        refine iff_of_false ?_ (not_not.mpr ⟨connect, invalid⟩)
        intro ⟨code, relayed, written, _⟩
        simp [socks5Reply] at written
    · rw [if_neg connect] at chosen
      cases chosen
      refine iff_of_true ⟨_, [], (List.append_nil _).symm, by decide, fun _ => rfl, List.nil_prefix⟩ ?_
      cases address with
      | domain name short => exact fun unprintable => connect unprintable.1
      | _ => exact not_false

/-- What is accepted is answered by the handler. -/
theorem accepted_answers {exchange : Exchange} (accepted : exchange.refusal = none) {code : UInt8} {relayed came : Bytes}
    {established : Prop} (coded : code = 0 ↔ established) (silent : code ≠ 0 → relayed = []) (front : relayed <+: came) :
    AnsweredExchange exchange ([5, 0] ++ socks5Reply code ++ relayed) came established ↔ ¬exchange.Unprintable := by
  cases exchange with
  | declined => cases accepted
  | asked methods few offered cmd rsv address port =>
    refine iff_of_true ⟨code, relayed, rfl, coded, silent, front⟩ ?_
    have request := Option.map_eq_none_iff.mp accepted
    cases address with
    | domain name short =>
      intro ⟨connect, invalid⟩
      rw [if_pos connect] at request
      simp [RawAddress.refusal, invalid] at request
    | _ => exact not_false

theorem parse_refused {exchange : Exchange} {reply : Bytes} {offered left : Peer UInt8} {result : Option (List Char × Bool)}
    (refused : exchange.refusal = some reply) (complete : exchange.bytes <+: offered.source.rest) (writable : offered.writable = true)
    (parsed : handleSocksConnection config lower offered = (result, left)) :
    result = none ∧ left.written = offered.written ++ reply := by
  have refuses : Refuses (handleSocksConnection config lower) exchange.bytes reply := (exchange_refused refused).bind _
  have given := refuses offered writable complete
  rwa [parsed] at given

theorem parse_accepted {exchange : Exchange} {offered left : Peer UInt8} {result : Option (List Char × Bool)}
    (accepted : exchange.refusal = none) (complete : exchange.bytes <+: offered.source.rest) (writable : offered.writable = true)
    (parsed : handleSocksConnection config lower offered = (result, left)) :
    result ≠ none ∧ left.written = offered.written ++ [5, 0] ∧ left.writable = true := by
  obtain ⟨request, same⟩ := exchange_accepted accepted
  rw [same] at complete
  have read := (parse_reads offered writable request.text (offered.after request.bytes.length [5, 0])).mpr
    ⟨request.bytes, complete, ⟨request, rfl, rfl⟩, rfl⟩
  have goes : handleSocksConnection config lower offered =
      (some (request.text, config.shouldBypass lower (splitHostPort request.text).1 (splitHostPort request.text).2),
        offered.after request.bytes.length [5, 0]) := by
    simp only [handleSocksConnection, bind, read]
    rfl
  rw [goes] at parsed
  cases parsed
  exact ⟨by simp, rfl, writable⟩

private theorem socks_tunnel {s : Stream Handler} (own : IsOf .socks5 s) :
    successReply s.front.tunnel = socks5Reply socks5RepSuccess ∧ failureReply s.front.tunnel = socks5Reply socks5RepGeneralFailure := by
  unfold IsOf at own
  cases tunnel : s.front.tunnel with
  | viaMux | viaMuxWithTimeout => simp [tunnel, Tunnel.listener] at own
  | socksViaMuxWithTimeout host => exact ⟨rfl, rfl⟩

/-- What a tunnelled handler has written when it has returned. -/
private theorem tunnelled_written {c : Client} {conn k : Nat} {stream : Stream Handler}
    (run : (receptionSystem true).Reach (fun action => writes action = true) r) (there : r.proxy.conns[conn]? = some c)
    (carries : c.streams[k]? = some stream) (own : IsOf .socks5 stream) (ended : stream.phase = .done) :
    ∃ code relayed, stream.socket.written = socks5Reply code ++ relayed ∧ (code = 0 ↔ r.outcomes conn k = some .granted) ∧
      (code ≠ 0 → relayed = []) ∧ relayed <+: stream.inflow.flatten := by
  obtain ⟨success, failure⟩ := socks_tunnel own
  have handled := conn_handled (proxy_reachable run) there stream (List.mem_of_getElem? carries)
  have told := ((reception_accounted run).1.each conn c there).told k stream carries
  cases outcome : r.outcomes conn k with
  | none =>
    rw [outcome] at told
    simp [Told, Undecided, ended] at told
  | some outcome' =>
    rw [outcome] at told
    have answered : Answered stream outcome' := (told.answered handled ended).mpr fun http => by
      rw [own] at http
      cases http.1
    cases outcome' with
    | granted =>
      obtain ⟨relayed, written, front⟩ := answered
      exact ⟨0, relayed, by rw [written, success]; rfl, by simp, fun failed => absurd rfl failed, front⟩
    | unsendable | refused | missing | lost =>
      have written : stream.socket.written = socks5Reply socks5RepGeneralFailure := answered.trans failure
      exact ⟨1, [], by rw [written, List.append_nil]; rfl, by simp, fun _ => rfl, List.nil_prefix⟩

/-- A complete exchange whose handler goes on from the parser was accepted, and has had its
method selection. -/
private theorem followed_accepted {exchange : Exchange} {offered left : Peer UInt8} {found : List Char × Bool}
    (complete : exchange.bytes <+: offered.source.rest) (new : offered.writable = true ∧ offered.written = [])
    (parsed : handleSocksConnection config lower offered = (some found, left)) :
    exchange.refusal = none ∧ left.written = [5, 0] ∧ left.writable = true := by
  cases refusal : exchange.refusal with
  | some reply =>
    have given := (parse_refused refusal complete new.1 parsed).1
    cases given
  | none =>
    obtain ⟨-, written, writable⟩ := parse_accepted refusal complete new.1 parsed
    rw [new.2] at written
    exact ⟨rfl, written, writable⟩

private theorem answer_written {peer : Peer UInt8} (reply : Bytes) (writable : peer.writable = true) :
    (writeAll reply peer).2.written = peer.written ++ reply := by simp [writeAll, writable]

end handlers

/-- A handler that has returned has answered its complete exchange, except a CONNECT to a
name that is not UTF-8. -/
theorem exchange_answered (config : RoutingConfig) (lower : Lowercase) (s : SocksReception)
    (run : (socksSystem config lower).Reach (fun action => answers action = true) s) (h : Nat) (handler : SocksHandler)
    (found : s.handlers h = some handler) (exchange : Exchange) (complete : exchange.bytes <+: handler.offered.source.rest)
    (written came : Bytes) (established : Prop) (closed : s.Closed h written came established) :
    AnsweredExchange exchange written came established ↔ ¬exchange.Unprintable := by
  obtain ⟨new, stands⟩ := (attended run).followed h handler found
  obtain ⟨own, standing, accepted⟩ := (attended run).listener h handler found
  have receives := reception_run run
  cases closed with
  | returned there =>
    cases found.symm.trans there
    rcases stands with parsed | ⟨host, left, parsed, rfl⟩
    · cases refusal : exchange.refusal with
      | some reply =>
        have given := (parse_refused refusal complete new.1 parsed).2
        rw [new.2, List.nil_append] at given
        rw [given]
        exact refusal_answers refusal
      | none => exact absurd rfl (parse_accepted refusal complete new.1 parsed).1
    · obtain ⟨accepts, selected, writable⟩ := followed_accepted complete new parsed
      rw [answer_written _ writable, selected, ← List.append_nil (_ ++ _)]
      exact accepted_answers accepts (by decide) (fun _ => rfl) List.nil_prefix
  | relayed there =>
    cases found.symm.trans there
    obtain ⟨relays, host, left, parsed, rfl⟩ := stands
    obtain ⟨accepts, selected, writable⟩ := followed_accepted complete new parsed
    rw [answer_written _ writable, selected]
    exact accepted_answers accepts (by decide) (fun failed => absurd rfl failed) (relay_front relays)
  | unavailable there turned ended =>
    cases found.symm.trans there
    obtain ⟨host, parsed⟩ := stands
    obtain ⟨accepts, selected, -⟩ := followed_accepted complete new parsed
    obtain ⟨id, placed⟩ := (listens receives.reachable).turned h _ turned
    have same := Option.some.inj (accepted.symm.trans placed)
    have socks : IsOf .socks5 _ := (congrArg LocalConnection.listener same).symm
    have reply := ((reception_accounted receives).2.answering h _ turned).answered ended
    rw [reply, (socks_tunnel socks).2, selected, ← List.append_nil (_ ++ _)]
    exact accepted_answers accepts (by decide) (fun _ => rfl) List.nil_prefix
  | tunnelled there placed conns carries ended =>
    cases found.symm.trans there
    obtain ⟨host, parsed⟩ := stands
    obtain ⟨accepts, selected, -⟩ := followed_accepted complete new parsed
    obtain ⟨c, there', stream, carries', socks⟩ := (listens receives.reachable).tunnelled h _ _ _ _ placed
    cases conns.symm.trans there'
    cases carries.symm.trans carries'
    cases (congrArg LocalConnection.listener (Option.some.inj (accepted.symm.trans placed)) : Listener.socks5 = _)
    obtain ⟨code, relayed, told, coded, silent, front⟩ := tunnelled_written receives conns carries socks ended
    rw [told, selected, ← List.append_assoc]
    exact accepted_answers accepts coded silent front

/-- The host `a` is dialed directly. -/
private def bypassing : RoutingConfig := ⟨[], [⟨['a'], none⟩], none, []⟩

private def connectTo (name : Bytes) (short : name.length < 256) : Exchange :=
  .asked [0] (by decide) (by decide) 1 0 (.domain name short) 80

private def sourceOf (exchange : Exchange) : Buffered.Source UInt8 := ⟨exchange.bytes, 0, fun position => position % 3, false⟩

private theorem runs_to {exchange : Exchange} {more : List SocksAction} {test : SocksReception → Bool}
    (executed : ((socksSystem bypassing asciiLowercase).exec SocksReception.fresh
      (.accept (sourceOf exchange) true :: .parse 0 :: more)).any test = true)
    (works : ∀ action ∈ more, answers action = true) :
    ∃ s, (socksSystem bypassing asciiLowercase).Reach (fun action => answers action = true) s ∧ test s = true := by
  obtain ⟨s, ran, passed⟩ := (Option.any_eq_true _ _).mp executed
  refine ⟨s, Transition.System.Reach.exec (.init rfl) ?_ ran, passed⟩
  intro action member
  simp only [List.mem_cons] at member
  rcases member with rfl | rfl | member
  · rfl
  · rfl
  · exact works action member

private def relays (exchange : Exchange) (s : SocksReception) : Bool :=
  match s.handlers 0 with
  | some ⟨offered, _, .relaying relay⟩ => offered.source.rest = exchange.bytes ∧ relay.isOver = true ∧ relay.a.written = [7]
  | _ => false

/-- A direct connection is announced, used and closed. -/
theorem direct_answered : ∃ s written came, (socksSystem bypassing asciiLowercase).Reach (fun action => answers action = true) s ∧
    s.Closed 0 written came True ∧ AnsweredExchange (connectTo [97] (by decide)) written came True := by
  let exchange := connectTo [97] (by decide)
  have executed : ((socksSystem bypassing asciiLowercase).exec SocksReception.fresh
      (.accept (sourceOf exchange) true :: .parse 0 :: [.connected 0, .relay 0 (.b (.arrive [7])), .relay 0 (.bToA (.read 1)),
        .relay 0 (.bToA (.write 1)), .relay 0 (.b .shut), .relay 0 (.bToA .readEnd), .relay 0 (.aToB .readError)])).any
          (relays exchange) = true := by decide +kernel
  obtain ⟨s, run, passed⟩ := runs_to executed (by simp [answers])
  unfold relays at passed
  split at passed
  · next offered peer relay found =>
    obtain ⟨rest, ended, -⟩ := of_decide_eq_true passed
    have closed := SocksReception.Closed.relayed found ended
    refine ⟨s, _, _, run, closed, ?_⟩
    have unprintable : ¬exchange.Unprintable := by
      intro ⟨_, invalid⟩
      revert invalid
      decide +kernel
    exact (exchange_answered bypassing asciiLowercase s run 0 _ found exchange (rest ▸ List.prefix_rfl) _ _ True closed).mpr unprintable
  · cases passed

private def silent (exchange : Exchange) (s : SocksReception) : Bool :=
  match s.handlers 0 with
  | some ⟨offered, peer, .returned⟩ => offered.source.rest = exchange.bytes ∧ peer.written = [5, 0]
  | _ => false

/-- A name of one byte that is not UTF-8 gets the method selection and nothing else. -/
theorem unprintable_unanswered : ¬∀ (config : RoutingConfig) (lower : Lowercase) (s : SocksReception) (h : Nat)
    (handler : SocksHandler) (exchange : Exchange) (written came : Bytes) (established : Prop),
    (socksSystem config lower).Reach (fun action => answers action = true) s → s.handlers h = some handler →
      exchange.bytes <+: handler.offered.source.rest → s.Closed h written came established →
        AnsweredExchange exchange written came established := by
  intro answered
  let exchange := connectTo [0xff] (by decide)
  have executed : ((socksSystem bypassing asciiLowercase).exec SocksReception.fresh
      (.accept (sourceOf exchange) true :: .parse 0 :: [])).any (silent exchange) = true := by decide +kernel
  obtain ⟨s, run, passed⟩ := runs_to executed (by simp)
  unfold silent at passed
  split at passed
  · next offered peer found =>
    obtain ⟨rest, written⟩ := of_decide_eq_true passed
    obtain ⟨code, relayed, told, -⟩ :=
      answered _ _ s 0 _ exchange _ _ _ run found (rest ▸ List.prefix_rfl) (SocksReception.Closed.returned found)
    simp [written, socks5Reply] at told
  · cases passed

end EchoProxy.Proofs.SocksReplies
