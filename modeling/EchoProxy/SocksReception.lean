import EchoProxy.Reception
import EchoProxy.RelayTcp
import EchoProxy.Socks

/-! The SOCKS5 handlers of `run_proxy_resilient` from their accept to their return: the
dialogue of `parse_socks5_request`, then `handle_socks_direct` or a look at the slot, after
which the tunnel handler goes on. -/

namespace EchoProxy
open Dialogue

/-- Where `handle_socks_connection_resilient` stands. `handed` is everything after it has
looked at the slot. -/
inductive SocksStage where
  | parsing
  | dialing (host : List Char)
  | relaying (relay : RelayTcp)
  | looking (host : List Char)
  | handed
  | returned

/-- A local connection as it was accepted, which is history, and as the handler has left it
up to the relay or the look. -/
structure SocksHandler where
  offered : Peer UInt8
  peer : Peer UInt8
  stage : SocksStage

/-- `let _ = write_all(..)`. -/
def SocksHandler.answer (handler : SocksHandler) (rep : UInt8) (stage : SocksStage) : SocksHandler :=
  { handler with peer := (writeAll (socks5Reply rep) handler.peer).2, stage }

/-- `relay_tcp` as it starts. What the two peers send arrives in its steps. -/
def RelayTcp.fresh : RelayTcp := ⟨.fresh, .fresh, .reading, .reading⟩

/-- The SOCKS5 handlers have the numbers of their connections. -/
structure SocksReception where
  reception : Reception
  handlers : Nat → Option SocksHandler

inductive SocksAction where
  | other (action : ReceptionAction)
  | accept (source : Buffered.Source UInt8) (writable : Bool)
  | parse (h : Nat)
  | connected (h : Nat)
  | unconnected (h : Nat)
  | relay (h : Nat) (action : RelayTcpAction)
  | look (h : Nat)

namespace SocksReception

def fresh : SocksReception := ⟨Reception.fresh true, fun _ => none⟩

def set (s : SocksReception) (h : Nat) (handler : SocksHandler) : SocksReception :=
  { s with handlers := Function.update s.handlers h (some handler) }

/-- Steps that the SOCKS5 handlers make here. -/
def owns (s : SocksReception) : ReceptionAction → Bool
  | .proxy (.accept .socks5) => true
  | .proxy (.depart h) | .proxy (.snapshot h _) => (s.handlers h).isSome
  | _ => false

/-- The handler's part of a step of the program. -/
def proceed (s : SocksReception) (h : Nat) (handler : SocksHandler) (action : ResilientAction) : Option SocksReception :=
  (s.reception.step (.proxy action)).map fun reception => { s with reception }.set h handler

def step (config : RoutingConfig) (lower : Lowercase) (s : SocksReception) : SocksAction → Option SocksReception
  | .other action => if s.owns action then none else (s.reception.step action).map fun reception => { s with reception }
  | .accept source writable =>
    s.proceed s.reception.proxy.listeners.accepted.length ⟨⟨source, [], writable⟩, ⟨source, [], writable⟩, .parsing⟩ (.accept .socks5)
  | .parse h =>
    match s.handlers h with
    | some ⟨offered, peer, .parsing⟩ =>
      match handleSocksConnection config lower peer with
      | (none, peer) => s.proceed h ⟨offered, peer, .returned⟩ (.depart h)
      | (some (host, true), peer) => s.proceed h ⟨offered, peer, .dialing host⟩ (.depart h)
      | (some (host, false), peer) => some (s.set h ⟨offered, peer, .looking host⟩)
    | _ => none
  | .connected h =>
    match s.handlers h with
    | some ⟨offered, peer, .dialing host⟩ =>
      some (s.set h (SocksHandler.answer ⟨offered, peer, .dialing host⟩ socks5RepSuccess (.relaying .fresh)))
    | _ => none
  | .unconnected h =>
    match s.handlers h with
    | some ⟨offered, peer, .dialing host⟩ =>
      some (s.set h (SocksHandler.answer ⟨offered, peer, .dialing host⟩ socks5RepGeneralFailure .returned))
    | _ => none
  | .relay h action =>
    match s.handlers h with
    | some ⟨offered, peer, .relaying relay⟩ => (relay.step action).map fun relay => s.set h ⟨offered, peer, .relaying relay⟩
    | _ => none
  | .look h =>
    match s.handlers h with
    | some ⟨offered, peer, .looking host⟩ =>
      s.proceed h ⟨offered, peer, .handed⟩ (.snapshot h (.socksViaMuxWithTimeout (String.ofList host)))
    | _ => none

end SocksReception

def socksSystem (config : RoutingConfig) (lower : Lowercase) : Transition.System SocksReception SocksAction where
  init s := s = SocksReception.fresh
  step := SocksReception.step config lower

/-- Handler `h` has returned. `written` is everything its client was sent, and `came` what
was read from the far end for it. -/
inductive SocksReception.Closed (s : SocksReception) (h : Nat) : Bytes → Bytes → Prop → Prop where
  | returned {offered peer} (found : s.handlers h = some ⟨offered, peer, .returned⟩) : s.Closed h peer.written [] False
  | relayed {offered peer relay} (found : s.handlers h = some ⟨offered, peer, .relaying relay⟩) (ended : relay.isOver = true) :
    s.Closed h (peer.written ++ relay.a.written) relay.b.chunks.flatten True
  | unavailable {offered peer stream} (found : s.handlers h = some ⟨offered, peer, .handed⟩)
      (turned : (h, stream) ∈ s.reception.turned) (ended : stream.phase = .done) :
    s.Closed h (peer.written ++ stream.socket.written) [] False
  | tunnelled {offered peer id listener conn k c stream} (found : s.handlers h = some ⟨offered, peer, .handed⟩)
      (placed : s.reception.proxy.listeners.accepted[h]? = some ⟨id, listener, .tunnelled conn k⟩)
      (there : s.reception.proxy.conns[conn]? = some c) (carries : c.streams[k]? = some stream) (ended : stream.phase = .done) :
    s.Closed h (peer.written ++ stream.socket.written) stream.inflow.flatten (s.reception.outcomes conn k = some .granted)

end EchoProxy
