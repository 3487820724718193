import EchoProxy.Direct
import EchoProxy.Http
import EchoProxy.Reception
import EchoProxy.Routing

/-! The HTTP handlers of `run_proxy_resilient` from their accept on:
`handle_local_connection_resilient` reads the request, and `handle_direct` or a look at the
slot decides where the connection goes. After the look the tunnel handler goes on. -/

namespace EchoProxy
open Buffered

/-- Where `handle_local_connection_resilient` stands. `handed` is everything after it has
looked at the slot. -/
inductive HttpStage where
  | parsing
  | direct (request : ProxyRequest) (direct : Direct)
  | looking (request : ProxyRequest)
  | handed (request : ProxyRequest)
  | returned

/-- `offered` is what arrives on the connection until the parser is done, and history. -/
structure HttpHandler where
  offered : Source UInt8
  stage : HttpStage

/-- The HTTP handlers have the numbers of their connections. -/
structure HttpReception where
  reception : Reception
  handlers : Nat → Option HttpHandler

inductive HttpAction where
  | other (action : ReceptionAction)
  | accept (bytes : Bytes) (arrived : Nat → Nat) (fails : Bool)
  | parse (h : Nat)
  | direct (h : Nat) (move : DirectMove)
  | look (h : Nat)

/-- The branch on `should_bypass`. -/
def RoutingConfig.bypasses (config : RoutingConfig) (lower : Lowercase) (request : ProxyRequest) : Bool :=
  let target := httpHostPort request.host.toList
  config.shouldBypass lower target.1 target.2

namespace HttpReception

def fresh (socks : Bool) : HttpReception := ⟨Reception.fresh socks, fun _ => none⟩

def set (s : HttpReception) (h : Nat) (handler : HttpHandler) : HttpReception :=
  { s with handlers := Function.update s.handlers h (some handler) }

/-- Steps that the HTTP handlers make here. -/
def owns (s : HttpReception) : ReceptionAction → Bool
  | .proxy (.accept .http) => true
  | .proxy (.depart h) | .proxy (.snapshot h _) => (s.handlers h).isSome
  | _ => false

/-- The handler's part of a step of the program. -/
def proceed (s : HttpReception) (h : Nat) (handler : HttpHandler) (action : ResilientAction) :
    Option HttpReception :=
  (s.reception.step (.proxy action)).map fun reception => { s with reception }.set h handler

def step (config : RoutingConfig) (lower : Lowercase) (s : HttpReception) : HttpAction → Option HttpReception
  | .other action => if s.owns action then none else (s.reception.step action).map fun reception =>
      { s with reception }
  | .accept bytes arrived fails =>
    s.proceed s.reception.proxy.listeners.accepted.length ⟨⟨bytes, 0, arrived, fails⟩, .parsing⟩ (.accept .http)
  | .parse h =>
    match s.handlers h with
    | some ⟨offered, .parsing⟩ =>
      match localRequest offered with
      | none => s.proceed h ⟨offered, .returned⟩ (.depart h)
      | some (request, left) =>
        if config.bypasses lower request then
          s.proceed h ⟨offered,
            .direct request (.dialing { Socket.fresh with incoming := left.rest })⟩ (.depart h)
        else some (s.set h ⟨offered, .looking request⟩)
    | _ => none
  | .direct h move =>
    match s.handlers h with
    | some ⟨offered, .direct request direct⟩ =>
      (direct.step request move).map fun direct => s.set h ⟨offered, .direct request direct⟩
    | _ => none
  | .look h =>
    match s.handlers h with
    | some ⟨offered, .looking request⟩ =>
      s.proceed h ⟨offered, .handed request⟩ (.snapshot h (.viaMuxWithTimeout request))
    | _ => none

end HttpReception

def httpSystem (socks : Bool) (config : RoutingConfig) (lower : Lowercase) :
    Transition.System HttpReception HttpAction where
  init s := s = HttpReception.fresh socks
  step := HttpReception.step config lower

end EchoProxy
