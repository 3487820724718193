import EchoProxy.Proxy

/-! `run_proxy_resilient` with everything its handlers say to their local clients: the
handlers that find the slot empty write a failure reply and return. What came of each
attempt to open a tunnel is on record. -/

namespace EchoProxy

inductive Outcome where
  | unsendable
  | refused
  | missing
  | lost
  | granted
  deriving DecidableEq

/-- What a step decides about a stream of the connection: OPEN cannot be sent, OPEN_ACK is
false, it is not there in time, its sender is dropped, or it is true. -/
def Client.decides (c : Client) : ClientAction → Option (Nat × Outcome)
  | .handler k .send =>
    c.streams[k]?.bind fun s => if s.front.stage = .opening ∧ c.frames.receiver = false then some (k, .unsendable) else none
  | .handler k (.stream .acked) =>
    c.streams[k]?.bind fun s => s.front.ack.map fun ok => (k, if ok then .granted else .refused)
  | .handler k (.stream .timeout) => some (k, .missing)
  | .handler k .ackLost => some (k, .lost)
  | _ => none

/-- The reply without a connection, in `handle_local_connection_resilient` and in
`handle_socks_connection_resilient`. -/
def Listener.unavailable : Listener → Bytes
  | .http => badGateway
  | .socks5 => socks5Reply socks5RepGeneralFailure

/-- A handler that has found the slot empty. -/
def turnedAway (id : StreamId) (tunnel : Tunnel) : Stream Handler :=
  (Stream.fresh id ⟨tunnel, .start, none⟩).finishReply tunnel.listener.unavailable

/-- `turned` are the handlers that found the slot empty, with their numbers. `outcomes`, by
connection and stream, is history. -/
structure Reception where
  proxy : Resilient
  turned : List (Nat × Stream Handler)
  outcomes : Nat → Nat → Option Outcome

/-- `reply` and `socket` are steps of a handler that was turned away and of its socket. -/
inductive ReceptionAction where
  | proxy (action : ResilientAction)
  | reply (i : Nat) (move : HandlerMove)
  | socket (i : Nat) (move : Stream.Move)

namespace Reception

def fresh (socks : Bool) : Reception := ⟨Resilient.fresh socks, [], fun _ _ => none⟩

/-- The handler a step of the program turns away. -/
def turns (r : Reception) : ResilientAction → List (Nat × Stream Handler)
  | .snapshot h tunnel =>
    if r.proxy.shared = none then
      (r.proxy.listeners.accepted[h]?.map fun connection => (h, turnedAway connection.id tunnel)).toList
    else []
  | _ => []

def record (outcomes : Nat → Nat → Option Outcome) (conn : Nat) : Option (Nat × Outcome) → Nat → Nat → Option Outcome
  | some (k, outcome) => fun i j => if i = conn ∧ j = k then some outcome else outcomes i j
  | none => outcomes

/-- Outcomes are decided by steps of the handlers. -/
def recorded (r : Reception) : ResilientAction → Nat → Nat → Option Outcome
  | .handler h action =>
    match r.proxy.listeners.accepted[h]? with
    | some ⟨_, _, .tunnelled conn k⟩ => record r.outcomes conn (r.proxy.conns[conn]?.bind (·.decides (action.on k)))
    | _ => r.outcomes
  | _ => r.outcomes

def modify (r : Reception) (i : Nat) (change : Stream Handler → Option (Stream Handler)) : Option Reception :=
  r.turned[i]?.bind fun (h, s) => (change s).map fun s' => { r with turned := r.turned.set i (h, s') }

def step (r : Reception) : ReceptionAction → Option Reception
  | .proxy action =>
    (r.proxy.step action).map fun proxy => ⟨proxy, r.turned ++ r.turns action, r.recorded action⟩
  | .reply i move => if move.isLocal then r.modify i (·.handlerStep move) else none
  | .socket i move => if move.isLocal then r.modify i (·.step move) else none

end Reception

def receptionSystem (socks : Bool) : Transition.System Reception ReceptionAction where
  init r := r = Reception.fresh socks
  step := Reception.step

end EchoProxy
