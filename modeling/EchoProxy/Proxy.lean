import EchoProxy.Client
import EchoProxy.Lib.Transition

/-! The client programs around the mux connections: `run_proxy_with_routing` with its
one connection, and `run_proxy_resilient` with the keeper that makes one connection
after another and the slot the handlers of both listeners take it from. -/

namespace EchoProxy

/-! ### Accepted connections -/

inductive Listener where
  | http
  | socks5
  deriving DecidableEq

/-- What has become of the handler of an accepted connection. `parsing` is everything
before it uses a mux connection, `elsewhere` covers a malformed request and the direct
route, `unavailable` is a snapshot of the empty slot; `tunnelled conn k` is stream `k` of
the connection made as number `conn`. -/
inductive Standing where
  | parsing
  | elsewhere
  | unavailable
  | tunnelled (conn k : Nat)
  deriving DecidableEq

structure LocalConnection where
  id : StreamId
  listener : Listener
  standing : Standing
  deriving DecidableEq

/-- `next_id` and the handlers spawned so far, in the order of their `fetch_add`. -/
structure Listeners where
  nextId : StreamId
  accepted : List LocalConnection
  deriving DecidableEq

/-- `AtomicU32::new(1)`. -/
def Listeners.fresh : Listeners := ⟨1, []⟩

/-- `next_id.fetch_add(1, Ordering::Relaxed)`, which wraps around, and the spawn. -/
def Listeners.accept (l : Listeners) (listener : Listener) (standing : Standing) : Listeners :=
  ⟨l.nextId + 1, l.accepted ++ [⟨l.nextId, listener, standing⟩]⟩

def Listeners.settle (l : Listeners) (h : Nat) (standing : Standing) : Listeners :=
  { l with accepted := l.accepted.modify h fun connection => { connection with standing } }

def Tunnel.listener : Tunnel → Listener
  | .viaMux _ | .viaMuxWithTimeout _ => .http
  | .socksViaMuxWithTimeout _ => .socks5

/-- The handlers of `run_proxy_with_routing`. -/
def Tunnel.isPlain : Tunnel → Bool
  | .viaMux _ => true
  | _ => false

/-! ### `run_proxy_with_routing` -/

structure Plain where
  listeners : Listeners
  client : Client

/-- The handler clones the connection's parts at its spawn; whether it will use them
(`none`: it will not) is settled there. -/
inductive PlainAction where
  | accept (tunnel : Option Tunnel)
  | client (action : ClientAction)

/-- Handlers come from the accept loops only. -/
def ClientAction.isAccept : ClientAction → Bool
  | .accept _ _ => true
  | _ => false

namespace Plain

def fresh (token : String) : Plain := ⟨.fresh, Client.fresh token false⟩

def step (p : Plain) : PlainAction → Option Plain
  | .accept none =>
    if p.client.link = .attached then some { p with listeners := p.listeners.accept .http .elsewhere } else none
  | .accept (some tunnel) =>
    if tunnel.isPlain then
      (p.client.step (.accept p.listeners.nextId tunnel)).map fun client =>
        { client, listeners := p.listeners.accept .http (.tunnelled 0 p.client.streams.length) }
    else none
  | .client action => if action.isAccept then none else (p.client.step action).map fun client => { p with client }

end Plain

def plainSystem (token : String) : Transition.System Plain PlainAction where
  init p := p = Plain.fresh token
  step := Plain.step

/-! ### `run_proxy_resilient` -/

def reconnectInitialMs : Nat := 500
def reconnectMaxMs : Nat := 30 * 1000

/-- Where `run_mux_keeper` stands. `clearing` and `closing` are the two halves of
`MuxConn::close`; `last` when the keeper returns after it. -/
inductive Keeper where
  | obtaining
  | sleeping
  | connecting (token : String)
  | greeting (conn : Nat)
  | waiting (conn : Nat)
  | clearing (conn : Nat) (last : Bool)
  | closing (conn : Nat) (last : Bool)
  | stopped
  deriving DecidableEq

inductive KeeperAction where
  | obtained (token : String)
  | unobtained
  | slept
  | connected
  | unconnected
  | greeted
  | ungreeted
  | disconnected
  | clear
  | close
  | shutdown

/-- A step of the task of a tunnelled handler or of its socket. -/
inductive TaskAction where
  | handler (action : HandlerAction)
  | stream (move : Stream.Move)
  | send
  | unregister
  | finish

/-- A step of the reader or the writer task of a connection. -/
inductive LoopAction where
  | pop
  | put
  | putFail
  | incoming (message : Message)
  | route
  | readerCloseAll
  | readerClear
  | writerExit
  | writerStop

def TaskAction.on (k : Nat) : TaskAction → ClientAction
  | .handler action => .handler k action
  | .stream move => .endpoint (.stream k move)
  | .send => .endpoint (.send k)
  | .unregister => .endpoint (.unregister k)
  | .finish => .endpoint (.finish k)

def LoopAction.on : LoopAction → ClientAction
  | .pop => .endpoint .pop
  | .put => .endpoint .put
  | .putFail => .endpoint .putFail
  | .incoming message => .incoming message
  | .route => .endpoint .route
  | .readerCloseAll => .readerCloseAll
  | .readerClear => .readerClear
  | .writerExit => .writerExit
  | .writerStop => .writerStop

/-- `running`: the HTTP accept loop has not returned. `shared` is the slot, by the number
of the connection in it; `conns` holds every connection made, also after the slot has lost
it, and `obtained` every token; both only grow. -/
structure Resilient where
  running : Bool
  socks : Bool
  listeners : Listeners
  keeper : Keeper
  backoff : Nat
  shared : Option Nat
  conns : List Client
  obtained : List String

/-- `handler h` is the handler of the `h`-th accepted connection. -/
inductive ResilientAction where
  | accept (listener : Listener)
  | acceptError (listener : Listener)
  | shutdown
  | depart (h : Nat)
  | snapshot (h : Nat) (tunnel : Tunnel)
  | handler (h : Nat) (action : TaskAction)
  | loop (conn : Nat) (action : LoopAction)
  | keeper (action : KeeperAction)

namespace Resilient

def fresh (socks : Bool) : Resilient :=
  ⟨true, socks, .fresh, .obtaining, reconnectInitialMs, none, [], []⟩

/-- A step of connection `conn`. -/
def onConn (p : Resilient) (conn : Nat) (action : ClientAction) : Option Resilient :=
  p.conns[conn]?.bind fun c => (c.step action).map fun c' => { p with conns := p.conns.set conn c' }

/-- `disc_rx` has the signal of the reader task or of the writer task. -/
def isDisconnected (p : Resilient) (conn : Nat) : Bool :=
  p.conns[conn]?.any fun c => c.reader = .ended ∨ c.writer = .ended

/-- `shared.lock().unwrap().take()`, with `close` to come where there was a connection. -/
def takeShared (p : Resilient) (last : Bool) : Option Resilient :=
  match p.shared with
  | some conn => ({ p with shared := none, keeper := .clearing conn last }).onConn conn .release
  | none => some { p with keeper := if last then .stopped else .obtaining }

def keeperStep (p : Resilient) : KeeperAction → Option Resilient
  | .obtained token =>
    if p.keeper = .obtaining then
      some { p with keeper := .connecting token, backoff := reconnectInitialMs, obtained := p.obtained ++ [token] }
    else none
  | .unobtained => if p.keeper = .obtaining then some { p with keeper := .sleeping } else none
  | .slept =>
    if p.keeper = .sleeping then some { p with keeper := .obtaining, backoff := min (p.backoff * 2) reconnectMaxMs } else none
  | .connected =>
    match p.keeper with
    | .connecting token => some { p with keeper := .greeting p.conns.length, conns := p.conns ++ [Client.fresh token true] }
    | _ => none
  | .unconnected =>
    match p.keeper with
    | .connecting _ => some { p with keeper := .sleeping }
    | _ => none
  | .greeted =>
    match p.keeper with
    | .greeting conn =>
      ({ p with keeper := .waiting conn, backoff := reconnectInitialMs, shared := some conn }).onConn conn .connect
    | _ => none
  | .ungreeted =>
    match p.keeper with
    | .greeting conn => ({ p with keeper := .obtaining }).onConn conn .connectFail
    | _ => none
  | .disconnected =>
    match p.keeper with
    | .waiting conn => if p.isDisconnected conn then p.takeShared false else none
    | _ => none
  | .clear =>
    match p.keeper with
    | .clearing conn last => ({ p with keeper := .closing conn last }).onConn conn .releaseClear
    | _ => none
  | .close =>
    match p.keeper with
    | .closing conn last => ({ p with keeper := if last then .stopped else .obtaining }).onConn conn .releaseCloseAll
    | _ => none
  -- `keeper_stop_rx` has a unit or is closed once the accept loop has returned
  | .shutdown =>
    if p.running then none
    else
      match p.keeper with
      | .sleeping => some { p with keeper := .stopped }
      | .waiting _ => p.takeShared true
      | _ => none

def step (p : Resilient) : ResilientAction → Option Resilient
  | .accept .http => if p.running then some { p with listeners := p.listeners.accept .http .parsing } else none
  | .accept .socks5 => if p.socks then some { p with listeners := p.listeners.accept .socks5 .parsing } else none
  | .acceptError .http => if p.running then some { p with running := false } else none
  | .acceptError .socks5 => if p.socks then some { p with socks := false } else none
  | .shutdown => if p.running then some { p with running := false } else none
  | .depart h =>
    match p.listeners.accepted[h]? with
    | some ⟨_, _, .parsing⟩ => some { p with listeners := p.listeners.settle h .elsewhere }
    | _ => none
  | .snapshot h tunnel =>
    match p.listeners.accepted[h]? with
    | some ⟨id, listener, .parsing⟩ =>
      if tunnel.listener = listener ∧ tunnel.isPlain = false then
        match p.shared with
        | none => some { p with listeners := p.listeners.settle h .unavailable }
        | some conn =>
          p.conns[conn]?.bind fun c =>
            ({ p with listeners := p.listeners.settle h (.tunnelled conn c.streams.length) }).onConn conn (.accept id tunnel)
      else none
    | _ => none
  | .handler h action =>
    match p.listeners.accepted[h]? with
    | some ⟨_, _, .tunnelled conn k⟩ => p.onConn conn (action.on k)
    | _ => none
  | .loop conn action => p.onConn conn action.on
  | .keeper action => p.keeperStep action

end Resilient

def resilientSystem (socks : Bool) : Transition.System Resilient ResilientAction where
  init p := p = Resilient.fresh socks
  step := Resilient.step

end EchoProxy
