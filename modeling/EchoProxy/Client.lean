import EchoProxy.Endpoint

/-! The client end of one mux connection: `run_client_reader`, the writer loop,
the three tunnel handlers and the teardown by `run_proxy_with_routing` or
`run_mux_keeper`. The handlers share one program; what differs is in
`HandlerSpec`. -/

namespace EchoProxy

/-! ### Handlers -/

def badGateway : Bytes := asBytes "HTTP/1.1 502 Bad Gateway\r\nContent-Length: 0\r\n\r\n"
def connectionEstablished : Bytes := asBytes "HTTP/1.1 200 Connection established\r\n\r\n"

def socks5RepSuccess : UInt8 := 0x00
def socks5RepGeneralFailure : UInt8 := 0x01

/-- VER(5) REP RSV ATYP=IPv4 BND=0.0.0.0:0. -/
def socks5Reply (rep : UInt8) : Bytes := [0x05, rep, 0x00, 0x01, 0, 0, 0, 0, 0, 0]

structure ProxyRequest where
  host : String
  isConnect : Bool
  headers : String
  body : Bytes
  deriving DecidableEq

/-- What a handler does once OPEN_ACK is true: write a reply to the local socket
or send a first DATA frame. -/
inductive Opening where
  | reply (bytes : Bytes)
  | forward (bytes : Bytes)
  deriving DecidableEq

/-- `unopened` and `refused` are the replies when OPEN cannot be sent and when
OPEN_ACK is not true. -/
structure HandlerSpec where
  dest : String
  timed : Bool
  unopened : Bytes
  refused : Bytes
  opened : Opening
  deriving DecidableEq

def handleViaMux (request : ProxyRequest) : HandlerSpec where
  dest := request.host
  timed := false
  unopened := []
  refused := badGateway
  opened := if request.isConnect then .reply connectionEstablished else .forward (asBytes request.headers ++ request.body)

def handleViaMuxWithTimeout (request : ProxyRequest) : HandlerSpec where
  dest := request.host
  timed := true
  unopened := []
  refused := badGateway
  opened := if request.isConnect then .reply connectionEstablished else .forward (asBytes request.headers ++ request.body)

def handleSocksViaMuxWithTimeout (host : String) : HandlerSpec where
  dest := host
  timed := true
  unopened := socks5Reply socks5RepGeneralFailure
  refused := socks5Reply socks5RepGeneralFailure
  opened := .reply (socks5Reply socks5RepSuccess)

inductive Tunnel where
  | viaMux (request : ProxyRequest)
  | viaMuxWithTimeout (request : ProxyRequest)
  | socksViaMuxWithTimeout (host : String)
  deriving DecidableEq

def Tunnel.spec : Tunnel → HandlerSpec
  | .viaMux request => handleViaMux request
  | .viaMuxWithTimeout request => handleViaMuxWithTimeout request
  | .socksViaMuxWithTimeout host => handleSocksViaMuxWithTimeout host

/-- Where a handler stands before its relay loop. -/
inductive Stage where
  | start
  | registered
  | opening
  | awaiting
  | greeting (rest : Bytes)
  | forwarding (bytes : Bytes)
  | leaving (reply : Bytes)
  | replying (rest : Bytes)
  deriving DecidableEq

/-- `ack` is the one slot of the handler's OPEN_ACK channel. -/
structure Handler where
  tunnel : Tunnel
  stage : Stage
  ack : Option Bool
  deriving DecidableEq

def Handler.spec (h : Handler) : HandlerSpec := h.tunnel.spec

inductive HandlerMove where
  | registered
  | inserted
  | opened
  | unopened
  | ack (ok : Bool)
  | acked
  | lost
  | timeout
  | greet (count : Nat)
  | greetError
  | forwarded
  | unforwarded
  | left
  | reply (count : Nat)
  | replyError

def HandlerMove.isLocal : HandlerMove → Bool
  | .acked | .timeout | .greet _ | .greetError | .reply _ | .replyError => true
  | _ => false

namespace Stream

def setStage (s : Stream Handler) (stage : Stage) : Stream Handler := { s with front := { s.front with stage } }

/-- The branch on `ok`. -/
def answered (s : Stream Handler) (ok : Bool) : Stream Handler :=
  if ok then
    match s.front.spec.opened with
    | .reply bytes => s.setStage (.greeting bytes)
    | .forward bytes => s.setStage (.forwarding bytes)
  else s.setStage (.leaving s.front.spec.refused)

/-- The failure reply, if there is one, and the return. -/
def finishReply (s : Stream Handler) (rest : Bytes) : Stream Handler :=
  if rest = [] then s.abandon else s.setStage (.replying rest)

def writeReply (s : Stream Handler) (rest : Bytes) (count : Nat) (next : Stream Handler → Stream Handler) : Option (Stream Handler) :=
  if s.socket.writable ∧ 0 < count ∧ count ≤ rest.length then
    some (next { s with socket.written := s.socket.written ++ rest.take count })
  else none

/-- The handlers' own steps, all before the relay loop but the arrival of `ack`. -/
def handlerStep (s : Stream Handler) (move : HandlerMove) : Option (Stream Handler) :=
  match move, s.phase, s.front.stage with
  -- `try_send` into the one slot; the handler receives from it once
  | .ack ok, _, _ => some { s with front.ack := s.front.ack.or (some ok) }
  | .registered, .front, .start => some (s.setStage .registered)
  | .inserted, .front, .registered => some (s.setStage .opening)
  | .opened, .front, .opening => some { s.setStage .awaiting with emitted := s.emitted ++ [.openStream s.id s.front.spec.dest] }
  | .unopened, .front, .opening => some (s.setStage (.leaving s.front.spec.unopened))
  | .acked, .front, .awaiting => s.front.ack.map s.answered
  | .lost, .front, .awaiting => if s.front.ack = none then some (s.answered false) else none
  | .timeout, .front, .awaiting => if s.front.ack = none ∧ s.front.spec.timed then some (s.answered false) else none
  | .greet count, .front, .greeting rest =>
    s.writeReply rest count fun s => if rest.drop count = [] then s.relay else s.setStage (.greeting (rest.drop count))
  | .greetError, .front, .greeting _ => some (s.setStage (.leaving []))
  | .forwarded, .front, .forwarding bytes => some { s.relay with emitted := s.emitted ++ [.data s.id bytes] }
  | .unforwarded, .front, .forwarding _ => some (s.setStage (.leaving []))
  | .left, .front, .leaving reply => some (s.finishReply reply)
  | .reply count, .front, .replying rest => s.writeReply rest count fun s => s.finishReply (rest.drop count)
  | .replyError, .front, .replying _ => some s.abandon
  | _, _, _ => none

/-- The frame the handler waits to send. -/
def request (s : Stream Handler) : Option Frame :=
  match s.phase, s.front.stage with
  | .front, .opening => some (.openStream s.id s.front.spec.dest)
  | .front, .forwarding bytes => some (.data s.id bytes)
  | _, _ => none

end Stream

/-! ### The connection -/

/-- `run_client_reader`; after its loop it closes every stream, then drops every
pending OPEN_ACK sender. -/
inductive ClientReader where
  | unspawned
  | running
  | closing
  | clearing
  | ended
  deriving DecidableEq

/-- The owner of the connection: it sends HELLO, then holds a frame sender until
it lets go of the connection. Only the resilient client tears down, with
`MuxConn::close`. -/
inductive Link where
  | connecting (token : String)
  | attached
  | clearing
  | closing
  | released
  deriving DecidableEq

structure Client extends Endpoint Handler where
  resilient : Bool
  link : Link
  reader : ClientReader
  pendingAcks : StreamId → Option Nat

inductive HandlerAction where
  | register
  | insertAck
  | send
  | ackLost
  | leave
  | stream (move : HandlerMove)

inductive ClientAction where
  | connect
  | connectFail
  | accept (id : StreamId) (tunnel : Tunnel)
  | handler (k : Nat) (action : HandlerAction)
  | endpoint (action : EndpointAction)
  | incoming (message : Message)
  | readerCloseAll
  | readerClear
  | writerExit
  | writerStop
  | release
  | releaseClear
  | releaseCloseAll

namespace Client

def fresh (token : String) (resilient : Bool) : Client :=
  { Endpoint.fresh .unspawned with resilient, link := .connecting token, reader := .unspawned, pendingAcks := fun _ => none }

def withEndpoint (c : Client) (e : Endpoint Handler) : Client := { c with toEndpoint := e }

def modify (c : Client) (k : Nat) (change : Stream Handler → Option (Stream Handler)) : Option Client :=
  (c.toEndpoint.modify k change).map c.withEndpoint

def handlerStep (c : Client) (k : Nat) (s : Stream Handler) : HandlerAction → Option Client
  | .register => (c.withEndpoint { c.toEndpoint with registry := c.registry.register s.id k }).modify k (·.handlerStep .registered)
  | .insertAck => { c with pendingAcks := Function.update c.pendingAcks s.id (some k) }.modify k (·.handlerStep .inserted)
  | .send =>
    s.request.bind fun frame =>
      (c.offer frame
        (·.modify k fun s => (s.handlerStep .opened).or (s.handlerStep .forwarded))
        (·.modify k fun s => (s.handlerStep .unopened).or (s.handlerStep .unforwarded))).map c.withEndpoint
  -- the receive fails once the sender in `pending_acks` is gone
  | .ackLost => if c.pendingAcks s.id = some k then none else c.modify k (·.handlerStep .lost)
  | .leave => (c.withEndpoint (c.closeStream s.id)).modify k (·.handlerStep .left)
  | .stream move => if move.isLocal then c.modify k (·.handlerStep move) else none

/-- The match in `run_client_reader`. -/
def dispatch (c : Client) : Frame → Option Client
  | .openAck id ok =>
    match c.pendingAcks id with
    | none => some c
    | some k => { c with pendingAcks := Function.update c.pendingAcks id none }.modify k (·.handlerStep (.ack ok))
  | .data id bytes => (c.route id bytes).map c.withEndpoint
  | .close id => some (c.withEndpoint (c.closeStream id))
  | _ => some c

def incoming (c : Client) (message : Message) : Option Client :=
  if c.reader = .running ∧ c.routing = none then
    match message with
    | .ping => some c
    | .other => some { c with reader := .closing }
    | .binary data =>
      match Frame.decode data with
      | .error _ => some c
      | .ok frame => (c.withEndpoint { c.toEndpoint with dispatched := c.dispatched ++ [frame] }).dispatch frame
  else none

def step (c : Client) : ClientAction → Option Client
  | .connect =>
    match c.link with
    | .connecting token =>
      some { c with link := .attached, reader := .running, writer := .receiving, put := [.hello token] }
    | _ => none
  | .connectFail =>
    match c.link with
    | .connecting _ => some { c with link := .released }
    | _ => none
  | .accept id tunnel =>
    if c.link = .attached then
      some { c with streams := c.streams ++ [Stream.fresh id ⟨tunnel, .start, none⟩] }
    else none
  | .handler k action => c.streams[k]?.bind fun s => c.handlerStep k s action
  | .endpoint action => (c.toEndpoint.step action).map c.withEndpoint
  | .incoming message => c.incoming message
  | .readerCloseAll =>
    if c.reader = .closing then some { c.withEndpoint c.closeAll with reader := .clearing } else none
  | .readerClear =>
    if c.reader = .clearing then some { c with reader := .ended, pendingAcks := fun _ => none } else none
  -- the owner and every handler hold a frame sender
  | .writerExit =>
    if c.link = .released ∧ c.streams.all (·.phase = .done) then c.writerExit.map c.withEndpoint else none
  | .writerStop => (c.writerStop c.resilient).map c.withEndpoint
  | .release =>
    if c.link = .attached then some { c with link := if c.resilient then .clearing else .released } else none
  | .releaseClear =>
    if c.link = .clearing then some { c with link := .closing, pendingAcks := fun _ => none } else none
  | .releaseCloseAll =>
    if c.link = .closing then some { c.withEndpoint c.closeAll with link := .released } else none

/-- What a step puts on the WebSocket. -/
def emits (c : Client) : ClientAction → List Message
  | .connect =>
    match c.link with
    | .connecting token => [(Frame.hello token).message]
    | _ => []
  | .endpoint action => c.toEndpoint.emits action
  | _ => []

end Client
end EchoProxy
