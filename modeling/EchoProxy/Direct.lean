import EchoProxy.Client
import EchoProxy.RelayTcp

/-! `handle_direct`: one dial, then a reply to the local client or the head of its request
to the destination, and `relay_tcp`. -/

namespace EchoProxy

/-- `refusing`, `greeting` and `forwarding` are in a `write_all` with the rest of its bytes.
`told` and `forwarded` are what was written to the two sockets ahead of the relay. -/
inductive Direct where
  | dialing (client : Socket)
  | refusing (client : Socket) (rest : Bytes)
  | greeting (client upstream : Socket) (rest : Bytes)
  | forwarding (client upstream : Socket) (rest : Bytes)
  | relaying (told forwarded : Bytes) (relay : RelayTcp)
  | returned (client : Socket) (upstream : Option Socket)

inductive DirectMove where
  | connected
  | unconnected
  | client (move : PeerMove)
  | upstream (move : PeerMove)
  | write (count : Nat)
  | writeError
  | relay (action : RelayTcpAction)

/-- One write of a `write_all`, and what it leaves. -/
def Socket.write (socket : Socket) (rest : Bytes) (count : Nat) : Option (Socket × Bytes) :=
  if socket.writable ∧ 0 < count ∧ count ≤ rest.length then
    some ({ socket with written := socket.written ++ rest.take count }, rest.drop count)
  else none

namespace Direct

/-- `relay_tcp` takes both sockets as they are. -/
def relay (client upstream : Socket) : Direct :=
  .relaying client.written upstream.written ⟨{ client with written := [] }, { upstream with written := [] },
    .reading, .reading⟩

def refuse (client : Socket) (rest : Bytes) : Direct :=
  if rest = [] then .returned client none else .refusing client rest

def greet (client upstream : Socket) (rest : Bytes) : Direct :=
  if rest = [] then relay client upstream else .greeting client upstream rest

/-- `write_all` of no bytes completes at once. -/
def forward (client upstream : Socket) (rest : Bytes) : Direct :=
  if rest = [] then relay client upstream else .forwarding client upstream rest

def step (request : ProxyRequest) : Direct → DirectMove → Option Direct
  | .dialing client, .connected =>
    some (if request.isConnect then greet client .fresh connectionEstablished
      else forward client .fresh (asBytes request.headers ++ request.body))
  | .dialing client, .unconnected => some (refuse client badGateway)
  | .dialing client, .client move => (client.peer move).map .dialing
  | .refusing client rest, .client move => (client.peer move).map (.refusing · rest)
  | .refusing client rest, .write count => (client.write rest count).map fun (client, rest) => refuse client rest
  -- `let _ = write_all(..)`
  | .refusing client _, .writeError => some (.returned client none)
  | .greeting client upstream rest, .client move => (client.peer move).map (.greeting · upstream rest)
  | .greeting client upstream rest, .upstream move => (upstream.peer move).map (.greeting client · rest)
  | .greeting client upstream rest, .write count => (client.write rest count).map fun (client, rest) =>
      greet client upstream rest
  | .greeting client upstream _, .writeError => some (.returned client (some upstream))
  | .forwarding client upstream rest, .client move => (client.peer move).map (.forwarding · upstream rest)
  | .forwarding client upstream rest, .upstream move => (upstream.peer move).map (.forwarding client · rest)
  | .forwarding client upstream rest, .write count =>
    (upstream.write rest count).map fun (upstream, rest) => forward client upstream rest
  | .forwarding client upstream _, .writeError => some (.returned client (some upstream))
  | .relaying told forwarded relay, .relay action => (relay.step action).map (.relaying told forwarded)
  | _, _ => none

end Direct

/-- The request has been read, and what has arrived behind it has not. -/
def directSystem (request : ProxyRequest) : Transition.System Direct DirectMove where
  init d := ∃ client : Socket, d = .dialing client ∧ client.chunks = [] ∧ client.written = []
  step := Direct.step request

/-- The handler's own steps, as long as no read or write fails. -/
def DirectMove.isInternal : DirectMove → Bool
  | .write _ => true
  | .relay action => action.isInternal
  | _ => false

end EchoProxy
