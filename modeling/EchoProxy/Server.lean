import EchoProxy.Endpoint
import EchoProxy.Ssrf

/-! One `run_server_mux_session`: the HELLO check, the writer loop, the reader
loop with `handle_open`, and the relay tasks. Whether a token is valid is decided
by the token store; here it is the choice between `accept` and `reject`. -/

namespace EchoProxy

/-- A destination that was dialed for a stream. -/
structure Opened where
  dest : String
  deriving DecidableEq

/-- Where the session future stands. In `connecting`, `acking` and `refusing` the
reader loop is inside `handle_open`; `dropped` is the future dropped at one of its
awaits by the shutdown branch of `accept_connection`. -/
inductive SessionReader where
  | hello
  | presenting (token : String)
  | running
  | connecting (id : StreamId) (dest : String)
  | acking (k : Nat)
  | refusing (id : StreamId)
  | closing
  | ended
  | dropped
  deriving DecidableEq

/-- The awaits of a running session: the future can be dropped there. -/
def SessionReader.suspended : SessionReader → Bool
  | .hello | .running | .connecting .. | .acking _ | .refusing _ => true
  | _ => false

/-- `dialed` (the destinations passed to `TcpStream::connect`) is history. -/
structure Server extends Endpoint Opened where
  reader : SessionReader
  dialed : List String

inductive ServerAction where
  | endpoint (action : EndpointAction)
  | incoming (message : Message)
  | accept
  | reject
  | connectOk
  | connectFail
  | answer
  | readerCloseAll
  | writerExit
  | writerStop
  | drop

namespace Server

def fresh : Server := { Endpoint.fresh .unspawned with reader := .hello, dialed := [] }

def withEndpoint (c : Server) (e : Endpoint Opened) : Server := { c with toEndpoint := e }

def returned (c : Server) : Server := { c with reader := .ended }

/-- `handle_open` up to its first await. -/
def handleOpen (c : Server) (id : StreamId) (dest : String) : Server :=
  if isDestAllowed dest then { c with reader := .connecting id dest, dialed := c.dialed ++ [dest] }
  else { c with reader := .refusing id }

/-- The match in the reader loop. -/
def dispatch (c : Server) : Frame → Option Server
  | .openStream id dest => some (c.handleOpen id dest)
  | .data id bytes => (c.route id bytes).map c.withEndpoint
  | .close id => some (c.withEndpoint (c.closeStream id))
  | _ => some c

def record (c : Server) (frame : Frame) : Server :=
  c.withEndpoint { c.toEndpoint with dispatched := c.dispatched ++ [frame] }

def incoming (c : Server) (message : Message) : Option Server :=
  match c.reader with
  | .hello =>
    match message with
    | .ping => some c
    | .other => some c.returned
    | .binary data =>
      match Frame.decode data with
      | .ok (.hello token) => some { c.record (.hello token) with reader := .presenting token }
      | _ => some c.returned
  | .running =>
    if c.routing = none then
      match message with
      | .ping => some c
      | .other => some { c with reader := .closing }
      | .binary data =>
        match Frame.decode data with
        | .error _ => some c
        | .ok frame => (c.record frame).dispatch frame
    else none
  | _ => none

/-- The stream registered for a successful connect. -/
def connected (c : Server) (id : StreamId) (dest : String) : Server :=
  { c with
    registry := c.registry.register id c.streams.length
    streams := c.streams ++ [Stream.fresh id ⟨dest⟩]
    reader := .acking c.streams.length }

/-- The pending OPEN_ACK send completes; its error is ignored. -/
def answer (c : Server) : Option Server :=
  match c.reader with
  | .refusing id => (c.offer (.openAck id false) some some).map fun e => { c.withEndpoint e with reader := .running }
  | .acking k =>
    c.streams[k]?.bind fun s =>
      (c.offer (.openAck s.id true)
        (·.modify k fun s => some { s.relay with emitted := s.emitted ++ [.openAck s.id true] })
        (·.modify k fun s => some s.relay)).map fun e => { c.withEndpoint e with reader := .running }
  | _ => none

/-- Dropping the session future: a `route` in progress gives up its payload, and a
stream not yet handed to its relay task loses its socket and receiver. -/
def drop (c : Server) : Option Server :=
  if c.reader.suspended then
    let left := { c with routing := none, reader := .dropped }
    match c.reader with
    | .acking k => (left.modify k fun s => some s.abandon).map left.withEndpoint
    | _ => some left
  else none

/-- The session future holds a frame sender until it is over. -/
def isOver (c : Server) : Bool := c.reader = .ended ∨ c.reader = .dropped

def step (c : Server) : ServerAction → Option Server
  | .endpoint action => (c.toEndpoint.step action).map c.withEndpoint
  | .incoming message => c.incoming message
  | .accept =>
    match c.reader with
    | .presenting _ => some { c with reader := .running, writer := .receiving }
    | _ => none
  | .reject =>
    match c.reader with
    | .presenting _ => some c.returned
    | _ => none
  | .connectOk =>
    match c.reader with
    | .connecting id dest => some (c.connected id dest)
    | _ => none
  | .connectFail =>
    match c.reader with
    | .connecting id _ => some { c.withEndpoint (c.closeStream id) with reader := .refusing id }
    | _ => none
  | .answer => c.answer
  | .readerCloseAll =>
    if c.reader = .closing then some { c.withEndpoint c.closeAll with reader := .ended } else none
  | .writerExit =>
    if c.isOver ∧ c.streams.all (·.phase = .done) then c.writerExit.map c.withEndpoint else none
  | .writerStop => (c.writerStop true).map c.withEndpoint
  | .drop => c.drop

/-- What a step puts on the WebSocket. -/
def emits (c : Server) : ServerAction → List Message
  | .endpoint action => c.toEndpoint.emits action
  | _ => []

end Server
end EchoProxy
