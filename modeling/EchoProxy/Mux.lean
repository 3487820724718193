import EchoProxy.Client
import EchoProxy.Server
import EchoProxy.Lib.Transition

/-! A client and a server joined by one WebSocket, in each direction a FIFO of
bounded length. Every other part of the environment is free: what the sockets
bring, which connects succeed, when a connection breaks or is let go of. -/

namespace EchoProxy

structure Mux where
  client : Client
  server : Server
  upload : List Message
  download : List Message

inductive MuxAction where
  | client (action : ClientAction)
  | server (action : ServerAction)

/-- Only binary messages come from the peer. -/
def Message.fromWire : Message → List Message
  | .binary data => [.binary data]
  | _ => []

def ClientAction.consumes : ClientAction → List Message
  | .incoming message => message.fromWire
  | _ => []

def ServerAction.consumes : ServerAction → List Message
  | .incoming message => message.fromWire
  | _ => []

namespace Mux

/-- Take the messages a step consumes off the front of the wire. -/
def deliver : List Message → List Message → Option (List Message)
  | [], wire => some wire
  | _ :: _, [] => none
  | message :: rest, head :: wire => if message = head then deliver rest wire else none

/-- Put the messages a step emits on the wire, if they fit. -/
def transmit (capacity : Nat) (wire messages : List Message) : Option (List Message) :=
  if messages = [] then some wire
  else if wire.length + messages.length ≤ capacity then some (wire ++ messages) else none

def step (capacity : Nat) (m : Mux) : MuxAction → Option Mux
  | .client action =>
    (deliver action.consumes m.download).bind fun download =>
      (transmit capacity m.upload (m.client.emits action)).bind fun upload =>
        (m.client.step action).map fun client => { m with client, upload, download }
  | .server action =>
    (deliver action.consumes m.upload).bind fun upload =>
      (transmit capacity m.download (m.server.emits action)).bind fun download =>
        (m.server.step action).map fun server => { m with server, upload, download }

end Mux

/-- The client's end with an arbitrary peer. -/
def clientSystem (token : String) (resilient : Bool) : Transition.System Client ClientAction where
  init c := c = Client.fresh token resilient
  step := Client.step

/-- The server's end with an arbitrary peer. -/
def serverSystem : Transition.System Server ServerAction where
  init c := c = Server.fresh
  step := Server.step

def muxSystem (capacity : Nat) (token : String) (resilient : Bool) : Transition.System Mux MuxAction where
  init m := m = ⟨Client.fresh token resilient, Server.fresh, [], []⟩
  step := Mux.step capacity

/-! ### Internal steps

The steps of the two programs themselves, as long as nothing fails: not those of
the sockets' peers, of a failing connection, of a timer or of a shutdown. That a
connect completes is left to the environment. -/

def Stream.Move.isInternal : Stream.Move → Bool
  | .read _ | .readEnd | .recv | .write _ => true
  | _ => false

def EndpointAction.isInternal : EndpointAction → Bool
  | .putFail => false
  | .stream _ move => move.isInternal
  | _ => true

def HandlerMove.isInternal : HandlerMove → Bool
  | .acked | .greet _ | .reply _ => true
  | _ => false

def HandlerAction.isInternal : HandlerAction → Bool
  | .stream move => move.isInternal
  | _ => true

def Message.isBinary : Message → Bool
  | .binary _ => true
  | _ => false

def ClientAction.isInternal : ClientAction → Bool
  | .handler _ action => action.isInternal
  | .endpoint action => action.isInternal
  | .incoming message => message.isBinary
  | .readerCloseAll | .readerClear | .writerExit | .writerStop | .releaseClear | .releaseCloseAll => true
  | .connect | .connectFail | .accept .. | .release => false

def ServerAction.isInternal : ServerAction → Bool
  | .endpoint action => action.isInternal
  | .incoming message => message.isBinary
  | .accept | .reject | .answer | .readerCloseAll | .writerExit | .writerStop => true
  | .connectOk | .connectFail | .drop => false

def MuxAction.isInternal : MuxAction → Bool
  | .client action => action.isInternal
  | .server action => action.isInternal

end EchoProxy
