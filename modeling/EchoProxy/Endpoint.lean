import EchoProxy.Stream
import Mathlib.Logic.Function.Basic

/-! What the two endpoints of a mux connection share: the frame channel with its
writer loop, the `StreamRegistry`, the streams with their relay loops and write
tasks, and the `route` call of the reader loop. Streams are numbered in the order
they appear; a stream's number also names its data channel. -/

namespace EchoProxy

/-- A message as the reader loops see it. `other` is every case they treat as the
end of the connection: text, close and pong messages, errors and end of stream. -/
inductive Message where
  | binary (data : Bytes)
  | ping
  | other
  deriving DecidableEq

/-- How a frame travels. -/
def Frame.message (frame : Frame) : Message := .binary frame.encode

/-- `frame_channel(128)`. -/
abbrev frameCapacity : Nat := 128

/-- The writer loop `while let Ok(frame) = frame_rx.recv().await { ws_sink.send(..) }`.
`stopping` is after the loop; the receiver is dropped when the task ends. -/
inductive Writer where
  | unspawned
  | receiving
  | sending (frame : Frame)
  | stopping
  | ended
  deriving DecidableEq

/-- `core-lib/src/session.rs`: the sender registered for each id, by the number
of its stream. -/
abbrev StreamRegistry := StreamId → Option Nat

namespace StreamRegistry

def new : StreamRegistry := fun _ => none
def register (registry : StreamRegistry) (id : StreamId) (k : Nat) : StreamRegistry := Function.update registry id (some k)
def close (registry : StreamRegistry) (id : StreamId) : StreamRegistry := Function.update registry id none
def closeAll (_ : StreamRegistry) : StreamRegistry := new

end StreamRegistry

/-- `routing` is the stream whose sender a `route` call holds. `put` (frames
written to the WebSocket) and `dispatched` (frames the reader took) are history. -/
structure Endpoint (φ : Type) where
  frames : Channel Frame frameCapacity
  writer : Writer
  registry : StreamRegistry
  streams : List (Stream φ)
  routing : Option Nat
  put : List Frame
  dispatched : List Frame

inductive EndpointAction where
  | pop
  | put
  | putFail
  | stream (k : Nat) (move : Stream.Move)
  | send (k : Nat)
  | unregister (k : Nat)
  | finish (k : Nat)
  | route

namespace Endpoint
variable {φ : Type}

def fresh (writer : Writer) : Endpoint φ := ⟨.empty, writer, .new, [], none, [], []⟩

def modify (e : Endpoint φ) (k : Nat) (change : Stream φ → Option (Stream φ)) : Option (Endpoint φ) :=
  e.streams[k]?.bind fun s => (change s).map fun s' => { e with streams := e.streams.set k s' }

/-- Send on the frame channel: wait while it is full, otherwise continue with the
outcome. -/
def offer (e : Endpoint φ) (frame : Frame) (sent unsent : Endpoint φ → Option (Endpoint φ)) : Option (Endpoint φ) :=
  match e.frames.send frame with
  | .full => none
  | .closed => unsent e
  | .accepted frames => sent { e with frames }

def closeStream (e : Endpoint φ) (id : StreamId) : Endpoint φ := { e with registry := e.registry.close id }
def closeAll (e : Endpoint φ) : Endpoint φ := { e with registry := e.registry.closeAll }

/-- `StreamRegistry::route` up to its await: look the sender up and keep a clone. -/
def route (e : Endpoint φ) (id : StreamId) (bytes : Bytes) : Option (Endpoint φ) :=
  match e.registry id with
  | none => some e
  | some k => ({ e with routing := some k }).modify k (·.step (.lookup bytes))

/-- No sender of stream `k`'s data channel is left. -/
def disconnected (e : Endpoint φ) (k : Nat) (s : Stream φ) : Bool := e.registry s.id ≠ some k ∧ e.routing ≠ some k

/-- The writer loop ends because every sender of the frame channel is dropped. -/
def writerExit (e : Endpoint φ) : Option (Endpoint φ) :=
  if e.writer = .receiving ∧ e.frames.queue = [] then some { e with writer := .stopping } else none

/-- What the writer task does after its loop; the receiver is dropped last. -/
def writerStop (e : Endpoint φ) (closesStreams : Bool) : Option (Endpoint φ) :=
  if e.writer = .stopping then
    some { e with
      writer := .ended
      frames := e.frames.dropReceiver
      registry := if closesStreams then e.registry.closeAll else e.registry }
  else none

def step (e : Endpoint φ) : EndpointAction → Option (Endpoint φ)
  | .pop =>
    match e.writer, e.frames.recv with
    | .receiving, some (frame, frames) => some { e with writer := .sending frame, frames }
    | _, _ => none
  | .put =>
    match e.writer with
    | .sending frame => some { e with writer := .receiving, put := e.put ++ [frame] }
    | _ => none
  | .putFail =>
    match e.writer with
    | .sending _ => some { e with writer := .stopping }
    | _ => none
  | .stream k move => if move.isLocal then e.modify k (·.step move) else none
  | .send k =>
    (e.streams[k]?.bind Stream.outgoing).bind fun frame =>
      e.offer frame (·.modify k (·.step .sent)) (·.modify k (·.step .unsent))
  | .unregister k =>
    e.streams[k]?.bind fun s => (e.closeStream s.id).modify k (·.step .unregister)
  | .finish k =>
    e.streams[k]?.bind fun s => if e.disconnected k s then e.modify k (·.step .finish) else none
  | .route => e.routing.bind fun k => ({ e with routing := none }).modify k (·.step .route)

/-- What a step puts on the WebSocket. -/
def emits (e : Endpoint φ) : EndpointAction → List Message
  | .put =>
    match e.writer with
    | .sending frame => [frame.message]
    | _ => []
  | _ => []

end Endpoint
end EchoProxy
