import EchoProxy.Lib.Channel
import EchoProxy.Frame

/-! One tunnelled stream at one endpoint: the relay loop that turns socket reads
into frames and the write task that turns routed payloads into socket writes.
The relay loop and the write task are the same code in `do_mux_relay`,
`handle_via_mux` and the server's `handle_open`. -/

namespace EchoProxy

/-- Slots of the channel `StreamRegistry::register` creates. -/
abbrev dataCapacity : Nat := 32

/-- Bytes one socket read returns at most. -/
def bufferSize : Nat := 8192

/-- A TCP socket seen from the proxy. `chunks` (what each read returned) and
`written` are history. -/
structure Socket where
  incoming : Bytes
  shut : Bool
  writable : Bool
  chunks : List Bytes
  written : Bytes

def Socket.fresh : Socket := ⟨[], false, true, [], []⟩

/-- The task `while let Ok(data) = data_rx.recv().await { write_all(&data) }`. It
owns the receiver, so the data channel has none once it has ended or failed. -/
inductive WriteTask where
  | absent
  | waiting
  | writing (rest : Bytes)
  | ended
  | failed (rest : Bytes)
  deriving DecidableEq

/-- `write_all` of no bytes completes at once. -/
def WriteTask.writeAll (bytes : Bytes) : WriteTask := if bytes = [] then .waiting else .writing bytes

/-- Bytes taken from the data channel and not yet written. -/
def WriteTask.rest : WriteTask → Bytes
  | .writing rest | .failed rest => rest
  | _ => []

/-- Where the stream's own task stands. `front` is everything before the relay
loop, which differs between the handlers. -/
inductive Phase where
  | front
  | reading
  | sending (bytes : Bytes)
  | closing
  | unregistering
  | done
  deriving DecidableEq

/-- `φ` is the state of the front. `arriving` is the payload of the `route` call
in progress; `inflow` (payloads routed to this stream) and `emitted` (its frames
the frame channel accepted) are history. -/
structure Stream (φ : Type) where
  id : StreamId
  front : φ
  phase : Phase
  channel : Channel Bytes dataCapacity
  arriving : Option Bytes
  task : WriteTask
  socket : Socket
  inflow : List Bytes
  emitted : List Frame

namespace Stream
variable {φ : Type}

def fresh (id : StreamId) (front : φ) : Stream φ :=
  ⟨id, front, .front, .empty, none, .absent, .fresh, [], []⟩

inductive Move where
  -- the peer of the socket
  | arrive (bytes : Bytes)
  | shut
  | setWritable (writable : Bool)
  -- the relay loop
  | read (count : Nat)
  | readEnd
  | readError
  | sent
  | unsent
  | unregister
  -- the write task
  | recv
  | write (count : Nat)
  | writeError
  | finish
  -- the reader of the connection, in `StreamRegistry::route`
  | lookup (bytes : Bytes)
  | route

/-- Moves that neither need nor change anything outside the stream. -/
def Move.isLocal : Move → Bool
  | .sent | .unsent | .unregister | .finish | .lookup _ | .route => false
  | _ => true

/-- The frame the relay loop waits to send. -/
def outgoing (s : Stream φ) : Option Frame :=
  match s.phase with
  | .sending bytes => some (.data s.id bytes)
  | .closing => some (.close s.id)
  | _ => none

def step (s : Stream φ) : Move → Option (Stream φ)
  | .arrive bytes =>
    if s.socket.shut then none else some { s with socket.incoming := s.socket.incoming ++ bytes }
  | .shut => some { s with socket.shut := true }
  | .setWritable writable => some { s with socket.writable := writable }
  | .read count =>
    if s.phase = .reading ∧ 0 < count ∧ count ≤ bufferSize ∧ count ≤ s.socket.incoming.length then
      some { s with
        phase := .sending (s.socket.incoming.take count)
        socket.incoming := s.socket.incoming.drop count
        socket.chunks := s.socket.chunks ++ [s.socket.incoming.take count] }
    else none
  | .readEnd =>
    if s.phase = .reading ∧ s.socket.incoming = [] ∧ s.socket.shut then some { s with phase := .closing } else none
  | .readError => if s.phase = .reading then some { s with phase := .closing } else none
  | .sent =>
    match s.phase with
    | .sending bytes => some { s with phase := .reading, emitted := s.emitted ++ [.data s.id bytes] }
    | .closing => some { s with phase := .unregistering, emitted := s.emitted ++ [.close s.id] }
    | _ => none
  -- a failed DATA send breaks the loop, a failed CLOSE send is ignored
  | .unsent =>
    match s.phase with
    | .sending _ => some { s with phase := .closing }
    | .closing => some { s with phase := .unregistering }
    | _ => none
  | .unregister => if s.phase = .unregistering then some { s with phase := .done } else none
  | .recv =>
    match s.task, s.channel.recv with
    | .waiting, some (bytes, channel) => some { s with task := .writeAll bytes, channel }
    | _, _ => none
  | .write count =>
    match s.task with
    | .writing rest =>
      if s.socket.writable ∧ 0 < count ∧ count ≤ rest.length then
        some { s with task := .writeAll (rest.drop count), socket.written := s.socket.written ++ rest.take count }
      else none
    | _ => none
  | .writeError =>
    match s.task with
    | .writing rest => some { s with task := .failed rest, channel := s.channel.dropReceiver }
    | _ => none
  | .finish =>
    if s.task = .waiting ∧ s.channel.queue = [] then
      some { s with task := .ended, channel := s.channel.dropReceiver }
    else none
  | .lookup bytes =>
    if s.arriving = none then some { s with arriving := some bytes, inflow := s.inflow ++ [bytes] } else none
  | .route =>
    match s.arriving with
    | none => none
    | some bytes =>
      match s.channel.send bytes with
      | .full => none
      | .closed => some { s with arriving := none }
      | .accepted channel => some { s with arriving := none, channel }

/-- The relay loop starts and spawns the write task. -/
def relay (s : Stream φ) : Stream φ := { s with phase := .reading, task := .waiting }

/-- The front returns before the relay; the receiver it holds is dropped. -/
def abandon (s : Stream φ) : Stream φ := { s with phase := .done, channel := s.channel.dropReceiver }

end Stream
end EchoProxy
