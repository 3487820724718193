import EchoProxy.Stream
import EchoProxy.Lib.Transition

/-! `relay_tcp`, the relay of the direct routes: two tasks, each of which reads one
socket and writes the other. `drop(a_to_b)` detaches the spawned task, which goes on
when the caller has returned. Each task owns one half of each socket, so both sockets
are open until both tasks have ended. -/

namespace EchoProxy

/-- What the peer of a socket does. -/
inductive PeerMove where
  | arrive (bytes : Bytes)
  | shut
  | setWritable (writable : Bool)

def Socket.peer (socket : Socket) : PeerMove → Option Socket
  | .arrive bytes => if socket.shut then none else some { socket with incoming := socket.incoming ++ bytes }
  | .shut => some { socket with shut := true }
  | .setWritable writable => some { socket with writable }

/-- One task, `loop { match ar.read(&mut buf).await { .. bw.write_all(&buf[..n]) .. } }`. -/
inductive Pump where
  | reading
  | writing (rest : Bytes)
  | ended
  deriving DecidableEq

inductive PumpMove where
  | read (count : Nat)
  | readEnd
  | readError
  | write (count : Nat)
  | writeError

namespace Pump

/-- `write_all` of no bytes completes at once. -/
def writeAll (bytes : Bytes) : Pump := if bytes = [] then .reading else .writing bytes

/-- The task with its source and its target. -/
def step (source target : Socket) : Pump → PumpMove → Option (Pump × Socket × Socket)
  | .reading, .read count =>
    if 0 < count ∧ count ≤ bufferSize ∧ count ≤ source.incoming.length then
      some (.writeAll (source.incoming.take count),
        { source with incoming := source.incoming.drop count, chunks := source.chunks ++ [source.incoming.take count] }, target)
    else none
  | .reading, .readEnd => if source.incoming = [] ∧ source.shut then some (.ended, source, target) else none
  | .reading, .readError => some (.ended, source, target)
  | .writing rest, .write count =>
    if target.writable ∧ 0 < count ∧ count ≤ rest.length then
      some (.writeAll (rest.drop count), source, { target with written := target.written ++ rest.take count })
    else none
  | .writing _, .writeError => some (.ended, source, target)
  | _, _ => none

end Pump

structure RelayTcp where
  a : Socket
  b : Socket
  aToB : Pump
  bToA : Pump

inductive RelayTcpAction where
  | a (move : PeerMove)
  | b (move : PeerMove)
  | aToB (move : PumpMove)
  | bToA (move : PumpMove)

namespace RelayTcp

/-- No task is left, and so both sockets are closed. -/
def isOver (r : RelayTcp) : Bool := r.aToB = .ended ∧ r.bToA = .ended

def step (r : RelayTcp) : RelayTcpAction → Option RelayTcp
  | .a move => (r.a.peer move).map fun a => { r with a }
  | .b move => (r.b.peer move).map fun b => { r with b }
  | .aToB move => (r.aToB.step r.a r.b move).map fun (aToB, a, b) => { r with aToB, a, b }
  | .bToA move => (r.bToA.step r.b r.a move).map fun (bToA, b, a) => { r with bToA, b, a }

end RelayTcp

/-- The sockets come with what has arrived on them; the history is that of the relay. -/
def relayTcpSystem : Transition.System RelayTcp RelayTcpAction where
  init r := (r.aToB = .reading ∧ r.bToA = .reading) ∧ (r.a.chunks = [] ∧ r.a.written = []) ∧ r.b.chunks = [] ∧ r.b.written = []
  step := RelayTcp.step

def PumpMove.isInternal : PumpMove → Bool
  | .read _ | .readEnd | .write _ => true
  | _ => false

/-- The steps of the two tasks, as long as no read or write fails. -/
def RelayTcpAction.isInternal : RelayTcpAction → Bool
  | .aToB move | .bToA move => move.isInternal
  | _ => false

end EchoProxy
