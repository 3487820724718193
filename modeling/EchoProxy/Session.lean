import EchoProxy.Endpoint
import EchoProxy.Lib.Transition

/-! `core-lib/src/session.rs` by itself: a `StreamRegistry` with any `register`, `close` and
`close_all` calls, the `route` calls of one reader, and receives on the receivers that
`register` returned. Registrations are numbered in the order of their calls. -/

namespace EchoProxy

/-- What `register` returned, and for which id. -/
structure DataRx where
  id : StreamId
  channel : Channel Bytes dataCapacity

/-- `found` is the registration whose sender the call looked up. -/
structure RouteCall where
  id : StreamId
  bytes : Bytes
  found : Option Nat
  deriving DecidableEq

/-- `routing` is the `route` call that waits for room: the registration whose sender it
holds, and its payload. `calls`, every `route` call so far, is history. -/
structure RegistryState where
  registry : StreamRegistry
  receivers : List DataRx
  routing : Option (Nat × Bytes)
  calls : List RouteCall

inductive RegistryAction where
  | register (id : StreamId)
  | close (id : StreamId)
  | closeAll
  -- the two halves of `route`, up to its await and after it
  | route (id : StreamId) (bytes : Bytes)
  | send
  | recv (k : Nat)
  | dropReceiver (k : Nat)

namespace RegistryState

def fresh : RegistryState := ⟨.new, [], none, []⟩

def register (s : RegistryState) (id : StreamId) : RegistryState :=
  { s with registry := s.registry.register id s.receivers.length, receivers := s.receivers ++ [⟨id, .empty⟩] }

/-- `route` up to its await: the sender is cloned and the lock released. -/
def route (s : RegistryState) (id : StreamId) (bytes : Bytes) : RegistryState :=
  { s with routing := (s.registry id).map (·, bytes), calls := s.calls ++ [⟨id, bytes, s.registry id⟩] }

/-- `tx.send(data).await`, whose error is ignored. -/
def send (s : RegistryState) : Option RegistryState :=
  s.routing.bind fun (k, bytes) =>
    s.receivers[k]?.bind fun r =>
      match r.channel.send bytes with
      | .full => none
      | .closed => some { s with routing := none }
      | .accepted channel => some { s with routing := none, receivers := s.receivers.set k { r with channel } }

def step (s : RegistryState) : RegistryAction → Option RegistryState
  | .register id => some (s.register id)
  | .close id => some { s with registry := s.registry.close id }
  | .closeAll => some { s with registry := s.registry.closeAll }
  | .route id bytes => if s.routing = none then some (s.route id bytes) else none
  | .send => s.send
  | .recv k =>
    s.receivers[k]?.bind fun r =>
      if r.channel.receiver then
        r.channel.recv.map fun (_, channel) => { s with receivers := s.receivers.set k { r with channel } }
      else none
  | .dropReceiver k =>
    s.receivers[k]?.map fun r => { s with receivers := s.receivers.set k { r with channel := r.channel.dropReceiver } }

/-- A receive on receiver `k` fails: its queue is empty and no sender is left, neither in
the map nor with the `route` call in progress. -/
def disconnected (s : RegistryState) (k : Nat) : Bool :=
  s.receivers[k]?.any fun r =>
    r.channel.receiver ∧ r.channel.queue = [] ∧ s.registry r.id ≠ some k ∧ s.routing.map Prod.fst ≠ some k

/-- The payloads whose `route` call looked up registration `k`. -/
def lookedUp (s : RegistryState) (k : Nat) : List Bytes :=
  s.calls.filterMap fun call => if call.found = some k then some call.bytes else none

end RegistryState

def registrySystem : Transition.System RegistryState RegistryAction where
  init s := s = RegistryState.fresh
  step := RegistryState.step

end EchoProxy
