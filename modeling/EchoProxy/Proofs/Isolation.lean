import EchoProxy.Proofs.Deadlock

/-! What one stream can do to the others of its connection. Each reader loop waits
inside its dispatch: in `route` for room in a full queue, at the server also for the
connect of an OPEN and for room for its answer. Nothing else holds frames back. -/

namespace EchoProxy.Proofs.Isolation
open EchoProxy FrameSequences MuxInvariant Protocol Progress Quiescence Deadlock

/-- The client's reader waits in `route` for room in the full queue of a stream that is
not in its relay yet or whose socket takes no writes. -/
def ClientSuspended (m : Mux) : Prop :=
  ∃ k s, m.client.routing = some k ∧ m.client.streams[k]? = some s ∧ s.channel.queue.length = dataCapacity ∧
    (s.phase = .front ∨ Stalled s)

/-- The server's reader waits for a connect, for room for an OPEN_ACK on the full frame
channel, or in `route` for room in the full queue of a stream whose socket takes no writes. -/
def ServerSuspended (m : Mux) : Prop :=
  (∃ id dest, m.server.reader = .connecting id dest) ∨ Answering m.server ∧ m.server.frames.queue.length = frameCapacity ∨
    ∃ k u, m.server.routing = some k ∧ m.server.streams[k]? = some u ∧ u.channel.queue.length = dataCapacity ∧ Stalled u

/-- A connection at rest. -/
def AtRest (capacity : Nat) (m : Mux) : Prop := Connected m ∧ Quiet capacity m

section Rest
variable {capacity : Nat} {token : String} {resilient : Bool} {m : Mux}

theorem server_front (run : (muxSystem capacity token resilient).Reachable m) (id : StreamId) :
    ofId id m.server.dispatched <+: ofId id m.client.put := by
  obtain ⟨upload, download, joined⟩ := wires run
  apply ofId_isPrefix
  exact joined.sent ▸ List.prefix_append _ _

theorem client_front (run : (muxSystem capacity token resilient).Reachable m) (id : StreamId) :
    ofId id m.client.dispatched <+: ofId id m.server.put := by
  obtain ⟨upload, download, joined⟩ := wires run
  apply ofId_isPrefix
  exact joined.answered ▸ List.prefix_append _ _

/-- A server whose reader is not suspended has dispatched everything. -/
theorem server_all (run : (muxSystem capacity token resilient).Reachable m) (rest : AtRest capacity m)
    (free : ¬ServerSuspended m) : m.server.dispatched = m.client.put := by
  obtain ⟨upload, download, joined⟩ := wires run
  rcases (settled run rest.1 rest.2).serverReader with ⟨-, -, drained⟩ | suspended
  · have empty : upload = [] := List.map_eq_nil_iff.mp (joined.up.symm.trans drained)
    simpa [empty] using joined.sent.symm
  · exact absurd suspended free

theorem client_all (run : (muxSystem capacity token resilient).Reachable m) (rest : AtRest capacity m)
    (free : ¬ClientSuspended m) : m.client.dispatched = m.server.put := by
  obtain ⟨upload, download, joined⟩ := wires run
  rcases (settled run rest.1 rest.2).clientReader with ⟨-, drained⟩ | suspended
  · have empty : download = [] := List.map_eq_nil_iff.mp (joined.down.symm.trans drained)
    simpa [empty] using joined.answered.symm
  · exact absurd suspended free

end Rest

/-- Of what is put for a stream, each end has dispatched a front part, and at rest all of
it unless its reader is suspended. -/
structure Dispatches (capacity : Nat) (m : Mux) (id : StreamId) : Prop where
  upstream : ofId id m.server.dispatched <+: ofId id m.client.put
  downstream : ofId id m.client.dispatched <+: ofId id m.server.put
  allUpstream : AtRest capacity m → ¬ServerSuspended m → ofId id m.server.dispatched = ofId id m.client.put
  allDownstream : AtRest capacity m → ¬ClientSuspended m → ofId id m.client.dispatched = ofId id m.server.put

/-- Two runs in which the same is put for a stream: of what they dispatch for it one is
the front of the other, and at rest, neither reader suspended, they dispatch the same. -/
structure Alike (capacity : Nat) (m m' : Mux) (id : StreamId) : Prop where
  upstream : ofId id m.client.put = ofId id m'.client.put →
    (ofId id m.server.dispatched <+: ofId id m'.server.dispatched ∨ ofId id m'.server.dispatched <+: ofId id m.server.dispatched) ∧
      (AtRest capacity m → AtRest capacity m' → ¬ServerSuspended m → ¬ServerSuspended m' →
        ofId id m.server.dispatched = ofId id m'.server.dispatched)
  downstream : ofId id m.server.put = ofId id m'.server.put →
    (ofId id m.client.dispatched <+: ofId id m'.client.dispatched ∨ ofId id m'.client.dispatched <+: ofId id m.client.dispatched) ∧
      (AtRest capacity m → AtRest capacity m' → ¬ClientSuspended m → ¬ClientSuspended m' →
        ofId id m.client.dispatched = ofId id m'.client.dispatched)

/-- Only a suspended reader holds back the frames of a stream, whatever the others'
sockets and connects do. -/
theorem readers_hold_back (capacity : Nat) (token : String) (resilient : Bool) (m : Mux)
    (run : (muxSystem capacity token resilient).Reachable m) (id : StreamId) :
    Dispatches capacity m id ∧ ∀ m', (muxSystem capacity token resilient).Reachable m' → Alike capacity m m' id := by
  constructor
  · refine ⟨server_front run id, client_front run id, ?_, ?_⟩
    · intro rest free
      rw [server_all run rest free]
    · intro rest free
      rw [client_all run rest free]
  · intro m' run'
    constructor
    · intro same
      refine ⟨List.prefix_or_prefix_of_prefix (same ▸ server_front run id) (server_front run' id), ?_⟩
      intro rest rest' free free'
      rw [server_all run rest free, server_all run' rest' free', same]
    · intro same
      refine ⟨List.prefix_or_prefix_of_prefix (same ▸ client_front run id) (client_front run' id), ?_⟩
      intro rest rest' free free'
      rw [client_all run rest free, client_all run' rest' free', same]

/-- One relaying stream, and behind the OPEN of a second one a payload for the first. -/
private def pendingConnect : List MuxAction :=
  oneTunnel.take 17 ++ openStream 1 2 (.socksViaMuxWithTimeout "1.1.1.1:80") ++
    [.client (.endpoint (.stream 0 (.arrive [7])))] ++ clientReads 0 ++ clientWrites

/-- While the connect of stream 2 does not complete, the payload of stream 1 stays on the
WebSocket, with room in every queue and nobody's socket at fault. -/
theorem pending_connect_holds_back : ∃ m, (muxSystem 1 "t" true).Reachable m ∧ AtRest 1 m ∧
    (m.server.streams.all fun u => u.id = 1 ∧ u.channel.queue.length < dataCapacity) ∧ m.server.registry 1 = some 0 ∧
    ofId 1 m.server.dispatched ≠ ofId 1 m.client.put := by
  have executed : ((muxSystem 1 "t" true).exec ⟨Client.fresh "t" true, Server.fresh, [], []⟩ pendingConnect).any (fun m =>
      isResting 1 m && decide (
        (m.server.streams.all fun u => u.id = 1 ∧ u.channel.queue.length < dataCapacity) = true ∧ m.server.registry 1 = some 0 ∧
        ofId 1 m.server.dispatched ≠ ofId 1 m.client.put)) = true := by decide +kernel
  obtain ⟨m, run, up, quiet, view⟩ := resting_reached executed
  obtain ⟨room, registered, held⟩ := of_decide_eq_true view
  exact ⟨m, run, ⟨up, quiet⟩, room, registered, held⟩

theorem one_tunnel_dispatches : ∃ m, m.server.streams.map (·.socket.written) = [[7]] ∧ Dispatches 1 m 1 := by
  obtain ⟨m, run, -, -, written⟩ := oneTunnel_runs
  obtain ⟨dispatches, -⟩ := readers_hold_back 1 "t" true m run 1
  exact ⟨m, written, dispatches⟩

end EchoProxy.Proofs.Isolation
