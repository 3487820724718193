import EchoProxy.Proofs.Protocol

/-! End-to-end integrity: what was routed to a stream at one end is the front of
what its twin at the other end read, and so is what was written. -/

namespace EchoProxy.Proofs.Integrity
open EchoProxy StreamFlow HandlerFlow EndpointSteps EndpointAccounts ClientSteps ServerSteps FrameSequences MuxInvariant
  Protocol

/-! ### Routed payloads -/

private theorem unregistered_new {φ : Type} {live : Prop} {registry : StreamRegistry} {routing : Option Nat}
    {streams : List (Stream φ)} (wired : Wired live registry routing streams) (id : StreamId) :
    registry id ≠ some streams.length := by
  intro registered
  obtain ⟨s, found, -⟩ := wired.registered id _ registered
  simp at found

/-- `unanswered`: nothing has come in for a stream that has sent nothing. -/
theorem client_delivered {token : String} {c c' : Client} {action} (client : ClientInvariant.Valid token c)
    (effect : ClientEffect c action c') (distinct : Distinct c.streams)
    (unanswered : ∀ s ∈ c.streams, s.emitted = [] → payloads s.id c.dispatched = [])
    (valid : Delivered c.registry c.streams c.dispatched) : Delivered c'.registry c'.streams c'.dispatched := by
  cases effect with
  | accept => exact valid.append rfl (unregistered_new client.wired _)
  | register found stepped =>
    have member := List.mem_of_getElem? found
    refine valid.register found stepped.same.1 stepped.same.2.2.1 (unanswered _ member ?_)
    cases stepped with
    | registered front start =>
      have stage := ((client.streams.handled _ member).front front).1
      rw [start] at stage
      exact stage.1
    | refused _ _ _ which => simp at which
  | insertAck found stepped => exact valid.set found stepped.same.1 stepped.same.2.2.1
  | leave found stepped => exact (valid.set found stepped.same.1 stepped.same.2.2.1).close _
  | sent found _ _ _ stepped | unsent found _ _ _ stepped => exact valid.set found stepped.same.1 stepped.same.2.2.1
  | ackLost found _ stepped | handler found _ stepped => exact valid.set found stepped.same.1 stepped.same.2.2.1
  | endpoint effect => exact endpoint_delivered effect valid
  | acked _ _ _ _ found stepped =>
    exact (valid.skip fun _ _ => rfl).set found stepped.same.1 stepped.same.2.2.1
  | routing _ _ _ registered found stepped =>
    refine valid.route distinct found registered (client.wired.own registered found) stepped.same.1 ?_
    cases stepped
    rfl
  | closed => exact (valid.skip fun _ _ => rfl).close _
  | skipped _ _ _ unknown => exact valid.skip (client_unrouted unknown)
  | readerCloseAll | releaseCloseAll => exact valid.closeAll
  | writerStop =>
    simp only
    split
    · exact valid.closeAll
    · exact valid
  | _ => exact valid

/-- `first`: nothing has come in for an id before its OPEN. -/
theorem server_delivered {c c' : Server} {action} (server : ServerInvariant.Valid c)
    (effect : ServerEffect c action c') (distinct : Distinct c.streams)
    (first : ∀ id dest, c.reader = .connecting id dest → payloads id c.dispatched = [])
    (valid : Delivered c.registry c.streams c.dispatched) : Delivered c'.registry c'.streams c'.dispatched := by
  cases effect with
  | endpoint effect => exact endpoint_delivered effect valid
  | hello | opening | blocked => exact valid.skip fun _ _ => rfl
  | routing _ _ _ registered found stepped =>
    refine valid.route distinct found registered (server.routes.wired.own registered found) stepped.same.1 ?_
    cases stepped
    rfl
  | closed => exact (valid.skip fun _ _ => rfl).close _
  | skipped _ _ _ unknown => exact valid.skip (server_unrouted unknown)
  | connectFail => exact valid.close _
  | connectOk now => exact valid.connect rfl (first _ _ now)
  | acked _ found | unacked _ found | droppedAcking _ found => exact valid.set found rfl rfl
  | readerCloseAll | writerStop => exact valid.closeAll
  | _ => exact valid

section Runs
variable {capacity : Nat} {token : String} {resilient : Bool} {allowed : MuxAction → Prop} {m : Mux}

/-- What the server has dispatched for an id is at the front of what its stream
at the client sent. -/
theorem dispatched_upstream (run : (muxSystem capacity token resilient).Reach allowed m) (id : StreamId) :
    ofId id m.server.dispatched <+: ofId id m.client.frames.history := by
  have client := ClientInvariant.client_valid (client_reach run)
  obtain ⟨upload, download, joined⟩ := wires run
  have front : m.server.dispatched <+: .hello token :: m.client.frames.history :=
    (joined.sent ▸ List.prefix_append _ _).trans client.started.order.put_isPrefix
  simpa [ofId, streamId] using ofId_isPrefix id front

theorem dispatched_downstream (run : (muxSystem capacity token resilient).Reach allowed m) (id : StreamId) :
    ofId id m.client.dispatched <+: ofId id m.server.frames.history := by
  have server := ServerInvariant.server_valid (server_reach run)
  obtain ⟨upload, download, joined⟩ := wires run
  exact ofId_isPrefix id ((joined.answered ▸ List.prefix_append _ _).trans server.admitted.order.put_isPrefix)

/-- Nothing comes back for an id that was not opened. -/
theorem unopened_silent (run : (muxSystem capacity token resilient).Reach allowed m) {id : StreamId}
    (none : ofId id m.client.frames.history = []) : ofId id m.client.dispatched = [] := by
  have server := ServerInvariant.server_valid (server_reach run)
  have undispatched := dispatched_upstream run id
  rw [none] at undispatched
  obtain ⟨done, settled⟩ := server.opens.settled
  have silent : ofId id m.server.frames.history = [] := by
    refine ofId_absent settled.known fun there => openIds_of_ofId ?_ (List.prefix_nil.mp undispatched)
    rw [settled.opens]
    exact List.mem_append_left _ there
  have front := dispatched_downstream run id
  rw [silent] at front
  exact List.prefix_nil.mp front

/-- While `handle_open` waits for a connect, the OPEN is the first frame of its id
the server has dispatched. -/
theorem connecting_first (run : (muxSystem capacity token resilient).Reach allowed m) (distinct : Distinct m.client.streams)
    {id : StreamId} {dest : String} (connecting : m.server.reader = .connecting id dest) :
    ∃ before, m.server.dispatched = before ++ [.openStream id dest] ∧ ofId id before = [] := by
  have client := ClientInvariant.client_valid (client_reach run)
  have server := ServerInvariant.server_valid (server_reach run)
  have nodup := server_nodup run distinct
  obtain ⟨before, latest⟩ := server.latest id dest connecting
  obtain ⟨other, sent, shape⟩ := client_opens client distinct id
  have front := (dispatched_upstream run id).trans shape
  rw [latest] at front nodup
  refine ⟨before, latest, ?_⟩
  cases earlier : ofId id before with
  | nil => rfl
  | cons head rest =>
    rw [ofId_append, earlier, List.cons_append, List.cons_append, List.cons_prefix_cons] at front
    have inside : .openStream id other ∈ ofId id before := by
      rw [earlier, front.1]
      exact List.mem_cons_self
    have there := (List.mem_filter.mp inside).1
    rw [openIds_append] at nodup
    exact absurd rfl ((List.nodup_append.mp nodup).2.2 id (openIds_mem.mpr ⟨other, there⟩) id (by simp [openIds]))

/-- Nothing comes in for an id before its OPEN. -/
theorem connecting_silent (run : (muxSystem capacity token resilient).Reach allowed m) (distinct : Distinct m.client.streams)
    {id : StreamId} {dest : String} (connecting : m.server.reader = .connecting id dest) :
    payloads id m.server.dispatched = [] := by
  obtain ⟨before, latest, nothing⟩ := connecting_first run distinct connecting
  rw [latest, payloads_append, payloads_of_ofId_nil nothing]
  rfl

theorem both_delivered (run : (muxSystem capacity token resilient).Reach allowed m) (distinct : Distinct m.client.streams) :
    Delivered m.client.registry m.client.streams m.client.dispatched ∧
      Delivered m.server.registry m.server.streams m.server.dispatched := by
  refine run.invariant (p := fun m => Distinct m.client.streams →
    Delivered m.client.registry m.client.streams m.client.dispatched ∧
      Delivered m.server.registry m.server.streams m.server.dispatched) ?_ ?_ distinct
  · rintro m rfl -
    exact ⟨fun j t there => by simp [Client.fresh, Endpoint.fresh] at there,
      fun j t there => by simp [Server.fresh, Endpoint.fresh] at there⟩
  · intro before action after prior valid _ taken distinct
    have client := ClientInvariant.client_valid (client_reach prior)
    have server := ServerInvariant.server_valid (server_reach prior)
    cases mux_effect taken with
    | client stepped =>
      have effect := client_effect stepped
      have earlier := ClientInvariant.Distinct.before effect distinct
      refine ⟨client_delivered client effect earlier ?_ (valid earlier).1, (valid earlier).2⟩
      intro s member silent
      obtain ⟨k, found⟩ := List.getElem?_of_mem member
      exact payloads_of_ofId_nil (unopened_silent prior ((client.sources.attributed earlier k s found).trans silent))
    | server stepped =>
      obtain ⟨done, settled⟩ := server.opens.settled
      exact ⟨(valid distinct).1, server_delivered server (server_effect stepped) (settled.distinct (server_nodup prior distinct))
        (fun _ _ => connecting_silent prior distinct) (valid distinct).2⟩

end Runs

/-! ### Bytes written -/

section Pairs
variable {capacity : Nat} {token : String} {resilient : Bool} {allowed : MuxAction → Prop} {m : Mux}

/-- Every stream of the server has its twin at the client. -/
theorem client_twin (run : (muxSystem capacity token resilient).Reach allowed m) (distinct : Distinct m.client.streams)
    {u : Stream Opened} (member : u ∈ m.server.streams) : ∃ s ∈ m.client.streams, s.id = u.id := by
  have client := ClientInvariant.client_valid (client_reach run)
  have server := ServerInvariant.server_valid (server_reach run)
  obtain ⟨done, settled⟩ := server.opens.settled
  have opened : u.id ∈ openIds m.server.dispatched := by
    rw [settled.opens]
    exact List.mem_append_left _ (settled.ids.subset (List.mem_map_of_mem member))
  have some : ofId u.id m.client.frames.history ≠ [] := by
    intro none
    have front := dispatched_upstream run u.id
    rw [none] at front
    exact openIds_of_ofId opened (List.prefix_nil.mp front)
  obtain ⟨s, there, same, -⟩ := client_stream client distinct some
  exact ⟨s, there, same⟩

private theorem payloads_conforming {id : StreamId} {head : Frame} {sent : List Bytes} {frames : List Frame}
    (front : frames <+: head :: sent.map (.data id) ++ [.close id]) (head' : payload id head = none) :
    payloads id frames <+: sent := by
  have shape : payloads id (head :: sent.map (.data id) ++ [.close id]) = sent := by
    have top : payloads id [head] = [] := List.filterMap_cons_none head'
    rw [List.cons_append, ← List.singleton_append, payloads_append, payloads_append, payloads_data, top]
    simp [payloads, payload]
  exact shape ▸ payloads_isPrefix id front

theorem flatten_isPrefix {xs ys : List Bytes} (front : xs <+: ys) : xs.flatten <+: ys.flatten := by
  obtain ⟨rest, rfl⟩ := front
  rw [List.flatten_append]
  exact List.prefix_append _ _

/-- Upstream: what was routed to a stream is the front of what its client handler
forwards and reads. -/
theorem routed_upstream (run : (muxSystem capacity token resilient).Reach allowed m) (distinct : Distinct m.client.streams)
    {s : Stream Handler} {u : Stream Opened} (here : s ∈ m.client.streams) (there : u ∈ m.server.streams) (same : s.id = u.id) :
    u.inflow <+: prelude s.front ++ s.socket.chunks := by
  have client := ClientInvariant.client_valid (client_reach run)
  obtain ⟨j, found⟩ := List.getElem?_of_mem here
  obtain ⟨k, found'⟩ := List.getElem?_of_mem there
  have inflow : u.inflow <+: payloads u.id m.server.dispatched := ((both_delivered run distinct).2 k u found').1
  obtain ⟨sent, read, emitted⟩ := (client.streams.handled s here).conforms
  have conforming : payloads u.id m.server.dispatched <+: sent := by
    have front := dispatched_upstream run u.id
    rw [← same, client.sources.attributed distinct j s found] at front
    rw [← payloads_ofId, ← same]
    exact payloads_conforming (front.trans emitted) rfl
  exact inflow.trans (conforming.trans read)

/-- Downstream: what was routed to a stream is the front of what its upstream sent. -/
theorem routed_downstream (run : (muxSystem capacity token resilient).Reach allowed m) (distinct : Distinct m.client.streams)
    {s : Stream Handler} {u : Stream Opened} (here : s ∈ m.client.streams) (there : u ∈ m.server.streams) (same : s.id = u.id) :
    s.inflow <+: u.socket.chunks := by
  have server := ServerInvariant.server_valid (server_reach run)
  obtain ⟨j, found⟩ := List.getElem?_of_mem here
  obtain ⟨k, found'⟩ := List.getElem?_of_mem there
  have inflow : s.inflow <+: payloads s.id m.client.dispatched := ((both_delivered run distinct).1 j s found).1
  obtain ⟨sent, read, emitted⟩ := (server.streams.relayed u there).conforms
  have conforming : payloads s.id m.client.dispatched <+: sent := by
    have front := dispatched_downstream run s.id
    rw [same, server.opens.attributed (server_nodup run distinct) k u found'] at front
    rw [← payloads_ofId, same]
    exact payloads_conforming (front.trans emitted) rfl
  exact inflow.trans (conforming.trans read)

/-- What was written to a stream's upstream is the front of what its client handler
forwards and reads. -/
theorem written_upstream (run : (muxSystem capacity token resilient).Reach allowed m) (distinct : Distinct m.client.streams)
    {s : Stream Handler} {u : Stream Opened} (here : s ∈ m.client.streams) (there : u ∈ m.server.streams) (same : s.id = u.id) :
    u.socket.written <+: (prelude s.front ++ s.socket.chunks).flatten := by
  have relayed := (ServerInvariant.server_valid (server_reach run)).streams.relayed u there
  by_cases absent : u.task = .absent
  · rw [(relayed.unrelayed absent).2]
    exact List.nil_prefix
  · obtain ⟨bytes, written, front⟩ := relayed.inbound.relayed absent
    rw [written, List.nil_append]
    exact front.trans (flatten_isPrefix (routed_upstream run distinct here there same))

/-- What the write task wrote to the local socket is the front of what the stream's
upstream sent. -/
theorem written_downstream (run : (muxSystem capacity token resilient).Reach allowed m) (distinct : Distinct m.client.streams)
    {s : Stream Handler} {u : Stream Opened} (here : s ∈ m.client.streams) (there : u ∈ m.server.streams) (same : s.id = u.id)
    (running : s.task ≠ .absent) :
    ∃ relayed, s.socket.written = greeting s.front ++ relayed ∧ relayed <+: u.socket.chunks.flatten := by
  have client := ClientInvariant.client_valid (client_reach run)
  obtain ⟨bytes, written, front⟩ := (client.streams.handled s here).inbound.relayed running
  exact ⟨bytes, written, front.trans (flatten_isPrefix (routed_downstream run distinct here there same))⟩

end Pairs

end EchoProxy.Proofs.Integrity
