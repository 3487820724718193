import EchoProxy.Proofs.Conservation

/-! The tunnel as a whole: every stream is a pair of byte pipes, one in each
direction, through six queues. -/

namespace EchoProxy.Proofs.EndToEnd
open EchoProxy StreamFlow HandlerFlow EndpointSteps EndpointAccounts FrameSequences MuxInvariant Protocol Integrity Conservation

/-- The frame a writer loop has in hand. -/
def inHand : Writer → List Frame
  | .sending frame => [frame]
  | _ => []

/-- The frames on a wire. -/
def onWire (wire : List Message) : List Frame :=
  wire.filterMap fun
    | .binary data => (Frame.decode data).toOption
    | _ => none

/-- Payloads read at the sending end of a stream and not yet taken by the write
task of the other: on its data channel, in a `route` call, on the wire, in the
writer's hand, on the frame channel and in the relay loop's buffer. -/
def underway {φ ψ : Type} (receiver : Stream ψ) (wire : List Message) (e : Endpoint φ) (sender : Stream φ) : List Bytes :=
  receiver.channel.queue ++ receiver.arriving.toList ++
    payloads sender.id (onWire wire ++ inHand e.writer ++ e.frames.queue) ++ held sender.phase

@[simp] theorem onWire_message (frames : List Frame) : onWire (frames.map Frame.message) = frames := by
  simp [onWire, List.filterMap_map, Function.comp_def, Frame.message, Except.toOption]

theorem payloads_order {φ : Type} {greeting : List Frame} {e : Endpoint φ} {id : StreamId} (order : InOrder greeting e)
    (running : e.writer ≠ .stopping ∧ e.writer ≠ .ended) (silent : payloads id greeting = []) :
    payloads id (e.put ++ inHand e.writer ++ e.frames.queue) = payloads id e.frames.history := by
  have placed := order.2
  rw [Channel.history]
  cases writer : e.writer with
  | unspawned =>
    rw [writer] at placed
    simp [placed.1, placed.2, inHand]
  | receiving | sending =>
    rw [writer] at placed
    simp [inHand, placed, silent]
  | stopping => exact absurd writer running.1
  | ended => exact absurd writer running.2

private theorem payloads_farewell (id : StreamId) (phase : Phase) : payloads id (farewell id phase) = [] := by
  unfold farewell
  split <;> rfl

/-- The payloads a stream's tasks sent, and the one still in the relay loop's
buffer, are what its front sent and its socket was read for. -/
theorem outbound_payloads {φ : Type} {s : Stream φ} {head : Frame} {start : List Bytes}
    (sent : Outbound (head :: start.map (.data s.id)) s) (opening : payloads s.id [head] = []) :
    payloads s.id s.emitted ++ held s.phase = start ++ s.socket.chunks := by
  have account := congrArg (payloads s.id) sent
  rw [← List.singleton_append, payloads_append, payloads_append, payloads_append, payloads_append, payloads_data,
    payloads_data, payloads_data, payloads_farewell, opening] at account
  simpa using account

/-- One direction of a stream: the accounts of its two ends meet on the wire. -/
private theorem direction {φ ψ : Type} {greeting : List Frame} {e : Endpoint φ} {sender : Stream φ} {receiver : Stream ψ}
    {head : Frame} {start : List Bytes} {before : Bytes} {frames dispatched : List Frame}
    (order : InOrder greeting e) (running : e.writer ≠ .stopping ∧ e.writer ≠ .ended)
    (silent : payloads sender.id greeting = []) (attributed : ofId sender.id e.frames.history = sender.emitted)
    (sent : Outbound (head :: start.map (.data sender.id)) sender) (opening : payloads sender.id [head] = [])
    (put : e.put = dispatched ++ frames) (inbound : Inbound before receiver) (started : receiver.task ≠ .absent)
    (fed : receiver.inflow = payloads sender.id dispatched)
    (queued : receiver.inflow = receiver.channel.history ++ receiver.arriving.toList) :
    receiver.socket.written ++ receiver.task.rest ++ (underway receiver (frames.map Frame.message) e sender).flatten =
      before ++ (start ++ sender.socket.chunks).flatten := by
  have accepted : payloads sender.id (dispatched ++ frames ++ inHand e.writer ++ e.frames.queue) =
      payloads sender.id sender.emitted := by
    rw [← put, payloads_order order running silent, ← attributed, payloads_ofId]
  have whole : receiver.channel.taken ++ underway receiver (frames.map Frame.message) e sender = start ++ sender.socket.chunks := by
    calc receiver.channel.taken ++ underway receiver (frames.map Frame.message) e sender
        = receiver.inflow ++ payloads sender.id (frames ++ inHand e.writer ++ e.frames.queue) ++ held sender.phase := by
          simp [underway, queued, Channel.history]
      _ = payloads sender.id (dispatched ++ frames ++ inHand e.writer ++ e.frames.queue) ++ held sender.phase := by
          simp [fed]
      _ = start ++ sender.socket.chunks := by rw [accepted, outbound_payloads sent opening]
  obtain ⟨relayed, written, taken⟩ := inbound.written started
  rw [← whole, written, List.flatten_append, ← taken]
  simp

/-- A stream that still listens and whose writes succeed has everything that was
dispatched for it. -/
theorem listening_account {φ : Type} {greeting : Bytes} {registry : StreamRegistry} {streams : List (Stream φ)}
    {dispatched : List Frame} {listening : Stream φ → Prop} {k : Nat} {s : Stream φ} (found : streams[k]? = some s)
    (inbound : Inbound greeting s) (delivered : Delivered registry streams dispatched)
    (fed : AllFed listening registry dispatched streams) (finished : Finished registry streams) (listens : listening s)
    (running : s.task ≠ .absent) (writes : ∀ rest, s.task ≠ .failed rest) :
    s.inflow = payloads s.id dispatched ∧ s.inflow = s.channel.history ++ s.arriving.toList := by
  refine ⟨(fed k s found listens).elim (delivered k s found).2 And.right, ?_⟩
  cases task : s.task with
  | absent => exact absurd task running
  | failed rest => exact absurd task (writes rest)
  | ended =>
    obtain ⟨-, idle, drained, received⟩ := finished k s found task
    simp [Channel.history, idle, drained, received]
  | waiting => exact inbound.queued (inbound.attended.mpr (.inr (.inl task)))
  | writing rest => exact inbound.queued (inbound.attended.mpr (.inr (.inr ⟨rest, task⟩)))

section Pairs
variable {capacity : Nat} {token : String} {resilient : Bool} {allowed : MuxAction → Prop} {m : Mux}

/-- A handler that has entered its relay has its twin at the server, relaying as well. -/
theorem server_twin (run : (muxSystem capacity token resilient).Reach allowed m) (distinct : Distinct m.client.streams)
    {s : Stream Handler} (here : s ∈ m.client.streams) (relaying : s.task ≠ .absent) :
    ∃ u ∈ m.server.streams, u.id = s.id ∧ u.task ≠ .absent := by
  have client := ClientInvariant.client_valid (client_reach run)
  have server := ServerInvariant.server_valid (server_reach run)
  have nodup := server_nodup run distinct
  have granted : .openAck s.id true ∈ m.client.dispatched :=
    client.acks.slots s here true ((client.streams.handled s here).granted relaying)
  have answered : .openAck s.id true ∈ ofId s.id m.server.frames.history :=
    (dispatched_downstream run s.id).subset (List.mem_filter.mpr ⟨granted, by simp [streamId]⟩)
  have registered : s.id ∈ m.server.streams.map Stream.id := by
    by_contra absent
    have only := (server.opens.refused nodup s.id absent).subset answered
    simp at only
  obtain ⟨u, there, same⟩ := List.mem_map.mp registered
  obtain ⟨k, found⟩ := List.getElem?_of_mem there
  refine ⟨u, there, same, fun absent => ?_⟩
  rw [← same, server.opens.attributed nodup k u found, ((server.streams.relayed u there).unrelayed absent).1] at answered
  cases answered

theorem twin_relays (run : (muxSystem capacity token resilient).Reach allowed m) (distinct : Distinct m.client.streams)
    {s : Stream Handler} {u : Stream Opened} (here : s ∈ m.client.streams) (there : u ∈ m.server.streams) (same : s.id = u.id)
    (relaying : s.task ≠ .absent) : u.task ≠ .absent := by
  have server := ServerInvariant.server_valid (server_reach run)
  obtain ⟨twin, there', alike, answered⟩ := server_twin run distinct here relaying
  obtain ⟨k, found⟩ := List.getElem?_of_mem there
  obtain ⟨i, found'⟩ := List.getElem?_of_mem there'
  obtain ⟨done, settled⟩ := server.opens.settled
  cases (settled.distinct (server_nodup run distinct)).same found' found (alike.trans same)
  cases found.symm.trans found'
  exact answered

/-- While the connection is up, everything the handler forwards and reads is
written to the upstream or on its way there. -/
theorem uploaded (run : (muxSystem capacity token resilient).Reach allowed m) (distinct : Distinct m.client.streams)
    (clientUp : ClientUp m.client) (serverUp : ServerUp m.server) {s : Stream Handler} {u : Stream Opened}
    (here : s ∈ m.client.streams) (there : u ∈ m.server.streams) (same : s.id = u.id) (relaying : s.task ≠ .absent)
    (reading : Reading u) (writes : ∀ rest, u.task ≠ .failed rest) :
    u.socket.written ++ u.task.rest ++ (underway u m.upload m.client.toEndpoint s).flatten =
      (prelude s.front ++ s.socket.chunks).flatten := by
  have client := ClientInvariant.client_valid (client_reach run)
  have server := ServerInvariant.server_valid (server_reach run)
  obtain ⟨upload, download, joined⟩ := wires run
  obtain ⟨j, found⟩ := List.getElem?_of_mem here
  obtain ⟨k, found'⟩ := List.getElem?_of_mem there
  have inbound := (server.streams.relayed u there).inbound
  have started : u.task ≠ .absent := by
    rcases reading with now | ⟨bytes, now⟩ <;> exact inbound.relaying (by simp [now]) (by simp [now])
  obtain ⟨fed, queued⟩ := listening_account found' inbound (both_delivered run distinct).2
    (server_allFed serverListening_kind run distinct serverUp)
    ((both_finished run).2 serverUp.reader.2.2) (.inr reading) started writes
  have opened := client.started.order.accepting clientUp.writer.2
  rw [joined.up]
  exact direction client.started.order clientUp.writer rfl (client.sources.attributed distinct j s found)
    (client.streams.sending opened s here relaying) rfl joined.sent inbound started (same ▸ fed) queued

/-- While the connection is up, everything the upstream sent is written to the
local socket, after the handler's reply, or on its way there. -/
theorem downloaded (run : (muxSystem capacity token resilient).Reach allowed m) (distinct : Distinct m.client.streams)
    (clientUp : ClientUp m.client) (serverUp : ServerUp m.server) {s : Stream Handler} {u : Stream Opened}
    (here : s ∈ m.client.streams) (there : u ∈ m.server.streams) (same : s.id = u.id)
    (reading : Reading s) (writes : ∀ rest, s.task ≠ .failed rest) :
    s.socket.written ++ s.task.rest ++ (underway s m.download m.server.toEndpoint u).flatten =
      greeting s.front ++ u.socket.chunks.flatten := by
  have client := ClientInvariant.client_valid (client_reach run)
  have server := ServerInvariant.server_valid (server_reach run)
  obtain ⟨upload, download, joined⟩ := wires run
  obtain ⟨j, found⟩ := List.getElem?_of_mem here
  obtain ⟨k, found'⟩ := List.getElem?_of_mem there
  have inbound := (client.streams.handled s here).inbound
  have started : s.task ≠ .absent := by
    rcases reading with now | ⟨bytes, now⟩ <;> exact inbound.relaying (by simp [now]) (by simp [now])
  have answering := twin_relays run distinct here there same started
  obtain ⟨fed, queued⟩ := listening_account found inbound (both_delivered run distinct).1
    (client_allFed clientListening_kind run distinct clientUp)
    (both_finished run).1 (.inr reading) started writes
  have opened := server.admitted.order.accepting serverUp.writer.2
  rw [joined.down]
  have sent : Outbound (.openAck u.id true :: ([] : List Bytes).map (.data u.id)) u :=
    server.streams.sending opened u there answering
  exact direction server.admitted.order serverUp.writer rfl (server.opens.attributed (server_nodup run distinct) k u found')
    sent rfl joined.answered inbound started (same ▸ fed) queued

end Pairs

/-! ### The tunnel -/

/-- What a handler sends upstream before the bytes it reads. -/
def forwarded : Tunnel → Bytes
  | .viaMux request | .viaMuxWithTimeout request => if request.isConnect then [] else asBytes request.headers ++ request.body
  | .socksViaMuxWithTimeout _ => []

/-- What a handler writes to the local socket before the bytes it relays. -/
def successReply : Tunnel → Bytes
  | .viaMux request | .viaMuxWithTimeout request => if request.isConnect then connectionEstablished else []
  | .socksViaMuxWithTimeout _ => socks5Reply socks5RepSuccess

theorem prelude_forwarded (h : Handler) : (prelude h).flatten = forwarded h.tunnel := by
  obtain ⟨tunnel, stage, ack⟩ := h
  cases tunnel with
  | viaMux request | viaMuxWithTimeout request =>
    cases connect : request.isConnect <;>
      simp [prelude, forwarded, Handler.spec, Tunnel.spec, handleViaMux, handleViaMuxWithTimeout, connect]
  | socksViaMuxWithTimeout host => rfl

theorem greeting_successReply (h : Handler) : greeting h = successReply h.tunnel := by
  obtain ⟨tunnel, stage, ack⟩ := h
  cases tunnel with
  | viaMux request | viaMuxWithTimeout request =>
    cases connect : request.isConnect <;>
      simp [greeting, successReply, Handler.spec, Tunnel.spec, handleViaMux, handleViaMuxWithTimeout, connect]
  | socksViaMuxWithTimeout host => rfl

/-- A client stream and its twin at the server as a pair of byte pipes. -/
structure Faithful (m : Mux) (s : Stream Handler) (u : Stream Opened) : Prop where
  upstream : u.socket.written <+: forwarded s.front.tunnel ++ s.socket.chunks.flatten
  downstream : s.task ≠ .absent →
    ∃ relayed, s.socket.written = successReply s.front.tunnel ++ relayed ∧ relayed <+: u.socket.chunks.flatten
  /-- Before the relay nothing is taken off the data channel. -/
  unrelayed : s.task = .absent → s.channel.taken = []
  /-- Nothing is lost upstream as long as the upstream does not end its side first. -/
  uploaded : ClientUp m.client → ServerUp m.server → s.task ≠ .absent → Reading u → (∀ rest, u.task ≠ .failed rest) →
    u.socket.written ++ u.task.rest ++ (underway u m.upload m.client.toEndpoint s).flatten =
      forwarded s.front.tunnel ++ s.socket.chunks.flatten
  /-- Nothing is lost downstream as long as the local application does not end its side first. -/
  downloaded : ClientUp m.client → ServerUp m.server → Reading s → (∀ rest, s.task ≠ .failed rest) →
    s.socket.written ++ s.task.rest ++ (underway s m.download m.server.toEndpoint u).flatten =
      successReply s.front.tunnel ++ u.socket.chunks.flatten

/-- In every reachable state, whatever the interleaving, the twins of every stream
are faithful pipes; every upstream socket belongs to a client stream, and every
handler in its relay has its twin. -/
theorem tunnel_faithful (capacity : Nat) (token : String) (resilient : Bool) (m : Mux)
    (run : (muxSystem capacity token resilient).Reachable m) (distinct : Distinct m.client.streams) :
    (∀ s ∈ m.client.streams, ∀ u ∈ m.server.streams, s.id = u.id → Faithful m s u) ∧
      (∀ u ∈ m.server.streams, ∃ s ∈ m.client.streams, s.id = u.id) ∧
      ∀ s ∈ m.client.streams, s.task ≠ .absent → ∃ u ∈ m.server.streams, u.id = s.id ∧ u.task ≠ .absent := by
  refine ⟨fun s here u there same => ⟨?_, ?_, ?_, ?_, ?_⟩, fun u there => client_twin run distinct there,
    fun s here relaying => server_twin run distinct here relaying⟩
  · simpa [prelude_forwarded] using written_upstream run distinct here there same
  · rw [← greeting_successReply]
    exact written_downstream run distinct here there same
  · exact ((ClientInvariant.client_valid (client_reach run)).streams.handled s here).inbound.unread
  · intro clientUp serverUp relaying reading writes
    rw [uploaded run distinct clientUp serverUp here there same relaying reading writes, List.flatten_append, prelude_forwarded]
  · intro clientUp serverUp reading writes
    rw [downloaded run distinct clientUp serverUp here there same reading writes, greeting_successReply]

theorem one_tunnel_faithful : ∃ m, m.client.streams.map (·.socket.chunks) = [[[7, 8]]] ∧
    m.server.streams.map (·.socket.written) = [[7]] ∧ ∀ s ∈ m.client.streams, ∀ u ∈ m.server.streams, s.id = u.id → Faithful m s u := by
  obtain ⟨m, run, distinct, read, written⟩ := oneTunnel_runs
  exact ⟨m, read, written, (tunnel_faithful 1 "t" true m run distinct).1⟩

end EchoProxy.Proofs.EndToEnd
