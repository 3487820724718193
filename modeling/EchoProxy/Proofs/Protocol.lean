import EchoProxy.Proofs.MuxInvariant

/-! The protocol of each stream on a connection: what either end sends for an id,
and how OPENs and OPEN_ACKs pair up. -/

namespace EchoProxy.Proofs.Protocol
open EchoProxy StreamFlow HandlerFlow EndpointSteps EndpointAccounts FrameSequences MuxInvariant

/-- The frames of an id from client to server: a prefix of OPEN DATA* CLOSE. -/
def OpensStream (id : StreamId) (frames : List Frame) : Prop :=
  ∃ (dest : String) (sent : List Bytes), frames <+: .openStream id dest :: sent.map (.data id) ++ [.close id]

/-- The frames of an id from server to client: a prefix of a refusal, or of an
OPEN_ACK followed by DATA* CLOSE. -/
def AnswersStream (id : StreamId) (frames : List Frame) : Prop :=
  frames <+: [.openAck id false] ∨ ∃ sent : List Bytes, frames <+: .openAck id true :: sent.map (.data id) ++ [.close id]

/-! ### The client's frames -/

section Client
variable {token : String} {c : Client}

/-- The stream whose frames are those of an id. -/
theorem client_stream (valid : ClientInvariant.Valid token c) (distinct : Distinct c.streams) {id : StreamId}
    (some : ofId id c.frames.history ≠ []) :
    ∃ s ∈ c.streams, s.id = id ∧ ofId id c.frames.history = s.emitted := by
  have known : id ∈ c.streams.map Stream.id := by
    by_contra absent
    exact some (ofId_absent valid.sources.known absent)
  obtain ⟨s, member, rfl⟩ := List.mem_map.mp known
  obtain ⟨k, found⟩ := List.getElem?_of_mem member
  exact ⟨s, member, rfl, valid.sources.attributed distinct k s found⟩

theorem client_opens (valid : ClientInvariant.Valid token c) (distinct : Distinct c.streams) (id : StreamId) :
    OpensStream id (ofId id c.frames.history) := by
  by_cases none : ofId id c.frames.history = []
  · exact ⟨"", [], by rw [none]; exact List.nil_prefix⟩
  · obtain ⟨s, member, rfl, own⟩ := client_stream valid distinct none
    obtain ⟨sent, -, emitted⟩ := (valid.streams.handled s member).conforms
    exact ⟨_, sent, own ▸ emitted⟩

/-- Payloads and CLOSE are sent on an acknowledged stream only. -/
theorem client_acknowledged (valid : ClientInvariant.Valid token c) (distinct : Distinct c.streams) {frame : Frame}
    {id : StreamId} (own : streamId frame = some id) (sent : frame ∈ c.frames.history) (other : ∀ dest, frame ≠ .openStream id dest) :
    .openAck id true ∈ c.dispatched := by
  have there : frame ∈ ofId id c.frames.history := List.mem_filter.mpr ⟨sent, decide_eq_true own⟩
  obtain ⟨s, member, rfl, emitted⟩ := client_stream valid distinct (List.ne_nil_of_mem there)
  exact valid.acks.slots s member true ((valid.streams.handled s member).sent_granted (emitted ▸ there) (other _))

private theorem openIds_conforming {id : StreamId} {frames : List Frame} (conforms : OpensStream id frames) :
    (openIds frames).length ≤ 1 := by
  obtain ⟨dest, sent, front⟩ := conforms
  have bound := (openIds_isPrefix front).length_le
  have none : openIds (sent.map (.data id)) = [] := by
    simp only [openIds, List.filterMap_map]
    exact List.filterMap_eq_nil_iff.mpr fun _ _ => rfl
  have one : openIds (.openStream id dest :: sent.map (.data id) ++ [.close id]) = [id] := by
    rw [List.cons_append, ← List.singleton_append, openIds_append, openIds_append, none]
    rfl
  rw [one] at bound
  exact bound

private theorem count_openIds (id : StreamId) (frames : List Frame) :
    (openIds frames).count id = (openIds (ofId id frames)).count id := by
  induction frames with
  | nil => rfl
  | cons frame rest ih =>
    have split : openIds (frame :: rest) = openIds [frame] ++ openIds rest := by rw [← openIds_append]; rfl
    have splitId : ofId id (frame :: rest) = ofId id [frame] ++ ofId id rest := by rw [← ofId_append]; rfl
    rw [split, splitId, openIds_append, List.count_append, List.count_append, ih]
    congr 1
    by_cases own : streamId frame = some id
    · rw [ofId_single own]
    · rw [ofId_other own]
      cases frame with
      | openStream other dest =>
        simp only [streamId, Option.some.injEq] at own
        simp [openIds, own]
      | _ => rfl

/-- With distinct stream ids no id is opened twice. -/
theorem client_nodup (valid : ClientInvariant.Valid token c) (distinct : Distinct c.streams) :
    (openIds c.frames.history).Nodup := by
  apply List.nodup_iff_count_le_one.mpr
  intro id
  rw [count_openIds]
  exact List.count_le_length.trans (openIds_conforming (client_opens valid distinct id))

end Client

/-! ### The server's frames -/

theorem server_answers {c : Server} (valid : ServerInvariant.Valid c) (distinct : (openIds c.dispatched).Nodup)
    (id : StreamId) : AnswersStream id (ofId id c.frames.history) := by
  by_cases started : id ∈ c.streams.map Stream.id
  · obtain ⟨s, member, rfl⟩ := List.mem_map.mp started
    obtain ⟨k, found⟩ := List.getElem?_of_mem member
    obtain ⟨sent, -, emitted⟩ := (valid.streams.relayed s member).conforms
    exact .inr ⟨sent, valid.opens.attributed distinct k s found ▸ emitted⟩
  · exact .inl (valid.opens.refused distinct id started)

/-! ### The connection -/

section Mux
variable {capacity : Nat} {token : String} {resilient : Bool} {allowed : MuxAction → Prop} {m : Mux}

theorem server_nodup (run : (muxSystem capacity token resilient).Reach allowed m) (distinct : Distinct m.client.streams) :
    (openIds m.server.dispatched).Nodup := by
  have client := ClientInvariant.client_valid (client_reach run)
  obtain ⟨upload, download, joined⟩ := wires run
  have front : m.server.dispatched <+: .hello token :: m.client.frames.history :=
    (joined.sent ▸ List.prefix_append _ _).trans client.started.order.put_isPrefix
  exact (client_nodup client distinct).sublist (openIds_isPrefix front).sublist

end Mux

/-- Per-stream conformance of both ends. Everything is said of the frames the
frame channels accepted; those on the connection are at their front, after HELLO. -/
structure Conforms (token : String) (m : Mux) : Prop where
  /-- HELLO is the first frame on the connection. -/
  hello : m.client.put <+: .hello token :: m.client.frames.history
  answered : m.server.put <+: m.server.frames.history
  upstream : ∀ id, OpensStream id (ofId id m.client.frames.history)
  /-- No DATA and no CLOSE before OPEN_ACK true is received. -/
  acknowledged : ∀ id frame, frame ∈ m.client.frames.history → frame = .close id ∨ (∃ bytes, frame = .data id bytes) →
    .openAck id true ∈ m.client.dispatched
  downstream : ∀ id, AnswersStream id (ofId id m.server.frames.history)
  /-- Each OPEN has at most one answer, in the order of the OPENs. -/
  atMostOnce : ackIds m.server.frames.history <+: openIds m.server.dispatched ∧ (openIds m.server.dispatched).Nodup
  /-- While the frame channel is open every OPEN has its answer, but one that
  `handle_open` is still working on or was when the session was dropped. -/
  exactlyOnce : m.server.frames.receiver = true →
    (∃ unfinished, openIds m.server.dispatched = ackIds m.server.frames.history ++ unfinished ∧ unfinished.length ≤ 1) ∧
    (m.server.reader ≠ .dropped →
      openIds m.server.dispatched = ackIds m.server.frames.history ++ ServerInvariant.pending m.server)

/-- Every reachable state of a client and a server conforms, in any run and with
any mix of handlers, as long as the stream ids are distinct. -/
theorem endpoints_conform (capacity : Nat) (token : String) (resilient : Bool) (m : Mux)
    (run : (muxSystem capacity token resilient).Reachable m) (distinct : Distinct m.client.streams) : Conforms token m := by
  have client := ClientInvariant.client_valid (client_reach run)
  have server := ServerInvariant.server_valid (server_reach run)
  have opens := server_nodup run distinct
  refine ⟨client.started.order.put_isPrefix, server.admitted.order.put_isPrefix, client_opens client distinct, ?_,
    server_answers server opens, ⟨server.answers.some, opens⟩, ?_⟩
  · rintro id frame sent which
    refine client_acknowledged client distinct ?_ sent ?_ <;> rcases which with rfl | ⟨bytes, rfl⟩ <;> simp [streamId]
  · intro opened
    exact ⟨server.answers.cut opened, server.answers.all opened⟩

/-- One SOCKS5 tunnel up to the first byte at the upstream. -/
def oneTunnel : List MuxAction := [
  .client .connect,
  .server (.incoming (Frame.hello "t").message), .server .accept,
  .client (.accept 1 (.socksViaMuxWithTimeout "1.1.1.1:80")),
  .client (.handler 0 .register), .client (.handler 0 .insertAck), .client (.handler 0 .send),
  .client (.endpoint .pop), .client (.endpoint .put),
  .server (.incoming (Frame.openStream 1 "1.1.1.1:80").message), .server .connectOk, .server .answer,
  .server (.endpoint .pop), .server (.endpoint .put),
  .client (.incoming (Frame.openAck 1 true).message),
  .client (.handler 0 (.stream .acked)), .client (.handler 0 (.stream (.greet 10))),
  .client (.endpoint (.stream 0 (.arrive [7, 8]))), .client (.endpoint (.stream 0 (.read 2))), .client (.endpoint (.send 0)),
  .client (.endpoint .pop), .client (.endpoint .put),
  .server (.incoming (Frame.data 1 [7, 8]).message), .server (.endpoint .route),
  .server (.endpoint (.stream 0 .recv)), .server (.endpoint (.stream 0 (.write 1)))]

theorem oneTunnel_runs : ∃ m, (muxSystem 1 "t" true).Reachable m ∧ Distinct m.client.streams ∧
    m.client.streams.map (·.socket.chunks) = [[[7, 8]]] ∧ m.server.streams.map (·.socket.written) = [[7]] := by
  have executed : ((muxSystem 1 "t" true).exec ⟨Client.fresh "t" true, Server.fresh, [], []⟩ oneTunnel).any (fun m =>
      decide (m.client.streams.map Stream.id = [1] ∧ m.client.streams.map (·.socket.chunks) = [[[7, 8]]] ∧
        m.server.streams.map (·.socket.written) = [[7]])) = true := by decide +kernel
  obtain ⟨m, run, view⟩ := Transition.System.reached executed rfl
  obtain ⟨ids, shape⟩ := of_decide_eq_true view
  exact ⟨m, run, by simp [Distinct, ids], shape⟩

theorem one_tunnel_conforms : ∃ m, m.server.streams.map (·.socket.written) = [[7]] ∧ Conforms "t" m := by
  obtain ⟨m, run, distinct, -, written⟩ := oneTunnel_runs
  exact ⟨m, written, endpoints_conform 1 "t" true m run distinct⟩

end EchoProxy.Proofs.Protocol
