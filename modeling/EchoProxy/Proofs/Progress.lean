import EchoProxy.Proofs.Conservation

/-! What it means that no internal step is enabled: which buffers are empty, which
are full, and what each task waits for. -/

namespace EchoProxy.Proofs.Progress
open EchoProxy StreamFlow HandlerFlow EndpointSteps ClientSteps ServerSteps MuxInvariant Conservation Places

/-! ### One endpoint -/

section Endpoint
variable {φ : Type} {e : Endpoint φ} {k : Nat} {s : Stream φ}

/-- No internal step of the endpoint is enabled, apart from putting a frame on the
wire. -/
def Stuck (e : Endpoint φ) : Prop := ∀ action : EndpointAction, action.isInternal = true → action ≠ .put → e.step action = none

private theorem modify_none {change : Stream φ → Option (Stream φ)} (found : e.streams[k]? = some s)
    (disabled : e.modify k change = none) : change s = none := by
  simpa [Endpoint.modify, found] using disabled

private theorem modify_isSome {change : Stream φ → Option (Stream φ)} (found : e.streams[k]? = some s)
    (changed : (change s).isSome = true) : (e.modify k change).isSome = true := by
  simpa [Endpoint.modify, found] using changed

private theorem sendable {s : Stream φ} {frame : Frame} (outgoing : s.outgoing = some frame) :
    (s.step .sent).isSome = true ∧ (s.step .unsent).isSome = true := by
  unfold Stream.outgoing at outgoing
  cases phase : s.phase <;> simp [phase] at outgoing <;> simp [Stream.step, phase]

/-- The write task cannot write. -/
def Stalled {φ : Type} (s : Stream φ) : Prop := (∃ rest, s.task = .writing rest) ∧ s.socket.writable = false

/-- A write in progress has bytes left to write. -/
def Busy {φ : Type} (s : Stream φ) : Prop := s.task ≠ .writing []

namespace Stuck

theorem pop (stuck : Stuck e) (receiving : e.writer = .receiving) : e.frames.queue = [] := by
  have blocked := stuck .pop rfl (by simp)
  simp only [Endpoint.step, receiving] at blocked
  cases received : e.frames.recv with
  | none => exact Channel.recv_none.mp received
  | some next => simp [received] at blocked

/-- A frame waits only for room. -/
theorem send {frame : Frame} (stuck : Stuck e) (found : e.streams[k]? = some s) (outgoing : s.outgoing = some frame) :
    e.frames.receiver = true ∧ e.frames.queue.length = frameCapacity := by
  have blocked := stuck (.send k) rfl (by simp)
  simp only [Endpoint.step, found, Option.bind_some, outgoing, Endpoint.offer] at blocked
  cases sent : e.frames.send frame with
  | full => exact Channel.send_full.mp sent
  | closed =>
    simp only [sent] at blocked
    have changed : (e.modify k (·.step .unsent)).isSome = true := modify_isSome found (sendable outgoing).2
    simp [blocked] at changed
  | accepted frames =>
    simp only [sent] at blocked
    have changed : (Endpoint.modify { e with frames } k (·.step .sent)).isSome = true :=
      modify_isSome (s := s) found (sendable outgoing).1
    simp [blocked] at changed

theorem recv (stuck : Stuck e) (found : e.streams[k]? = some s) (waiting : s.task = .waiting) : s.channel.queue = [] := by
  have blocked := modify_none found (stuck (.stream k .recv) rfl (by simp))
  simp only [Stream.step, waiting] at blocked
  cases received : s.channel.recv with
  | none => exact Channel.recv_none.mp received
  | some next => simp [received] at blocked

theorem write {rest : Bytes} (stuck : Stuck e) (found : e.streams[k]? = some s) (writing : s.task = .writing rest)
    (some : rest ≠ []) : s.socket.writable = false := by
  have blocked := modify_none found (stuck (.stream k (.write 1)) rfl (by simp))
  simp only [Stream.step, writing, ite_eq_right_iff, reduceCtorEq, imp_false, not_and] at blocked
  by_contra writable
  exact blocked (by simpa using writable) (by omega) (List.length_pos_iff.mpr some)

theorem read (stuck : Stuck e) (found : e.streams[k]? = some s) (reading : s.phase = .reading) :
    s.socket.incoming = [] ∧ s.socket.shut = false := by
  have drained : s.socket.incoming = [] := by
    by_contra some
    have blocked := modify_none found (stuck (.stream k (.read 1)) rfl (by simp))
    simp [Stream.step, reading, bufferSize] at blocked
    exact some blocked
  have blocked := modify_none found (stuck (.stream k .readEnd) rfl (by simp))
  simpa [Stream.step, reading, drained] using blocked

theorem unregister (stuck : Stuck e) (found : e.streams[k]? = some s) : s.phase ≠ .unregistering := by
  intro phase
  have blocked := stuck (.unregister k) rfl (by simp)
  simp only [Endpoint.step, found, Option.bind_some, Endpoint.closeStream] at blocked
  have disabled : s.step .unregister = none := modify_none (e := { e with registry := e.registry.close s.id }) found blocked
  simp [Stream.step, phase] at disabled

/-- A write task that has caught up keeps a sender alive. -/
theorem finish (stuck : Stuck e) (found : e.streams[k]? = some s) (waiting : s.task = .waiting) :
    e.registry s.id = some k ∨ e.routing = some k := by
  have blocked := stuck (.finish k) rfl (by simp)
  simp only [Endpoint.step, found, Option.bind_some] at blocked
  split at blocked
  · have disabled := modify_none found blocked
    simp [Stream.step, waiting, stuck.recv found waiting] at disabled
  · next connected =>
    simp only [Endpoint.disconnected, ne_eq, decide_eq_true_eq, not_and_or, Decidable.not_not] at connected
    exact connected

/-- A `route` call waits only for room. -/
theorem route {live : Prop} (stuck : Stuck e) (wired : Wired live e.registry e.routing e.streams) (routing : e.routing = some k) :
    ∃ s, e.streams[k]? = some s ∧ s.channel.receiver = true ∧ s.channel.queue.length = dataCapacity := by
  obtain ⟨s, found, held⟩ := wired.routes k routing
  refine ⟨s, found, ?_⟩
  have blocked := stuck .route rfl (by simp)
  simp only [Endpoint.step, routing, Option.bind_some] at blocked
  have disabled : s.step .route = none := modify_none (e := { e with routing := none }) found blocked
  cases arriving : s.arriving with
  | none => exact absurd arriving held
  | some bytes =>
    simp only [Stream.step, arriving] at disabled
    cases sent : s.channel.send bytes with
    | full => exact Channel.send_full.mp sent
    | closed => simp [sent] at disabled
    | accepted channel => simp [sent] at disabled

/-- Payloads stay on a data channel only before the relay or when the write task
cannot write. -/
theorem unread {greeting : Bytes} (stuck : Stuck e) (found : e.streams[k]? = some s) (inbound : Inbound greeting s) (busy : Busy s)
    (attended : s.channel.receiver = true) (some : s.channel.queue ≠ []) : s.phase = .front ∨ Stalled s := by
  rcases inbound.attended.mp attended with front | waiting | ⟨rest, writing⟩
  · exact .inl front
  · exact absurd (stuck.recv found waiting) some
  · have left : rest ≠ [] := by rintro rfl; exact busy writing
    exact .inr ⟨⟨rest, writing⟩, stuck.write found writing left⟩

end Stuck
end Endpoint

/-! ### Stream invariants

A property of single streams that every step of a stream keeps holds of all of them. -/

theorem client_each {token : String} {resilient : Bool} {allowed : ClientAction → Prop} {c : Client}
    {p : Stream Handler → Prop} (run : (clientSystem token resilient).Reach allowed c)
    (fresh : ∀ id tunnel, p (Stream.fresh id ⟨tunnel, .start, none⟩))
    (shared : ∀ s move s', p s → Effect s move s' → p s') (handler : ∀ s move s', p s → HandlerEffect s move s' → p s') :
    ∀ s ∈ c.streams, p s := by
  refine run.invariant (p := fun c => ∀ s ∈ c.streams, p s) ?_ ?_
  · rintro c rfl s member
    simp [Client.fresh, Endpoint.fresh] at member
  · intro before action after _ valid _ taken
    have change := ClientInvariant.client_streams (client_effect taken)
    generalize after.streams = streams at change ⊢
    cases change with
    | same => exact valid
    | shared found stepped =>
      exact forall_set valid (shared _ _ _ (valid _ (List.mem_of_getElem? found)) stepped)
    | handler found stepped =>
      exact forall_set valid (handler _ _ _ (valid _ (List.mem_of_getElem? found)) stepped)
    | accept => exact forall_append valid (fresh _ _)

theorem server_each {allowed : ServerAction → Prop} {c : Server} {p : Stream Opened → Prop} (run : serverSystem.Reach allowed c)
    (fresh : ∀ id opened, p (Stream.fresh id opened)) (shared : ∀ s move s', p s → Effect s move s' → p s')
    (acked : ∀ s sent, p s → p (acked s sent)) (abandon : ∀ s, p s → p s.abandon) : ∀ s ∈ c.streams, p s := by
  refine run.invariant (p := fun c => ∀ s ∈ c.streams, p s) ?_ ?_
  · rintro c rfl s member
    simp [Server.fresh, Endpoint.fresh] at member
  · intro before action after _ valid _ taken
    have change := ServerInvariant.server_streams (server_effect taken)
    generalize after.streams = streams at change ⊢
    cases change with
    | same => exact valid
    | shared found stepped =>
      exact forall_set valid (shared _ _ _ (valid _ (List.mem_of_getElem? found)) stepped)
    | acked _ found | unacked _ found =>
      exact forall_set valid (acked _ _ (valid _ (List.mem_of_getElem? found)))
    | abandoned _ found => exact forall_set valid (abandon _ (valid _ (List.mem_of_getElem? found)))
    | connected => exact forall_append valid (fresh _ _)

theorem Busy.step {φ : Type} {s s' : Stream φ} {move} (busy : Busy s) (effect : Effect s move s') : Busy s' := by
  have written (bytes : Bytes) : WriteTask.writeAll bytes ≠ .writing [] := by
    unfold WriteTask.writeAll
    split <;> simp [*]
  cases effect with
  | recv | write => exact written _
  | writeError | finish => simp [Busy]
  | _ => exact busy

/-- A reply in progress has bytes left to write. -/
def Replying (s : Stream Handler) : Prop := s.front.stage ≠ .greeting [] ∧ s.front.stage ≠ .replying []

private theorem reply_some {s : Stream Handler} {bytes : Bytes} (opened : s.front.spec.opened = .reply bytes) : bytes ≠ [] := by
  rintro rfl
  simp only [Handler.spec, Tunnel.spec] at opened
  split at opened <;> simp only [handleViaMux, handleViaMuxWithTimeout, handleSocksViaMuxWithTimeout] at opened
  · split at opened
    · cases opened
    · cases opened
  · split at opened
    · cases opened
    · cases opened
  · cases opened

theorem Replying.handlerStep {s s' : Stream Handler} {move} (valid : Replying s) (effect : HandlerEffect s move s') :
    Replying s' := by
  cases effect with
  | granted _ _ _ next =>
    rcases next with ⟨opened, rfl⟩ | ⟨-, rfl⟩
    · simpa [Replying, Stream.setStage] using reply_some opened
    · simp [Replying, Stream.setStage]
  | greet _ _ _ _ more => simpa [Replying, Stream.setStage] using more
  | reply _ _ _ _ more => simpa [Replying, Stream.setStage] using more
  | left _ _ some => simpa [Replying, Stream.setStage] using some
  | ack | greeted | forwarded | leftSilently | replied | replyError => exact valid
  | _ => simp [Replying, Stream.setStage]

/-! ### Handlers -/

theorem client_busy {token : String} {resilient : Bool} {allowed : ClientAction → Prop} {c : Client}
    (run : (clientSystem token resilient).Reach allowed c) : ∀ s ∈ c.streams, Busy s ∧ Replying s := by
  refine client_each run ?_ ?_ ?_
  · intro id tunnel
    exact ⟨by simp [Busy, Stream.fresh], by simp [Replying, Stream.fresh]⟩
  · intro s move s' valid effect
    refine ⟨valid.1.step effect, ?_⟩
    rw [Replying, effect.same.2]
    exact valid.2
  · intro s move s' valid effect
    refine ⟨?_, valid.2.handlerStep effect⟩
    cases effect with
    | granted _ _ _ next => rcases next with ⟨-, rfl⟩ | ⟨-, rfl⟩ <;> exact valid.1
    | greeted | forwarded => simp [Busy, Stream.relay]
    | _ => exact valid.1

private theorem handler_sends {e : Endpoint Handler} {k : Nat} {s : Stream Handler} {frame : Frame}
    (found : e.streams[k]? = some s) (request : s.request = some frame)
    (blocked : e.offer frame
      (·.modify k fun s => (s.handlerStep .opened).or (s.handlerStep .forwarded))
      (·.modify k fun s => (s.handlerStep .unopened).or (s.handlerStep .unforwarded)) = none) :
    e.frames.receiver = true ∧ e.frames.queue.length = frameCapacity := by
  unfold Endpoint.offer at blocked
  cases sent : e.frames.send frame with
  | full => exact Channel.send_full.mp sent
  | closed | accepted =>
    unfold Stream.request at request
    split at request
    · next front stage => simp [sent, Endpoint.modify, found, Stream.handlerStep, front, stage] at blocked
    · next front stage => simp [sent, Endpoint.modify, found, Stream.handlerStep, front, stage] at blocked
    · cases request

/-- A handler before its relay waits for room on the frame channel, or for its OPEN_ACK. -/
theorem handler_waits {c : Client} {k : Nat} {s : Stream Handler}
    (blocked : ∀ action : HandlerAction, action.isInternal = true → c.handlerStep k s action = none)
    (found : c.streams[k]? = some s) (front : s.phase = .front) (writable : s.socket.writable = true) (replying : Replying s) :
    (∃ frame, s.request = some frame) ∧ c.frames.receiver = true ∧ c.frames.queue.length = frameCapacity ∨
      s.front.stage = .awaiting ∧ s.front.ack = none ∧ c.pendingAcks s.id = some k := by
  have sends {frame : Frame} (request : s.request = some frame) :
      c.frames.receiver = true ∧ c.frames.queue.length = frameCapacity := by
    refine handler_sends found request ?_
    simpa [Client.handlerStep, request] using blocked .send rfl
  cases stage : s.front.stage with
  | start =>
    have disabled := blocked .register rfl
    simp [Client.handlerStep, Client.modify, Endpoint.modify, Client.withEndpoint, found, Stream.handlerStep, front, stage] at disabled
  | registered =>
    have disabled := blocked .insertAck rfl
    simp [Client.handlerStep, Client.modify, Endpoint.modify, found, Stream.handlerStep, front, stage] at disabled
  | opening =>
    have request : s.request = some (.openStream s.id s.front.spec.dest) := by simp only [Stream.request, front, stage]
    exact .inl ⟨⟨_, request⟩, sends request⟩
  | forwarding bytes =>
    have request : s.request = some (.data s.id bytes) := by simp only [Stream.request, front, stage]
    exact .inl ⟨⟨_, request⟩, sends request⟩
  | awaiting =>
    have empty : s.front.ack = none := by
      have disabled := blocked (.stream .acked) rfl
      simpa [Client.handlerStep, HandlerMove.isLocal, Client.modify, Endpoint.modify, found, Stream.handlerStep, front,
        stage] using disabled
    refine .inr ⟨rfl, empty, ?_⟩
    have disabled := blocked .ackLost rfl
    simpa [Client.handlerStep, Client.modify, Endpoint.modify, found, Stream.handlerStep, front, stage, empty] using disabled
  | greeting rest =>
    have some : rest ≠ [] := by rintro rfl; exact replying.1 stage
    have disabled := blocked (.stream (.greet 1)) rfl
    simp [Client.handlerStep, HandlerMove.isLocal, Client.modify, Endpoint.modify, found,
      Stream.handlerStep, Stream.writeReply, front, stage, writable] at disabled
    exact absurd disabled some
  | leaving reply =>
    have disabled := blocked .leave rfl
    simp [Client.handlerStep, Client.modify, Endpoint.modify, Endpoint.closeStream, Client.withEndpoint, found,
      Stream.handlerStep, front, stage] at disabled
  | replying rest =>
    have some : rest ≠ [] := by rintro rfl; exact replying.2 stage
    have disabled := blocked (.stream (.reply 1)) rfl
    simp [Client.handlerStep, HandlerMove.isLocal, Client.modify, Endpoint.modify, found,
      Stream.handlerStep, Stream.writeReply, front, stage, writable] at disabled
    exact absurd disabled some

/-! ### The pair -/

section Quiet
variable {capacity : Nat} {token : String} {resilient : Bool} {m : Mux}

/-- No internal step is enabled. -/
def Quiet (capacity : Nat) (m : Mux) : Prop := ∀ action : MuxAction, action.isInternal = true → m.step capacity action = none

namespace Quiet

theorem client_step (quiet : Quiet capacity m) (action : ClientAction) (kind : action.isInternal = true)
    (consumes : action.consumes = []) (emits : m.client.emits action = []) : m.client.step action = none := by
  have blocked := quiet (.client action) kind
  simpa [Mux.step, consumes, emits, Mux.deliver, Mux.transmit] using blocked

theorem server_step (quiet : Quiet capacity m) (action : ServerAction) (kind : action.isInternal = true)
    (consumes : action.consumes = []) (emits : m.server.emits action = []) : m.server.step action = none := by
  have blocked := quiet (.server action) kind
  simpa [Mux.step, consumes, emits, Mux.deliver, Mux.transmit] using blocked

theorem put_only {φ : Type} {e : Endpoint φ} {action : EndpointAction} (other : action ≠ .put) : e.emits action = [] := by
  cases action <;> first | rfl | exact absurd rfl other

theorem client_stuck (quiet : Quiet capacity m) : Stuck m.client.toEndpoint := by
  intro action kind other
  have blocked := quiet.client_step (.endpoint action) kind rfl (put_only other)
  simpa [Client.step] using blocked

theorem server_stuck (quiet : Quiet capacity m) : Stuck m.server.toEndpoint := by
  intro action kind other
  have blocked := quiet.server_step (.endpoint action) kind rfl (put_only other)
  simpa [Server.step] using blocked

theorem handler_stuck (quiet : Quiet capacity m) {k : Nat} {s : Stream Handler} (found : m.client.streams[k]? = some s)
    (action : HandlerAction) (kind : action.isInternal = true) : m.client.handlerStep k s action = none := by
  simpa [Client.step, found] using quiet.client_step (.handler k action) kind rfl rfl

/-- A writer with a frame in hand waits for room on the wire. -/
theorem client_put (quiet : Quiet capacity m) {frame : Frame} (sending : m.client.writer = .sending frame) :
    capacity ≤ m.upload.length := by
  have blocked := quiet (.client (.endpoint .put)) rfl
  by_contra room
  simp [Mux.step, ClientAction.consumes, Mux.deliver, Client.emits, Endpoint.emits, sending, Mux.transmit, Client.step,
    Endpoint.step] at blocked
  omega

theorem server_put (quiet : Quiet capacity m) {frame : Frame} (sending : m.server.writer = .sending frame) :
    capacity ≤ m.download.length := by
  have blocked := quiet (.server (.endpoint .put)) rfl
  by_contra room
  simp [Mux.step, ServerAction.consumes, Mux.deliver, Server.emits, Endpoint.emits, sending, Mux.transmit, Server.step,
    Endpoint.step] at blocked
  omega

end Quiet

/-- A reader between two frames can take any frame. -/
theorem client_takes {c : Client} (valid : ClientInvariant.Valid token c) (running : c.reader = .running)
    (idle : c.routing = none) (frame : Frame) : (c.incoming frame.message).isSome = true := by
  simp only [Client.incoming, running, idle, and_self, if_true, Frame.message, WireFormat.decode_encode]
  cases frame with
  | openAck id ok =>
    simp only [Client.dispatch]
    split
    · rfl
    · next k pending =>
      obtain ⟨s, found, -⟩ := valid.acks.pending id k pending
      simp [Client.modify, Endpoint.modify, Client.withEndpoint, found, Stream.handlerStep]
  | data id bytes =>
    simp only [Client.dispatch, Endpoint.route]
    split
    · rfl
    · next k registered =>
      obtain ⟨s, found, -⟩ := valid.wired.registered id k registered
      have free : s.arriving = none := by
        by_contra held
        simpa [idle] using valid.wired.arriving trivial k s found held
      simp [Endpoint.modify, Client.withEndpoint, found, Stream.step, free]
  | _ => rfl

theorem server_takes {c : Server} (valid : ServerInvariant.Valid c) (running : c.reader = .running)
    (idle : c.routing = none) (frame : Frame) : (c.incoming frame.message).isSome = true := by
  simp only [Server.incoming, running, idle, if_true, Frame.message, WireFormat.decode_encode]
  cases frame with
  | data id bytes =>
    simp only [Server.dispatch, Endpoint.route]
    split
    · rfl
    · next k registered =>
      obtain ⟨s, found, -⟩ := valid.routes.wired.registered id k registered
      have free : s.arriving = none := by
        by_contra held
        simpa [idle] using valid.routes.wired.arriving (by simp [running]) k s found held
      simp [Endpoint.modify, Server.record, Server.withEndpoint, found, Stream.step, free]
  | _ => rfl

namespace Quiet

/-- An idle reader has taken everything off the wire. -/
theorem client_drained (quiet : Quiet capacity m) (valid : ClientInvariant.Valid token m.client) {upload download : List Frame}
    (joined : Wires m upload download) (running : m.client.reader = .running) (idle : m.client.routing = none) : m.download = [] := by
  rw [joined.down]
  cases download with
  | nil => rfl
  | cons frame rest =>
    have blocked := quiet (.client (.incoming frame.message)) rfl
    have enabled := client_takes valid running idle frame
    have consumes : ClientAction.consumes (.incoming frame.message) = [frame.message] := rfl
    have emits : m.client.emits (.incoming frame.message) = [] := rfl
    simp [Mux.step, consumes, emits, joined.down, Mux.deliver, Mux.transmit, Client.step] at blocked
    simp [blocked] at enabled

theorem server_drained (quiet : Quiet capacity m) (valid : ServerInvariant.Valid m.server) {upload download : List Frame}
    (joined : Wires m upload download)
    (ready : m.server.reader = .hello ∨ m.server.reader = .running ∧ m.server.routing = none) : m.upload = [] := by
  rw [joined.up]
  cases upload with
  | nil => rfl
  | cons frame rest =>
    have blocked := quiet (.server (.incoming frame.message)) rfl
    have enabled : (m.server.incoming frame.message).isSome = true := by
      rcases ready with hello | ⟨running, idle⟩
      · simp only [Server.incoming, hello, Frame.message]
        split <;> rfl
      · exact server_takes valid running idle frame
    have consumes : ServerAction.consumes (.incoming frame.message) = [frame.message] := rfl
    have emits : m.server.emits (.incoming frame.message) = [] := rfl
    simp [Mux.step, consumes, emits, joined.up, Mux.deliver, Mux.transmit, Server.step] at blocked
    simp [blocked] at enabled

/-- The answer to an OPEN waits only for room. -/
theorem answer_waits (quiet : Quiet capacity m) (valid : ServerInvariant.Valid m.server)
    (answering : (∃ id, m.server.reader = .refusing id) ∨ ∃ k, m.server.reader = .acking k) :
    m.server.frames.receiver = true ∧ m.server.frames.queue.length = frameCapacity := by
  have blocked : m.server.answer = none := quiet.server_step .answer rfl rfl rfl
  rcases answering with ⟨id, refusing⟩ | ⟨k, acking⟩
  · simp only [Server.answer, refusing, Endpoint.offer] at blocked
    cases sent : m.server.frames.send (.openAck id false) with
    | full => exact Channel.send_full.mp sent
    | closed | accepted => simp [sent] at blocked
  · obtain ⟨s, found, -⟩ := valid.streams.acking k acking
    simp only [Server.answer, acking, found, Option.bind_some, Endpoint.offer] at blocked
    cases sent : m.server.frames.send (.openAck s.id true) with
    | full => exact Channel.send_full.mp sent
    | closed | accepted => simp [sent, Endpoint.modify, found] at blocked

end Quiet
end Quiet

/-! ### A connection at rest -/

/-- The connection is up. -/
structure Connected (m : Mux) : Prop where
  attached : m.client.link = .attached
  client : ClientUp m.client
  server : ServerUp m.server

theorem Connected.resting {m : Mux} (attached : m.client.link = .attached) (reader : m.client.reader = .running)
    (writer : m.client.writer = .receiving)
    (session : m.server.reader ≠ .closing ∧ m.server.reader ≠ .ended ∧ m.server.reader ≠ .dropped)
    (sessionWriter : m.server.writer = .receiving) : Connected m :=
  ⟨attached, ⟨.inr attached, .inr reader, by simp [writer]⟩, session, by simp [sessionWriter]⟩

theorem Connected.running {token : String} {m : Mux} (up : Connected m) (valid : ClientInvariant.Valid token m.client) :
    m.client.reader = .running :=
  up.client.reader.resolve_left (valid.spawned.attached up.attached).1

/-- The reader loop is about to send an OPEN_ACK. -/
def Answering (c : Server) : Prop := (∃ id, c.reader = .refusing id) ∨ ∃ k, c.reader = .acking k

/-- Where the four loops of a connection are when no internal step is enabled. -/
structure Settled (capacity : Nat) (m : Mux) : Prop where
  clientWriter : m.client.writer = .receiving ∧ m.client.frames.queue = [] ∨
    (∃ frame, m.client.writer = .sending frame) ∧ capacity ≤ m.upload.length
  serverWriter : m.server.writer = .receiving ∧ m.server.frames.queue = [] ∨
    (∃ frame, m.server.writer = .sending frame) ∧ capacity ≤ m.download.length
  clientReader : m.client.routing = none ∧ m.download = [] ∨
    ∃ k s, m.client.routing = some k ∧ m.client.streams[k]? = some s ∧ s.channel.queue.length = dataCapacity ∧
      (s.phase = .front ∨ Stalled s)
  serverReader : m.server.reader = .running ∧ m.server.routing = none ∧ m.upload = [] ∨
    (∃ id dest, m.server.reader = .connecting id dest) ∨
    Answering m.server ∧ m.server.frames.queue.length = frameCapacity ∨
    ∃ k u, m.server.routing = some k ∧ m.server.streams[k]? = some u ∧ u.channel.queue.length = dataCapacity ∧ Stalled u

section Rest
variable {capacity : Nat} {token : String} {resilient : Bool} {allowed : MuxAction → Prop} {m : Mux}

theorem server_busy (run : (muxSystem capacity token resilient).Reach allowed m) : ∀ u ∈ m.server.streams, Busy u := by
  refine server_each (server_reach run) ?_ (fun s move s' busy effect => busy.step effect) ?_ (fun s busy => busy)
  · intro id opened
    simp [Busy, Stream.fresh]
  · intro s sent _
    simp [Busy, ServerSteps.acked, Stream.relay]

/-- HELLO is put before anything else happens. -/
theorem client_greeted (run : (muxSystem capacity token resilient).Reach allowed m) (attached : m.client.link = .attached) :
    m.client.put ≠ [] := by
  refine (client_reach run).invariant (p := fun c => c.link = .attached → c.put ≠ []) ?_ ?_ attached
  · rintro c rfl
    simp [Client.fresh]
  · intro before action after _ valid _ taken attached
    cases client_effect taken with
    | connect => simp
    | endpoint effect =>
      cases effect with
      | put => simp
      | _ => exact valid attached
    | release =>
      simp only at attached
      split at attached <;> cases attached
    | connectFail | releaseClear | releaseCloseAll => cases attached
    | _ => exact valid attached

/-- A frame that was put found room on the wire. -/
theorem capacity_pos (run : (muxSystem capacity token resilient).Reach allowed m) (some : m.client.put ≠ []) : 0 < capacity := by
  refine run.invariant (p := fun m => m.client.put ≠ [] → 0 < capacity) ?_ ?_ some
  · rintro m rfl some
    simp [Client.fresh, Endpoint.fresh] at some
  · intro before action after prior valid _ taken some
    cases mux_effect taken with
    | server => exact valid some
    | client stepped _ transmitted =>
      obtain ⟨frames, grows, emits⟩ :=
        client_emits (ClientInvariant.client_valid (client_reach prior)).started (client_effect stepped)
      cases frames with
      | nil => exact valid (by simpa [grows] using some)
      | cons frame rest =>
        simp only [emits, Mux.transmit, List.map_cons, reduceCtorEq, if_false, List.length_cons] at transmitted
        split at transmitted
        · omega
        · cases transmitted

/-- A session at rest has been admitted. -/
private theorem server_started (run : (muxSystem capacity token resilient).Reach allowed m) (up : Connected m)
    (quiet : Quiet capacity m) : m.server.reader ≠ .hello ∧ ∀ token, m.server.reader ≠ .presenting token := by
  have server := ServerInvariant.server_valid (server_reach run)
  obtain ⟨upload, download, joined⟩ := wires run
  constructor
  · intro hello
    have drained := quiet.server_drained server joined (.inl hello)
    rw [joined.up, List.map_eq_nil_iff] at drained
    have put := joined.sent
    rw [server.admitted.hello hello, drained] at put
    exact client_greeted run up.attached put
  · intro token presenting
    have blocked := quiet.server_step .accept rfl rfl rfl
    simp [Server.step, presenting] at blocked

theorem settled (run : (muxSystem capacity token resilient).Reach allowed m) (up : Connected m) (quiet : Quiet capacity m) :
    Settled capacity m := by
  have client := ClientInvariant.client_valid (client_reach run)
  have server := ServerInvariant.server_valid (server_reach run)
  have started := server_started run up quiet
  obtain ⟨upload, download, joined⟩ := wires run
  refine ⟨?_, ?_, ?_, ?_⟩
  · cases writer : m.client.writer with
    | unspawned => exact absurd writer (client.spawned.attached up.attached).2
    | receiving => exact .inl ⟨rfl, quiet.client_stuck.pop writer⟩
    | sending frame => exact .inr ⟨⟨frame, rfl⟩, quiet.client_put writer⟩
    | stopping => exact absurd writer up.client.writer.1
    | ended => exact absurd writer up.client.writer.2
  · cases writer : m.server.writer with
    | unspawned =>
      rcases ServerInvariant.server_spawned (server_reach run) writer with now | ⟨token, now⟩ | now | now
      · exact absurd now started.1
      · exact absurd now (started.2 token)
      · exact absurd now up.server.reader.2.1
      · exact absurd now up.server.reader.2.2
    | receiving => exact .inl ⟨rfl, quiet.server_stuck.pop writer⟩
    | sending frame => exact .inr ⟨⟨frame, rfl⟩, quiet.server_put writer⟩
    | stopping => exact absurd writer up.server.writer.1
    | ended => exact absurd writer up.server.writer.2
  · cases routing : m.client.routing with
    | none => exact .inl ⟨rfl, quiet.client_drained client joined (up.running client) routing⟩
    | some k =>
      obtain ⟨s, found, attended, full⟩ := quiet.client_stuck.route client.wired routing
      have member := List.mem_of_getElem? found
      have waits := quiet.client_stuck.unread found (client.streams.handled s member).inbound (client_busy (client_reach run) s member).1
        attended (List.ne_nil_of_length_pos (by simp [full]))
      exact .inr ⟨k, s, rfl, found, full, waits⟩
  · cases reader : m.server.reader with
    | hello => exact absurd reader started.1
    | presenting token => exact absurd reader (started.2 token)
    | connecting id dest => exact .inr (.inl ⟨id, dest, rfl⟩)
    | acking k =>
      exact .inr (.inr (.inl ⟨.inr ⟨k, reader⟩, (quiet.answer_waits server (.inr ⟨k, reader⟩)).2⟩))
    | refusing id =>
      exact .inr (.inr (.inl ⟨.inl ⟨id, reader⟩, (quiet.answer_waits server (.inl ⟨id, reader⟩)).2⟩))
    | closing => exact absurd reader up.server.reader.1
    | ended => exact absurd reader up.server.reader.2.1
    | dropped => exact absurd reader up.server.reader.2.2
    | running =>
      cases routing : m.server.routing with
      | none => exact .inl ⟨rfl, rfl, quiet.server_drained server joined (.inr ⟨reader, routing⟩)⟩
      | some k =>
        obtain ⟨u, found, attended, full⟩ := quiet.server_stuck.route server.routes.wired routing
        have member := List.mem_of_getElem? found
        have waits := quiet.server_stuck.unread found (server.streams.relayed u member).inbound (server_busy run u member)
          attended (List.ne_nil_of_length_pos (by simp [full]))
        refine .inr (.inr (.inr ⟨k, u, rfl, found, full, waits.resolve_left fun front => ?_⟩))
        have acking := server.streams.front k u found front
        simp [reader] at acking

end Rest

end EchoProxy.Proofs.Progress
