import EchoProxy.Proofs.EndpointSteps
import EchoProxy.Server

/-! What the steps of a server session do. -/

namespace EchoProxy.Proofs.ServerSteps
open EchoProxy StreamFlow EndpointSteps FrameSequences

/-- The reader has taken a frame off the WebSocket. -/
def received (c : Server) (frame : Frame) : Server := { c with dispatched := c.dispatched ++ [frame] }

/-- The stream after the OPEN_ACK send, accepted or not. -/
def acked (s : Stream Opened) (sent : List Frame) : Stream Opened := { s.relay with emitted := s.emitted ++ sent }

/-- Everything a step of the session can do. -/
inductive ServerEffect (c : Server) : ServerAction → Server → Prop where
  | endpoint {action e} (effect : EndpointEffect c.toEndpoint action e) :
    ServerEffect c (.endpoint action) { c with toEndpoint := e }
  | hello {token data} (hello : c.reader = .hello) (decoded : Frame.decode data = .ok (.hello token)) :
    ServerEffect c (.incoming (.binary data)) { received c (.hello token) with reader := .presenting token }
  | unwelcome {message} (hello : c.reader = .hello) (ping : message ≠ .ping)
      (other : ∀ data token, message = .binary data → Frame.decode data ≠ .ok (.hello token)) :
    ServerEffect c (.incoming message) { c with reader := .ended }
  | ignored {message} (ready : c.reader = .hello ∧ message = .ping ∨ c.reader = .running ∧ c.routing = none ∧
      (message = .ping ∨ ∃ data error, message = .binary data ∧ Frame.decode data = .error error)) :
    ServerEffect c (.incoming message) c
  | broken (running : c.reader = .running) (idle : c.routing = none) :
    ServerEffect c (.incoming .other) { c with reader := .closing }
  | opening {id dest data} (running : c.reader = .running) (idle : c.routing = none)
      (decoded : Frame.decode data = .ok (.openStream id dest)) (allowed : isDestAllowed dest = true) :
    ServerEffect c (.incoming (.binary data)) { received c (.openStream id dest) with
      reader := .connecting id dest, dialed := c.dialed ++ [dest] }
  | blocked {id dest data} (running : c.reader = .running) (idle : c.routing = none)
      (decoded : Frame.decode data = .ok (.openStream id dest)) (forbidden : isDestAllowed dest = false) :
    ServerEffect c (.incoming (.binary data)) { received c (.openStream id dest) with reader := .refusing id }
  | routing {id bytes k s s' data} (running : c.reader = .running) (idle : c.routing = none)
      (decoded : Frame.decode data = .ok (.data id bytes)) (registered : c.registry id = some k)
      (found : c.streams[k]? = some s) (stepped : Effect s (.lookup bytes) s') :
    ServerEffect c (.incoming (.binary data)) { received c (.data id bytes) with
      routing := some k, streams := c.streams.set k s' }
  | closed {id data} (running : c.reader = .running) (idle : c.routing = none)
      (decoded : Frame.decode data = .ok (.close id)) :
    ServerEffect c (.incoming (.binary data)) { received c (.close id) with registry := c.registry.close id }
  | skipped {frame data} (running : c.reader = .running) (idle : c.routing = none)
      (decoded : Frame.decode data = .ok frame)
      (unknown : (∃ id bytes, frame = .data id bytes ∧ c.registry id = none) ∨
        (∃ token, frame = .hello token) ∨ ∃ id ok, frame = .openAck id ok) :
    ServerEffect c (.incoming (.binary data)) (received c frame)
  | accept {token} (presenting : c.reader = .presenting token) :
    ServerEffect c .accept { c with reader := .running, writer := .receiving }
  | reject {token} (presenting : c.reader = .presenting token) : ServerEffect c .reject { c with reader := .ended }
  | connectOk {id dest} (connecting : c.reader = .connecting id dest) :
    ServerEffect c .connectOk (c.connected id dest)
  | connectFail {id dest} (connecting : c.reader = .connecting id dest) :
    ServerEffect c .connectFail { c with registry := c.registry.close id, reader := .refusing id }
  | refused {id frames} (refusing : c.reader = .refusing id) (accepts : c.frames.Accepts (.openAck id false) frames) :
    ServerEffect c .answer { c with frames, reader := .running }
  | unrefused {id} (refusing : c.reader = .refusing id) (closed : c.frames.receiver = false) :
    ServerEffect c .answer { c with reader := .running }
  | acked {k s frames} (acking : c.reader = .acking k) (found : c.streams[k]? = some s)
      (accepts : c.frames.Accepts (.openAck s.id true) frames) :
    ServerEffect c .answer { c with
      frames, streams := c.streams.set k (acked s [.openAck s.id true]), reader := .running }
  | unacked {k s} (acking : c.reader = .acking k) (found : c.streams[k]? = some s) (closed : c.frames.receiver = false) :
    ServerEffect c .answer { c with streams := c.streams.set k (acked s []), reader := .running }
  | readerCloseAll (closing : c.reader = .closing) :
    ServerEffect c .readerCloseAll { c with registry := .new, reader := .ended }
  | writerExit (finished : c.reader = .ended ∨ c.reader = .dropped) (done : ∀ s ∈ c.streams, s.phase = .done)
      (receiving : c.writer = .receiving) (drained : c.frames.queue = []) :
    ServerEffect c .writerExit { c with writer := .stopping }
  | writerStop (stopping : c.writer = .stopping) :
    ServerEffect c .writerStop { c with writer := .ended, frames := c.frames.dropReceiver, registry := .new }
  | dropped (suspended : c.reader.suspended = true) (handed : ∀ k, c.reader ≠ .acking k) :
    ServerEffect c .drop { c with routing := none, reader := .dropped }
  | droppedAcking {k s} (acking : c.reader = .acking k) (found : c.streams[k]? = some s) :
    ServerEffect c .drop { c with routing := none, reader := .dropped, streams := c.streams.set k s.abandon }

private theorem incoming_server {c c' : Server} {message : Message} (taken : c.incoming message = some c') :
    ServerEffect c (.incoming message) c' := by
  unfold Server.incoming at taken
  split at taken
  · next hello =>
    cases message with
    | ping => cases taken; exact .ignored (.inl ⟨hello, rfl⟩)
    | other => cases taken; exact .unwelcome hello (by simp) (by simp)
    | binary data =>
      simp only at taken
      split at taken
      · next decoded => cases taken; exact .hello hello decoded
      · next other =>
        cases taken
        exact .unwelcome hello (by simp) (by rintro _ token ⟨⟩ decoded; exact other token decoded)
  · next running =>
    split at taken
    · next idle =>
      cases message with
      | ping => cases taken; exact .ignored (.inr ⟨running, idle, .inl rfl⟩)
      | other => cases taken; exact .broken running idle
      | binary data =>
        simp only at taken
        split at taken
        · next bad => cases taken; exact .ignored (.inr ⟨running, idle, .inr ⟨data, _, rfl, bad⟩⟩)
        · next frame decoded =>
          cases frame with
          | hello token => cases taken; exact .skipped running idle decoded (.inr (.inl ⟨token, rfl⟩))
          | openAck id ok => cases taken; exact .skipped running idle decoded (.inr (.inr ⟨id, ok, rfl⟩))
          | close id => cases taken; exact .closed running idle decoded
          | openStream id dest =>
            cases taken
            unfold Server.handleOpen
            split
            · next allowed => exact .opening running idle decoded allowed
            · next forbidden => exact .blocked running idle decoded (by simpa using forbidden)
          | data id bytes =>
            obtain ⟨e, routed, rfl⟩ := Option.map_eq_some_iff.mp taken
            unfold Endpoint.route at routed
            split at routed
            · next none => cases routed; exact .skipped running idle decoded (.inl ⟨id, bytes, rfl, none⟩)
            · next registered =>
              obtain ⟨s, s', found, stepped, rfl⟩ := modify_some.mp routed
              exact .routing running idle decoded registered found (StreamFlow.step_effect stepped)
    · cases taken
  · cases taken

private theorem answer_server {c c' : Server} (taken : c.answer = some c') : ServerEffect c .answer c' := by
  unfold Server.answer at taken
  split at taken
  · next refusing =>
    obtain ⟨e, offered, rfl⟩ := Option.map_eq_some_iff.mp taken
    rcases offer_some offered with ⟨frames, accepts, sent⟩ | ⟨closed, sent⟩
    · cases sent; exact .refused refusing accepts
    · cases sent; exact .unrefused refusing closed
  · next acking =>
    obtain ⟨s, found, taken⟩ := Option.bind_eq_some_iff.mp taken
    obtain ⟨e, offered, rfl⟩ := Option.map_eq_some_iff.mp taken
    rcases offer_some offered with ⟨frames, accepts, sent⟩ | ⟨closed, sent⟩
    · obtain ⟨_, s', found', changed, rfl⟩ := modify_some.mp sent
      cases found.symm.trans found'
      cases changed
      exact .acked acking found accepts
    · obtain ⟨_, s', found', changed, rfl⟩ := modify_some.mp sent
      cases found.symm.trans found'
      cases changed
      have silent : s.relay = ServerSteps.acked s [] := by simp [ServerSteps.acked, Stream.relay]
      rw [silent]
      exact .unacked acking found closed
  · cases taken

private theorem drop_server {c c' : Server} (taken : c.drop = some c') : ServerEffect c .drop c' := by
  unfold Server.drop at taken
  split at taken
  · next suspended =>
    split at taken
    · next acking =>
      obtain ⟨e, modified, rfl⟩ := Option.map_eq_some_iff.mp taken
      obtain ⟨s, s', found, changed, rfl⟩ := modify_some.mp modified
      cases changed
      exact .droppedAcking acking found
    · next handed => cases taken; exact .dropped suspended handed
  · cases taken

theorem server_effect {c c' : Server} {action : ServerAction} (taken : c.step action = some c') :
    ServerEffect c action c' := by
  cases action with
  | endpoint action =>
    obtain ⟨e, shared, rfl⟩ := Option.map_eq_some_iff.mp taken
    exact .endpoint (EndpointSteps.step_effect shared)
  | incoming message => exact incoming_server taken
  | accept =>
    simp only [Server.step] at taken
    split at taken
    · next presenting => cases taken; exact .accept presenting
    · cases taken
  | reject =>
    simp only [Server.step] at taken
    split at taken
    · next presenting => cases taken; exact .reject presenting
    · cases taken
  | connectOk =>
    simp only [Server.step] at taken
    split at taken
    · next connecting => cases taken; exact .connectOk connecting
    · cases taken
  | connectFail =>
    simp only [Server.step] at taken
    split at taken
    · next connecting => cases taken; exact .connectFail connecting
    · cases taken
  | answer => exact answer_server taken
  | readerCloseAll =>
    simp only [Server.step] at taken
    split at taken
    · next closing => cases taken; exact .readerCloseAll closing
    · cases taken
  | writerExit =>
    simp only [Server.step] at taken
    split at taken
    · next guard =>
      obtain ⟨e, exited, rfl⟩ := Option.map_eq_some_iff.mp taken
      unfold Endpoint.writerExit at exited
      split at exited
      · next drained =>
        cases exited
        exact .writerExit (by simpa [Server.isOver] using guard.1) (by simpa using guard.2) drained.1 drained.2
      · cases exited
    · cases taken
  | writerStop =>
    obtain ⟨e, stopped, rfl⟩ := Option.map_eq_some_iff.mp taken
    unfold Endpoint.writerStop at stopped
    split at stopped
    · next stopping => cases stopped; exact .writerStop stopping
    · cases stopped
  | drop => exact drop_server taken

/-- A frame the reader skips carries no payload for a registered id. -/
theorem server_unrouted {c : Server} {frame : Frame} (unknown : (∃ id bytes, frame = .data id bytes ∧ c.registry id = none) ∨
    (∃ token, frame = .hello token) ∨ ∃ id ok, frame = .openAck id ok) (id : StreamId) (registered : c.registry id ≠ none) :
    payload id frame = none := by
  rcases unknown with ⟨other, bytes, rfl, none⟩ | ⟨_, rfl⟩ | ⟨_, _, rfl⟩
  · have different : other ≠ id := by
      rintro rfl
      exact registered none
    simp [payload, different]
  · rfl
  · rfl

/-- A session whose future is over stays so; what still runs are its writer and relays. -/
theorem over_effect {c c' : Server} {action : ServerAction} (finished : c.isOver = true) (effect : ServerEffect c action c') :
    c'.isOver = true ∧ (c'.streams = c.streams ∨ ∃ move e, EndpointEffect c.toEndpoint move e ∧ c'.streams = e.streams) := by
  have reader : c.reader = .ended ∨ c.reader = .dropped := by simpa [Server.isOver] using finished
  cases effect with
  | endpoint effect => exact ⟨finished, .inr ⟨_, _, effect, rfl⟩⟩
  | writerExit | writerStop | ignored => exact ⟨finished, .inl rfl⟩
  | dropped suspended => rcases reader with now | now <;> simp [now, SessionReader.suspended] at suspended
  | hello now | unwelcome now | broken now | opening now | blocked now | routing now | closed now | skipped now
  | accept now | reject now | connectOk now | connectFail now | refused now | unrefused now | acked now | unacked now
  | readerCloseAll now | droppedAcking now => simp [now] at reader

/-- A dropped session future stays dropped. -/
theorem undropped {c c' : Server} {action : ServerAction} (effect : ServerEffect c action c') (alive : c'.reader ≠ .dropped) :
    c.reader ≠ .dropped := by
  intro gone
  cases effect with
  | endpoint | writerExit | writerStop | ignored => exact alive gone
  | dropped | droppedAcking => exact alive rfl
  | _ now => simp [gone] at now

end EchoProxy.Proofs.ServerSteps
