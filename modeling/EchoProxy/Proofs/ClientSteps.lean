import EchoProxy.Proofs.HandlerFlow
import EchoProxy.Proofs.EndpointSteps
import EchoProxy.Mux

/-! What the steps of the client do. -/

namespace EchoProxy.Proofs.ClientSteps
open EchoProxy StreamFlow HandlerFlow EndpointSteps FrameSequences

/-- The reader has taken a frame off the WebSocket. -/
def received (c : Client) (frame : Frame) : Client := { c with dispatched := c.dispatched ++ [frame] }

/-- Everything a step of the client can do. -/
inductive ClientEffect (c : Client) : ClientAction → Client → Prop where
  | connect {token} (connecting : c.link = .connecting token) :
    ClientEffect c .connect
      { c with link := .attached, reader := .running, writer := .receiving, put := [.hello token] }
  | connectFail {token} (connecting : c.link = .connecting token) :
    ClientEffect c .connectFail { c with link := .released }
  | accept {id tunnel} (attached : c.link = .attached) :
    ClientEffect c (.accept id tunnel) { c with streams := c.streams ++ [Stream.fresh id ⟨tunnel, .start, none⟩] }
  | register {k s s'} (found : c.streams[k]? = some s) (stepped : HandlerEffect s .registered s') :
    ClientEffect c (.handler k .register)
      { c with registry := c.registry.register s.id k, streams := c.streams.set k s' }
  | insertAck {k s s'} (found : c.streams[k]? = some s) (stepped : HandlerEffect s .inserted s') :
    ClientEffect c (.handler k .insertAck)
      { c with pendingAcks := Function.update c.pendingAcks s.id (some k), streams := c.streams.set k s' }
  | sent {k frame frames s s' move} (found : c.streams[k]? = some s) (request : s.request = some frame)
      (accepts : c.frames.Accepts frame frames) (which : move = .opened ∨ move = .forwarded)
      (stepped : HandlerEffect s move s') :
    ClientEffect c (.handler k .send) { c with frames, streams := c.streams.set k s' }
  | unsent {k frame s s' move} (found : c.streams[k]? = some s) (request : s.request = some frame)
      (closed : c.frames.receiver = false) (which : move = .unopened ∨ move = .unforwarded)
      (stepped : HandlerEffect s move s') :
    ClientEffect c (.handler k .send) { c with streams := c.streams.set k s' }
  | ackLost {k s s'} (found : c.streams[k]? = some s) (gone : c.pendingAcks s.id ≠ some k)
      (stepped : HandlerEffect s .lost s') :
    ClientEffect c (.handler k .ackLost) { c with streams := c.streams.set k s' }
  | leave {k s s'} (found : c.streams[k]? = some s) (stepped : HandlerEffect s .left s') :
    ClientEffect c (.handler k .leave) { c with registry := c.registry.close s.id, streams := c.streams.set k s' }
  | handler {k s s' move} (found : c.streams[k]? = some s) (isLocal : move.isLocal = true)
      (stepped : HandlerEffect s move s') :
    ClientEffect c (.handler k (.stream move)) { c with streams := c.streams.set k s' }
  | endpoint {action e} (effect : EndpointEffect c.toEndpoint action e) :
    ClientEffect c (.endpoint action) { c with toEndpoint := e }
  | ignored {message} (running : c.reader = .running) (idle : c.routing = none)
      (nothing : message = .ping ∨ ∃ data error, message = .binary data ∧ Frame.decode data = .error error) :
    ClientEffect c (.incoming message) c
  | broken (running : c.reader = .running) (idle : c.routing = none) :
    ClientEffect c (.incoming .other) { c with reader := .closing }
  | acked {id ok k s s' data} (running : c.reader = .running) (idle : c.routing = none)
      (decoded : Frame.decode data = .ok (.openAck id ok)) (pending : c.pendingAcks id = some k)
      (found : c.streams[k]? = some s) (stepped : HandlerEffect s (.ack ok) s') :
    ClientEffect c (.incoming (.binary data)) { received c (.openAck id ok) with
      pendingAcks := Function.update c.pendingAcks id none, streams := c.streams.set k s' }
  | routing {id bytes k s s' data} (running : c.reader = .running) (idle : c.routing = none)
      (decoded : Frame.decode data = .ok (.data id bytes)) (registered : c.registry id = some k)
      (found : c.streams[k]? = some s) (stepped : Effect s (.lookup bytes) s') :
    ClientEffect c (.incoming (.binary data)) { received c (.data id bytes) with
      routing := some k, streams := c.streams.set k s' }
  | closed {id data} (running : c.reader = .running) (idle : c.routing = none)
      (decoded : Frame.decode data = .ok (.close id)) :
    ClientEffect c (.incoming (.binary data)) { received c (.close id) with registry := c.registry.close id }
  | skipped {frame data} (running : c.reader = .running) (idle : c.routing = none)
      (decoded : Frame.decode data = .ok frame)
      (unknown : (∃ id ok, frame = .openAck id ok ∧ c.pendingAcks id = none) ∨
        (∃ id bytes, frame = .data id bytes ∧ c.registry id = none) ∨
        (∃ token, frame = .hello token) ∨ ∃ id dest, frame = .openStream id dest) :
    ClientEffect c (.incoming (.binary data)) (received c frame)
  | readerCloseAll (closing : c.reader = .closing) :
    ClientEffect c .readerCloseAll { c with registry := .new, reader := .clearing }
  | readerClear (clearing : c.reader = .clearing) :
    ClientEffect c .readerClear { c with reader := .ended, pendingAcks := fun _ => none }
  | writerExit (released : c.link = .released) (finished : ∀ s ∈ c.streams, s.phase = .done) (receiving : c.writer = .receiving)
      (drained : c.frames.queue = []) :
    ClientEffect c .writerExit { c with writer := .stopping }
  | writerStop (stopping : c.writer = .stopping) :
    ClientEffect c .writerStop { c with
      writer := .ended, frames := c.frames.dropReceiver, registry := if c.resilient then .new else c.registry }
  | release (attached : c.link = .attached) :
    ClientEffect c .release { c with link := if c.resilient then .clearing else .released }
  | releaseClear (clearing : c.link = .clearing) :
    ClientEffect c .releaseClear { c with link := .closing, pendingAcks := fun _ => none }
  | releaseCloseAll (closing : c.link = .closing) :
    ClientEffect c .releaseCloseAll { c with registry := .new, link := .released }

private theorem modify_effect {c c' : Client} {k : Nat} {change : Stream Handler → Option (Stream Handler)}
    (modified : c.modify k change = some c') :
    ∃ s s', c.streams[k]? = some s ∧ change s = some s' ∧ c' = { c with streams := c.streams.set k s' } := by
  obtain ⟨e, inner, rfl⟩ := Option.map_eq_some_iff.mp modified
  obtain ⟨s, s', found, changed, rfl⟩ := modify_some.mp inner
  exact ⟨s, s', found, changed, rfl⟩

private theorem handlerStep_client {c c' : Client} {k : Nat} {s : Stream Handler} {action : HandlerAction}
    (found : c.streams[k]? = some s) (taken : c.handlerStep k s action = some c') :
    ClientEffect c (.handler k action) c' := by
  cases action with
  | register =>
    obtain ⟨_, s', found', stepped, rfl⟩ := modify_effect taken
    cases found.symm.trans found'
    exact .register found (handlerStep_effect stepped)
  | insertAck =>
    obtain ⟨_, s', found', stepped, rfl⟩ := modify_effect taken
    cases found.symm.trans found'
    exact .insertAck found (handlerStep_effect stepped)
  | send =>
    obtain ⟨frame, request, taken⟩ := Option.bind_eq_some_iff.mp taken
    obtain ⟨e, offered, rfl⟩ := Option.map_eq_some_iff.mp taken
    rcases offer_some offered with ⟨frames, accepts, taken⟩ | ⟨closed, taken⟩
    · obtain ⟨_, s', found', stepped, rfl⟩ := modify_some.mp taken
      cases found.symm.trans found'
      rcases Option.or_eq_some_iff.mp stepped with stepped | ⟨-, stepped⟩
      · exact .sent found request accepts (.inl rfl) (handlerStep_effect stepped)
      · exact .sent found request accepts (.inr rfl) (handlerStep_effect stepped)
    · obtain ⟨_, s', found', stepped, rfl⟩ := modify_some.mp taken
      cases found.symm.trans found'
      rcases Option.or_eq_some_iff.mp stepped with stepped | ⟨-, stepped⟩
      · exact .unsent found request closed (.inl rfl) (handlerStep_effect stepped)
      · exact .unsent found request closed (.inr rfl) (handlerStep_effect stepped)
  | ackLost =>
    simp only [Client.handlerStep] at taken
    split at taken
    · cases taken
    · next gone =>
      obtain ⟨_, s', found', stepped, rfl⟩ := modify_effect taken
      cases found.symm.trans found'
      exact .ackLost found gone (handlerStep_effect stepped)
  | leave =>
    obtain ⟨_, s', found', stepped, rfl⟩ := modify_effect taken
    cases found.symm.trans found'
    exact .leave found (handlerStep_effect stepped)
  | stream move =>
    simp only [Client.handlerStep] at taken
    split at taken
    · next isLocal =>
      obtain ⟨_, s', found', stepped, rfl⟩ := modify_effect taken
      cases found.symm.trans found'
      exact .handler found isLocal (handlerStep_effect stepped)
    · cases taken

private theorem incoming_client {c c' : Client} {message : Message} (taken : c.incoming message = some c') :
    ClientEffect c (.incoming message) c' := by
  unfold Client.incoming at taken
  split at taken
  · next ready =>
    obtain ⟨running, idle⟩ := ready
    cases message with
    | ping => cases taken; exact .ignored running idle (.inl rfl)
    | other => cases taken; exact .broken running idle
    | binary data =>
      simp only at taken
      split at taken
      · next bad => cases taken; exact .ignored running idle (.inr ⟨data, _, rfl, bad⟩)
      · next frame decoded =>
        cases frame with
        | hello token => cases taken; exact .skipped running idle decoded (.inr (.inr (.inl ⟨token, rfl⟩)))
        | openStream id dest => cases taken; exact .skipped running idle decoded (.inr (.inr (.inr ⟨id, dest, rfl⟩)))
        | close id => cases taken; exact .closed running idle decoded
        | openAck id ok =>
          simp only [Client.dispatch] at taken
          split at taken
          · next none => cases taken; exact .skipped running idle decoded (.inl ⟨id, ok, rfl, none⟩)
          · next pending =>
            obtain ⟨s, s', found, stepped, rfl⟩ := modify_effect taken
            exact .acked running idle decoded pending found (handlerStep_effect stepped)
        | data id bytes =>
          obtain ⟨e, routed, rfl⟩ := Option.map_eq_some_iff.mp taken
          unfold Endpoint.route at routed
          split at routed
          · next none => cases routed; exact .skipped running idle decoded (.inr (.inl ⟨id, bytes, rfl, none⟩))
          · next registered =>
            obtain ⟨s, s', found, stepped, rfl⟩ := modify_some.mp routed
            exact .routing running idle decoded registered found (StreamFlow.step_effect stepped)
  · cases taken

theorem client_effect {c c' : Client} {action : ClientAction} (taken : c.step action = some c') :
    ClientEffect c action c' := by
  cases action with
  | connect =>
    simp only [Client.step] at taken
    split at taken
    · next connecting => cases taken; exact .connect connecting
    · cases taken
  | connectFail =>
    simp only [Client.step] at taken
    split at taken
    · next connecting => cases taken; exact .connectFail connecting
    · cases taken
  | accept id tunnel =>
    simp only [Client.step] at taken
    split at taken
    · next attached => cases taken; exact .accept attached
    · cases taken
  | handler k action =>
    obtain ⟨s, found, taken⟩ := Option.bind_eq_some_iff.mp taken
    exact handlerStep_client found taken
  | endpoint action =>
    obtain ⟨e, shared, rfl⟩ := Option.map_eq_some_iff.mp taken
    exact .endpoint (EndpointSteps.step_effect shared)
  | incoming message => exact incoming_client taken
  | readerCloseAll =>
    simp only [Client.step] at taken
    split at taken
    · next closing => cases taken; exact .readerCloseAll closing
    · cases taken
  | readerClear =>
    simp only [Client.step] at taken
    split at taken
    · next clearing => cases taken; exact .readerClear clearing
    · cases taken
  | writerExit =>
    simp only [Client.step] at taken
    split at taken
    · next guard =>
      obtain ⟨e, exited, rfl⟩ := Option.map_eq_some_iff.mp taken
      unfold Endpoint.writerExit at exited
      split at exited
      · next drained =>
        cases exited
        exact .writerExit guard.1 (by simpa using guard.2) drained.1 drained.2
      · cases exited
    · cases taken
  | writerStop =>
    obtain ⟨e, stopped, rfl⟩ := Option.map_eq_some_iff.mp taken
    unfold Endpoint.writerStop at stopped
    split at stopped
    · next stopping => cases stopped; exact .writerStop stopping
    · cases stopped
  | release =>
    simp only [Client.step] at taken
    split at taken
    · next attached => cases taken; exact .release attached
    · cases taken
  | releaseClear =>
    simp only [Client.step] at taken
    split at taken
    · next clearing => cases taken; exact .releaseClear clearing
    · cases taken
  | releaseCloseAll =>
    simp only [Client.step] at taken
    split at taken
    · next closing => cases taken; exact .releaseCloseAll closing
    · cases taken

/-- A frame the reader skips carries no payload for a registered id. -/
theorem client_unrouted {c : Client} {frame : Frame} (unknown : (∃ id ok, frame = .openAck id ok ∧ c.pendingAcks id = none) ∨
    (∃ id bytes, frame = .data id bytes ∧ c.registry id = none) ∨ (∃ token, frame = .hello token) ∨
      ∃ id dest, frame = .openStream id dest) (id : StreamId) (registered : c.registry id ≠ none) : payload id frame = none := by
  rcases unknown with ⟨_, _, rfl, -⟩ | ⟨other, bytes, rfl, none⟩ | ⟨_, rfl⟩ | ⟨_, _, rfl⟩
  · rfl
  · have different : other ≠ id := by
      rintro rfl
      exact registered none
    simp [payload, different]
  · rfl
  · rfl

end EchoProxy.Proofs.ClientSteps
