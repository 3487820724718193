import EchoProxy.Proofs.Quiescence

/-! Streams the client has left. A handler that ends in its relay loop, or is told
that its OPEN failed, leaves nothing behind at the server; one that gives up on an
OPEN it sent does not send CLOSE. -/

namespace EchoProxy.Proofs.Release
open EchoProxy StreamFlow HandlerFlow EndpointSteps EndpointAccounts ClientSteps ServerSteps FrameSequences MuxInvariant Places
  Protocol Integrity Conservation Progress Quiescence

/-! ### Handlers that give up -/

/-- A handler gives up on its stream: no OPEN_ACK within the deadline, its sender
dropped, or the success reply not written. -/
def ClientAction.givesUp : ClientAction → Bool
  | .handler _ .ackLost | .handler _ (.stream .timeout) | .handler _ (.stream .greetError) => true
  | _ => false

def MuxAction.givesUp : MuxAction → Bool
  | .client action => ClientAction.givesUp action
  | .server _ => false

/-- A handler that ended before its relay loop was told that its OPEN failed, unless
it sent none or the frame channel is closed. -/
def Told (accepting : Bool) (s : Stream Handler) : Prop :=
  s.task = .absent → s.phase = .done ∨ (∃ reply, s.front.stage = .leaving reply) ∨ (∃ rest, s.front.stage = .replying rest) →
    s.emitted = [] ∨ s.front.ack = some false ∨ accepting = false

private theorem Told.closed {s : Stream Handler} {before after : Bool} (told : Told before s)
    (closes : after = true → before = true) : Told after s := by
  intro absent ended
  refine (told absent ended).imp_right (Or.imp_right fun refusing => ?_)
  cases accepting : after with
  | false => rfl
  | true => simp [closes accepting] at refusing

private theorem Told.step {s s' : Stream Handler} {move} {accepting : Bool} (told : Told accepting s) (handled : Handled s)
    (effect : Effect s move s') : Told accepting s' := by
  intro absent ended
  have idle := effect.absent.mp absent
  cases effect with
  | read now | readEnd now | readError now | sentData now | sentClose now | unsentData now | unsentClose now
  | unregister now => exact absurd idle (handled.inbound.relaying (by simp [now]) (by simp [now]))
  | write now => simp [now] at idle
  | recv now => simp [now] at idle
  | writeError now => simp [now] at idle
  | finish now => simp [now] at idle
  | _ => exact told idle ended

private theorem Told.handlerStep {s s' : Stream Handler} {move} {accepting : Bool} (told : Told accepting s)
    (handled : Handled s) (effect : HandlerEffect s move s') (patient : move ≠ .lost ∧ move ≠ .timeout ∧ move ≠ .greetError)
    (unforwarded : move = .unforwarded → accepting = false) : Told accepting s' := by
  intro absent ended
  cases effect with
  | ack =>
    refine (told absent ended).imp_right (Or.imp_left fun refused => ?_)
    simp [refused]
  | unopened front stage =>
    have before := (handled.front front).1
    rw [stage] at before
    exact .inl before.1
  | refused _ _ _ which answered =>
    rcases which with rfl | rfl | rfl
    · exact .inr (.inl (answered rfl))
    · exact absurd rfl patient.1
    · exact absurd rfl patient.2.1
  | greetError => exact absurd rfl patient.2.2
  | unforwarded => exact .inr (.inr (unforwarded rfl))
  | left front stage | leftSilently front stage =>
    exact told (handled.inbound.front front) (.inr (.inl ⟨_, stage⟩))
  | reply front stage | replied front stage | replyError front stage =>
    exact told (handled.inbound.front front) (.inr (.inr ⟨_, stage⟩))
  | greeted | forwarded => simp [Stream.relay] at absent
  | granted front stage ack next =>
    rcases next with ⟨-, rfl⟩ | ⟨-, rfl⟩ <;> simp [Stream.setStage, front] at ended
  | registered front | inserted front | opened front | greet front => simp [Stream.setStage, front] at ended

theorem client_told {token : String} {resilient : Bool} {c : Client}
    (run : (clientSystem token resilient).Reach (fun action => ClientAction.givesUp action = false) c) :
    ∀ s ∈ c.streams, Told c.frames.receiver s := by
  refine run.invariant (p := fun c => ∀ s ∈ c.streams, Told c.frames.receiver s) ?_ ?_
  · rintro c rfl s member
    simp [Client.fresh, Endpoint.fresh] at member
  · intro before action after prior valid patient taken
    have client := ClientInvariant.client_valid prior
    have effect := client_effect taken
    have closes := ClientInvariant.client_closed effect
    have old : ∀ s ∈ before.streams, Told after.frames.receiver s := fun s member => (valid s member).closed closes
    cases effect with
    | accept =>
      intro s member
      rcases List.mem_append.mp member with there | new
      · exact old s there
      · rw [List.mem_singleton.mp new]
        intro _ ended
        simp [Stream.fresh] at ended
    | endpoint effect =>
      cases effect with
      | pop | put | putFail => exact old
      | stream found _ stepped | sent found _ _ stepped | unsent found _ _ stepped | finish found _ stepped
      | route _ found stepped | unregister found stepped =>
        have member := List.mem_of_getElem? found
        exact forall_set old ((old _ member).step (client.streams.handled _ member) stepped)
    | routing _ _ _ _ found stepped =>
      have member := List.mem_of_getElem? found
      exact forall_set old ((old _ member).step (client.streams.handled _ member) stepped)
    | register found stepped | insertAck found stepped | leave found stepped | acked _ _ _ _ found stepped =>
      have member := List.mem_of_getElem? found
      exact forall_set old
        ((old _ member).handlerStep (client.streams.handled _ member) stepped (by simp) (by simp))
    | sent found _ _ which stepped =>
      have member := List.mem_of_getElem? found
      exact forall_set old ((old _ member).handlerStep (client.streams.handled _ member) stepped
        (by rcases which with rfl | rfl <;> simp) (by rcases which with rfl | rfl <;> simp))
    | unsent found _ closed which stepped =>
      have member := List.mem_of_getElem? found
      exact forall_set old ((old _ member).handlerStep (client.streams.handled _ member) stepped
        (by rcases which with rfl | rfl <;> simp) fun _ => closed)
    | ackLost => cases patient
    | @handler k s s' move found isLocal stepped =>
      have member := List.mem_of_getElem? found
      refine forall_set old ((old _ member).handlerStep (client.streams.handled _ member) stepped ⟨?_, ?_, ?_⟩ ?_) <;>
        rintro rfl
      · cases isLocal
      · cases patient
      · cases patient
      · cases isLocal
    | _ => exact old

/-! ### The server's end -/

/-- A stream whose CLOSE was dispatched is not registered. -/
def Unclosed (registry : StreamRegistry) (dispatched : List Frame) : Prop :=
  ∀ id k, registry id = some k → .close id ∉ dispatched

namespace Unclosed
variable {registry : StreamRegistry} {dispatched : List Frame}

theorem close (valid : Unclosed registry dispatched) (id : StreamId) : Unclosed (registry.close id) dispatched :=
  fun other k registered => valid other k (close_some.mp registered).2

theorem closeAll : Unclosed .new dispatched := fun id k registered => by simp [StreamRegistry.new] at registered

theorem skip {frame : Frame} (valid : Unclosed registry dispatched) (other : ∀ id, frame ≠ .close id) :
    Unclosed registry (dispatched ++ [frame]) := by
  intro id k registered closed
  rcases List.mem_append.mp closed with old | new
  · exact valid id k registered old
  · exact other id (List.mem_singleton.mp new).symm

theorem closed (valid : Unclosed registry dispatched) (id : StreamId) :
    Unclosed (registry.close id) (dispatched ++ [.close id]) := by
  intro other k registered closed
  obtain ⟨different, registered⟩ := close_some.mp registered
  rcases List.mem_append.mp closed with old | new
  · exact valid other k registered old
  · exact different (Frame.close.inj (List.mem_singleton.mp new))

theorem register {id : StreamId} {k : Nat} (valid : Unclosed registry dispatched) (fresh : .close id ∉ dispatched) :
    Unclosed (registry.register id k) dispatched := by
  intro other j registered
  rcases register_some.mp registered with ⟨rfl, -⟩ | ⟨-, registered⟩
  · exact fresh
  · exact valid other j registered

end Unclosed

theorem server_unclosed {c c' : Server} {action} (effect : ServerEffect c action c') (valid : Unclosed c.registry c.dispatched)
    (fresh : ∀ id dest, c.reader = .connecting id dest → .close id ∉ c.dispatched) : Unclosed c'.registry c'.dispatched := by
  cases effect with
  | endpoint effect =>
    rw [(endpoint_ids effect).2]
    cases effect with
    | unregister => exact valid.close _
    | _ => exact valid
  | connectOk connecting => exact valid.register (fresh _ _ connecting)
  | closed => exact valid.closed _
  | connectFail => exact valid.close _
  | readerCloseAll | writerStop => exact .closeAll
  | hello | opening | blocked | routing => exact valid.skip (by simp)
  | skipped running idle decoded unknown =>
    refine valid.skip ?_
    rcases unknown with ⟨other, bytes, rfl, -⟩ | ⟨text, rfl⟩ | ⟨other, ok, rfl⟩ <;> simp
  | _ => exact valid

section Runs
variable {capacity : Nat} {token : String} {resilient : Bool} {allowed : MuxAction → Prop} {m : Mux}

theorem unclosed (run : (muxSystem capacity token resilient).Reach allowed m) (distinct : Distinct m.client.streams) :
    Unclosed m.server.registry m.server.dispatched := by
  refine run.invariant (p := fun m => Distinct m.client.streams → Unclosed m.server.registry m.server.dispatched) ?_ ?_ distinct
  · rintro m rfl -
    exact .closeAll
  · intro before action after prior valid _ taken distinct
    cases mux_effect taken with
    | client stepped => exact valid (ClientInvariant.Distinct.before (client_effect stepped) distinct)
    | server stepped =>
      refine server_unclosed (server_effect stepped) (valid distinct) fun id dest connecting closed => ?_
      obtain ⟨earlier, latest, nothing⟩ := connecting_first prior distinct connecting
      rw [latest] at closed
      have inside : .close id ∈ ofId id earlier := List.mem_filter.mpr ⟨by simpa using closed, by simp [streamId]⟩
      simp [nothing] at inside

/-- A handler that ended in its relay loop has sent CLOSE after its OPEN. -/
theorem relayed_closes (run : (muxSystem capacity token resilient).Reach allowed m) (distinct : Distinct m.client.streams)
    {s : Stream Handler} (here : s ∈ m.client.streams) (ended : s.phase = .done) (relayed : s.task ≠ .absent)
    (accepting : m.client.frames.receiver = true) :
    ∃ sent : List Bytes, ofId s.id m.client.frames.history = openFrame s :: sent.map (.data s.id) ++ [.close s.id] := by
  have client := ClientInvariant.client_valid (client_reach run)
  obtain ⟨k, found⟩ := List.getElem?_of_mem here
  have account := client.streams.sending accepting s here relayed
  rw [Outbound, ended] at account
  rw [client.sources.attributed distinct k s found]
  refine ⟨prelude s.front ++ s.socket.chunks, ?_⟩
  simpa [held, farewell, opening] using account

/-- A handler that ended before its relay loop has sent no CLOSE. -/
private theorem unrelayed_silent (run : (muxSystem capacity token resilient).Reach allowed m) (distinct : Distinct m.client.streams)
    {s : Stream Handler} (here : s ∈ m.client.streams) (absent : s.task = .absent) :
    .close s.id ∉ m.client.frames.history := by
  have client := ClientInvariant.client_valid (client_reach run)
  obtain ⟨k, found⟩ := List.getElem?_of_mem here
  intro closed
  have sent : .close s.id ∈ s.emitted := by
    rw [← client.sources.attributed distinct k s found]
    exact List.mem_filter.mpr ⟨closed, by simp [streamId]⟩
  have only := ((client.streams.handled s here).unrelayed absent).subset sent
  simp [openFrame] at only

/-- A handler that did not give up entered its relay loop, when the server granted
its OPEN. -/
private theorem granted_relays (run : (muxSystem capacity token resilient).Reach (fun action => MuxAction.givesUp action = false) m)
    (distinct : Distinct m.client.streams) {s : Stream Handler} (here : s ∈ m.client.streams) (ended : s.phase = .done)
    (opened : openFrame s ∈ m.client.frames.history) (granted : .openAck s.id true ∈ m.server.frames.history)
    (accepting : m.client.frames.receiver = true) : s.task ≠ .absent := by
  have client := ClientInvariant.client_valid (client_reach run)
  have server := ServerInvariant.server_valid (server_reach run)
  obtain ⟨k, found⟩ := List.getElem?_of_mem here
  intro absent
  rcases client_told (client_reach run) s here absent (.inl ended) with silent | refused | closed
  · have sent : openFrame s ∈ s.emitted := by
      rw [← client.sources.attributed distinct k s found]
      exact List.mem_filter.mpr ⟨opened, by simp [openFrame, streamId]⟩
    simp [silent] at sent
  · have taken : .openAck s.id false ∈ ofId s.id m.server.frames.history :=
      (dispatched_downstream run s.id).subset
        (List.mem_filter.mpr ⟨client.acks.slots s here false refused, by simp [streamId]⟩)
    have answered : .openAck s.id true ∈ ofId s.id m.server.frames.history :=
      List.mem_filter.mpr ⟨granted, by simp [streamId]⟩
    rcases server_answers server (server_nodup run distinct) s.id with shape | ⟨sent, shape⟩
    · have only := shape.subset answered
      simp at only
    · have only := shape.subset taken
      simp at only
  · simp [accepting] at closed

/-- At rest the server has taken everything the client sent, when its reader waits
for nothing but the WebSocket. -/
private theorem all_dispatched (run : (muxSystem capacity token resilient).Reach allowed m) (up : Connected m)
    (quiet : Quiet capacity m) (running : m.server.reader = .running) (idle : m.server.routing = none) :
    m.server.dispatched = .hello token :: m.client.frames.history := by
  have client := ClientInvariant.client_valid (client_reach run)
  have rest := settled run up quiet
  obtain ⟨upload, download, joined⟩ := wires run
  have room := capacity_pos run (client_greeted run up.attached)
  have drained : m.upload = [] := by
    rcases rest.serverReader with ⟨-, -, drained⟩ | ⟨id, dest, connecting⟩ | ⟨⟨id, refusing⟩ | ⟨k, acking⟩, -⟩ | ⟨k, u, routing, -⟩
    · exact drained
    · simp [running] at connecting
    · simp [running] at refusing
    · simp [running] at acking
    · simp [idle] at routing
  obtain ⟨receiving, queued⟩ := rest.clientWriter.resolve_right fun busy => by
    have full := busy.2
    rw [drained] at full
    simp only [List.length_nil] at full
    omega
  have wire : upload = [] := by simpa [joined.up] using drained
  have put := joined.sent
  rw [wire, List.append_nil] at put
  rw [← put, client.started.order.all_put receiving queued]
  rfl

/-- Every OPEN the server holds a stream for was granted. -/
private theorem registered_granted (run : (muxSystem capacity token resilient).Reach allowed m) (distinct : Distinct m.client.streams)
    (up : Connected m) (running : m.server.reader = .running) {id : StreamId} {k : Nat} (registered : m.server.registry id = some k) :
    .openAck id true ∈ m.server.frames.history := by
  have server := ServerInvariant.server_valid (server_reach run)
  have nodup := server_nodup run distinct
  obtain ⟨u, found, rfl⟩ := server.routes.wired.registered id k registered
  have member := List.mem_of_getElem? found
  have opened := server.admitted.order.accepting up.server.writer.2
  obtain ⟨done, known⟩ := server.opens.settled
  have answered : u.id ∈ ackIds m.server.frames.history := by
    have all := server.answers.all opened up.server.reader.2.2
    have pending : ServerInvariant.pending m.server = [] := by simp [ServerInvariant.pending, running]
    rw [pending, List.append_nil] at all
    rw [← all, known.opens]
    exact List.mem_append_left _ (known.ids.subset (List.mem_map_of_mem member))
  obtain ⟨frame, there, same⟩ := List.mem_filterMap.mp answered
  cases frame with
  | openAck other ok =>
    cases same
    cases ok with
    | true => exact there
    | false =>
      have sent : .openAck u.id false ∈ u.emitted := by
        rw [← server.opens.attributed nodup k u found]
        exact List.mem_filter.mpr ⟨there, by simp [streamId]⟩
      obtain ⟨chunks, -, shape⟩ := (server.streams.relayed u member).conforms
      have only := shape.subset sent
      simp at only
  | _ => cases same

/-- The OPEN of an id is that of its handler. -/
private theorem opened_frame (run : (muxSystem capacity token resilient).Reach allowed m) (distinct : Distinct m.client.streams)
    {s : Stream Handler} (here : s ∈ m.client.streams) (opened : s.id ∈ openIds m.client.frames.history) :
    openFrame s ∈ m.client.frames.history := by
  have client := ClientInvariant.client_valid (client_reach run)
  obtain ⟨k, found⟩ := List.getElem?_of_mem here
  obtain ⟨dest, there⟩ := openIds_mem.mp opened
  have sent : .openStream s.id dest ∈ s.emitted := by
    rw [← client.sources.attributed distinct k s found]
    exact List.mem_filter.mpr ⟨there, by simp [streamId]⟩
  obtain ⟨chunks, -, shape⟩ := (client.streams.handled s here).conforms
  have same : .openStream s.id dest = openFrame s := by
    rcases List.mem_append.mp (shape.subset sent) with front | last
    · rcases List.mem_cons.mp front with first | payload
      · exact first
      · simp at payload
    · simp at last
  exact same ▸ there

end Runs

/-- The handlers that have returned, of those whose OPEN the server granted, sent
CLOSE after it. -/
def AllClosed (m : Mux) : Prop := ∀ s ∈ m.client.streams, s.phase = .done → openFrame s ∈ m.client.frames.history →
  .openAck s.id true ∈ m.server.frames.history → m.client.frames.receiver = true →
  ∃ sent : List Bytes, ofId s.id m.client.frames.history = openFrame s :: sent.map (.data s.id) ++ [.close s.id]

/-- The server keeps no stream whose handler has returned. -/
def NoneKept (m : Mux) : Prop := ∀ id k, m.server.registry id = some k → ∃ s ∈ m.client.streams, s.id = id ∧ s.phase ≠ .done

/-- In every run in which no handler gives up on an OPEN it sent, each handler that
returns sends CLOSE, and a connection at rest whose server waits for nothing but the
WebSocket keeps no abandoned stream. A single handler whose OPEN is granted sends
CLOSE exactly if it entered its relay loop. -/
theorem abandoned_released (capacity : Nat) (token : String) (resilient : Bool) (m : Mux)
    (run : (muxSystem capacity token resilient).Reachable m) (distinct : Distinct m.client.streams) :
    (∀ s ∈ m.client.streams, s.phase = .done → m.client.frames.receiver = true →
      (.close s.id ∈ m.client.frames.history ↔ s.task ≠ .absent)) ∧
    ((muxSystem capacity token resilient).Reach (fun action => MuxAction.givesUp action = false) m → AllClosed m ∧
      (Connected m → Quiet capacity m → m.server.reader = .running → m.server.routing = none → NoneKept m)) := by
  refine ⟨fun s here ended accepting => ⟨fun closed absent => unrelayed_silent run distinct here absent closed, fun relayed => ?_⟩,
    fun patient => ?_⟩
  · obtain ⟨sent, shape⟩ := relayed_closes run distinct here ended relayed accepting
    have member : .close s.id ∈ ofId s.id m.client.frames.history := by simp [shape]
    exact (List.mem_filter.mp member).1
  · have closes : AllClosed m := fun s here ended opened granted accepting =>
      relayed_closes run distinct here ended (granted_relays patient distinct here ended opened granted accepting) accepting
    refine ⟨closes, fun up quiet running idle id k registered => ?_⟩
    have client := ClientInvariant.client_valid (client_reach run)
    have server := ServerInvariant.server_valid (server_reach run)
    have dispatched := all_dispatched run up quiet running idle
    obtain ⟨u, found, rfl⟩ := server.routes.wired.registered id k registered
    obtain ⟨s, here, same⟩ := client_twin run distinct (List.mem_of_getElem? found)
    refine ⟨s, here, same, fun ended => unclosed run distinct u.id k registered ?_⟩
    have accepting := client.started.order.accepting up.client.writer.2
    have granted := same ▸ registered_granted run distinct up running registered
    have opened : s.id ∈ openIds m.client.frames.history := by
      obtain ⟨done, known⟩ := server.opens.settled
      have inside : u.id ∈ openIds m.server.dispatched := by
        rw [known.opens]
        exact List.mem_append_left _ (known.ids.subset (List.mem_map_of_mem (List.mem_of_getElem? found)))
      rw [dispatched] at inside
      exact same ▸ inside
    obtain ⟨sent, shape⟩ := closes s here ended (opened_frame run distinct here opened) granted accepting
    have member : .close s.id ∈ ofId s.id m.client.frames.history := by simp [shape]
    rw [dispatched, ← same]
    exact List.mem_cons_of_mem _ (List.mem_filter.mp member).1

/-- A tunnel that ends in its relay loop. -/
theorem relay_released : ∃ m : Mux, m.client.streams.map (·.phase) = [.done] ∧
    ∀ s ∈ m.client.streams, .close s.id ∈ m.client.frames.history := by
  have executed : ((muxSystem 1 "t" true).exec ⟨Client.fresh "t" true, Server.fresh, [], []⟩ (oneTunnel ++
      [.client (.endpoint (.stream 0 .shut)), .client (.endpoint (.stream 0 .readEnd)), .client (.endpoint (.send 0)),
        .client (.endpoint (.unregister 0))])).any (fun m => decide (m.client.streams.map (fun s => (s.id, s.phase)) = [(1, .done)] ∧
          m.client.frames.receiver = true ∧ ∀ s ∈ m.client.streams, s.task ≠ .absent)) = true := by decide +kernel
  obtain ⟨m, run, view⟩ := Transition.System.reached executed rfl
  obtain ⟨shape, accepting, relayed⟩ := of_decide_eq_true view
  have ids : m.client.streams.map Stream.id = [1] := by
    simpa [Function.comp_def] using congrArg (List.map Prod.fst) shape
  have phases : m.client.streams.map (·.phase) = [.done] := by
    simpa [Function.comp_def] using congrArg (List.map Prod.snd) shape
  refine ⟨m, phases, fun s here => ?_⟩
  have ended : s.phase = .done := by
    have phase := List.mem_map_of_mem (f := fun s : Stream Handler => s.phase) here
    rwa [phases, List.mem_singleton] at phase
  exact ((abandoned_released 1 "t" true m run (by simp [Distinct, ids])).1 s here ended
    accepting).mpr (relayed s here)

/-- The connect outlasts the deadline: the handler answers for itself and returns,
then the server registers the stream for good. -/
private def lateConnect : List MuxAction :=
  [.client .connect, .server (.incoming (Frame.hello "t").message), .server .accept,
    .client (.accept 1 (.socksViaMuxWithTimeout "1.1.1.1:80")), .client (.handler 0 .register), .client (.handler 0 .insertAck),
    .client (.handler 0 .send), .client (.endpoint .pop), .client (.endpoint .put),
    .server (.incoming (Frame.openStream 1 "1.1.1.1:80").message),
    .client (.handler 0 (.stream .timeout)), .client (.handler 0 .leave), .client (.handler 0 (.stream (.reply 10))),
    .server .connectOk, .server .answer, .server (.endpoint .pop), .server (.endpoint .put),
    .client (.incoming (Frame.openAck 1 true).message)]

theorem timeout_leaks : ∃ m, (muxSystem 1 "t" true).Reachable m ∧ Distinct m.client.streams ∧ Connected m ∧ Quiet 1 m ∧
    m.server.reader = .running ∧ m.server.routing = none ∧ ¬ AllClosed m ∧ ¬ NoneKept m := by
  have executed : ((muxSystem 1 "t" true).exec ⟨Client.fresh "t" true, Server.fresh, [], []⟩ lateConnect).any (fun m =>
      isResting 1 m && decide (m.client.streams.map (fun s => (s.id, s.phase)) = [(1, .done)] ∧
        (m.server.reader = .running ∧ m.server.routing = none) ∧
        m.client.frames.history = [.openStream 1 "1.1.1.1:80"] ∧ m.server.frames.history = [.openAck 1 true] ∧
        m.client.frames.receiver = true ∧ m.server.registry 1 = some 0 ∧
        ∀ s ∈ m.client.streams, openFrame s = .openStream 1 "1.1.1.1:80")) = true := by decide +kernel
  obtain ⟨m, run, up, quiet, view⟩ := resting_reached executed
  obtain ⟨shape, ⟨serverReader, idle⟩, sent, answered, accepting, registered, opens⟩ := of_decide_eq_true view
  have ids : m.client.streams.map Stream.id = [1] := by
    simpa [Function.comp_def] using congrArg (List.map Prod.fst) shape
  have each (s : Stream Handler) (here : s ∈ m.client.streams) : s.id = 1 ∧ s.phase = .done := by
    have pair := List.mem_map_of_mem (f := fun s : Stream Handler => (s.id, s.phase)) here
    rw [shape, List.mem_singleton, Prod.mk.injEq] at pair
    exact pair
  refine ⟨m, run, by simp [Distinct, ids], up, quiet, serverReader, idle, ?_, ?_⟩
  · intro closed
    obtain ⟨s, here⟩ : ∃ s, s ∈ m.client.streams := by
      have some : m.client.streams ≠ [] := by
        intro none
        simp [none] at ids
      exact List.exists_mem_of_ne_nil _ some
    obtain ⟨id, ended⟩ := each s here
    obtain ⟨chunks, whole⟩ := closed s here ended (by rw [opens s here, sent]; simp) (by rw [id, answered]; simp) accepting
    rw [sent] at whole
    have count := congrArg List.length whole
    have short := List.length_filter_le (fun frame => decide (streamId frame = some s.id)) [.openStream 1 "1.1.1.1:80"]
    simp only [ofId, List.length_append, List.length_cons, List.length_nil] at count short
    omega
  · intro kept
    obtain ⟨s, here, -, live⟩ := kept 1 0 registered
    exact live (each s here).2

end EchoProxy.Proofs.Release
