import EchoProxy.RelayTcp
import EchoProxy.Proofs.HalfClose
import EchoProxy.Proofs.Registration

/-! The end of a stream. No relay shuts down the sending side of a socket: a socket is
closed when both tasks that own a half of it have ended. The end of one endpoint ends
what carried its bytes; the task that reads from the other endpoint waits for that one
to close as well. -/

namespace EchoProxy.Proofs.StreamEnd
open EchoProxy StreamFlow HandlerFlow EndpointSteps EndpointAccounts ClientSteps FrameSequences MuxInvariant Protocol Integrity
  Conservation EndToEnd Progress Quiescence Deadlock Isolation HalfClose Teardown Release Registration

/-- What the endpoint at a socket has sent. -/
def sent (socket : Socket) : Bytes := socket.chunks.flatten ++ socket.incoming

/-- The endpoint has closed its connection: reads come to an end and writes do not wait. -/
def Closed (socket : Socket) : Prop := socket.shut = true ∧ socket.writable = true

def WriterOver (task : WriteTask) : Prop := task = .absent ∨ task = .ended ∨ ∃ rest, task = .failed rest

/-- No task of the stream is left at this end, and so its socket is closed. -/
def Over {φ : Type} (s : Stream φ) : Prop := s.phase = .done ∧ WriterOver s.task

/-- No task of the stream is left at this end but a relay loop whose endpoint has not
closed. -/
structure Ended {φ : Type} (s : Stream φ) : Prop where
  task : WriterOver s.task
  loop : s.phase = .done ∨ s.phase = .reading ∧ s.socket.shut = false

theorem Ended.closed {φ : Type} {s : Stream φ} (ended : Ended s) (shut : s.socket.shut = true) : Over s := by
  refine ⟨ended.loop.resolve_right fun waits => ?_, ended.task⟩
  simp [shut] at waits

/-! ### One end at rest -/

section Endpoint
variable {φ : Type} {e : Endpoint φ} {k : Nat} {s : Stream φ}

/-- A relay loop that never waits for room waits for its endpoint. -/
private theorem loop_at_rest (stuck : Stuck e) (room : e.frames.receiver = true → e.frames.queue.length ≠ frameCapacity)
    (found : e.streams[k]? = some s) (begun : s.phase ≠ .front) : s.phase = .done ∨ s.phase = .reading ∧ s.socket.shut = false := by
  have unsent (frame : Frame) (outgoing : s.outgoing = some frame) : False := by
    obtain ⟨accepting, full⟩ := stuck.send found outgoing
    exact room accepting full
  cases phase : s.phase with
  | front => exact absurd phase begun
  | reading => exact .inr ⟨rfl, (stuck.read found phase).2⟩
  | sending bytes => exact (unsent (.data s.id bytes) (by simp [Stream.outgoing, phase])).elim
  | closing => exact (unsent (.close s.id) (by simp [Stream.outgoing, phase])).elim
  | unregistering => exact absurd phase (stuck.unregister found)
  | done => exact .inl rfl

/-- The write task of a stream that is not registered ends, unless its socket takes no
writes. -/
private theorem task_at_rest {live : Prop} (stuck : Stuck e) (wired : Wired live e.registry e.routing e.streams)
    (found : e.streams[k]? = some s) (busy : Busy s) (unregistered : e.registry s.id ≠ some k) (free : ¬ Stalled s) :
    WriterOver s.task := by
  cases task : s.task with
  | absent => exact .inl rfl
  | ended => exact .inr (.inl rfl)
  | failed rest => exact .inr (.inr ⟨rest, rfl⟩)
  | writing rest =>
    have left : rest ≠ [] := by
      intro none
      exact busy (none ▸ task)
    exact absurd ⟨⟨rest, task⟩, stuck.write found task left⟩ free
  | waiting =>
    -- the only sender left would be that of a `route` call, which has room
    rcases stuck.finish found task with registered | routing
    · exact absurd registered unregistered
    · obtain ⟨_, there, -, full⟩ := stuck.route wired routing
      cases found.symm.trans there
      simp [stuck.recv found task] at full

/-- A write task that has written everything waits for no room. -/
private theorem unstalled {greeting whole : Bytes} {chunks : List Bytes} (inbound : Inbound greeting s) (busy : Busy s)
    (running : s.task ≠ .absent) (routed : s.inflow <+: chunks) (all : chunks.flatten <+: whole)
    (written : s.socket.written = greeting ++ whole) : ¬ Stalled s := by
  rintro ⟨⟨rest, task⟩, -⟩
  obtain ⟨relayed, split, taken⟩ := inbound.written running
  obtain rfl : relayed = whole := List.append_cancel_left (split.symm.trans written)
  have front : s.channel.taken.flatten <+: relayed :=
    (flatten_isPrefix ((s.channel.taken_isPrefix.trans inbound.inflow).trans routed)).trans all
  rw [← taken, task] at front
  have length := front.length_le
  simp only [WriteTask.rest, List.length_append] at length
  have none : rest = [] := List.eq_nil_of_length_eq_zero (by omega)
  exact busy (none ▸ task)

end Endpoint

/-! ### A tunnel at rest -/

section Tunnel
variable {capacity : Nat} {token : String} {resilient : Bool} {m : Mux}

/-- The CLOSE of a stream that has left its relay is dispatched at the other end. -/
private theorem close_downstream (run : (muxSystem capacity token resilient).Reachable m) (distinct : Distinct m.client.streams)
    (rest : AtRest capacity m) (free : ¬ ClientSuspended m) {u : Stream Opened} (there : u ∈ m.server.streams)
    (relayed : u.task ≠ .absent) (done : u.phase = .done) : .close u.id ∈ m.client.dispatched := by
  have server := ServerInvariant.server_valid (server_reach run)
  obtain ⟨k, found⟩ := List.getElem?_of_mem there
  obtain ⟨-, receiving, drained⟩ := download_empty run rest free
  have account := server.streams.sending (server.admitted.order.accepting rest.1.server.writer.2) u there relayed
  rw [Outbound, done] at account
  have closes : .close u.id ∈ ofId u.id m.server.frames.history := by
    rw [server.opens.attributed (server_nodup run distinct) k u found]
    simp only [held, List.map_nil, List.append_nil] at account
    simp [account, farewell]
  rw [client_all run rest free, server.admitted.order.all_put receiving drained]
  exact (List.mem_filter.mp closes).1

private theorem close_upstream (run : (muxSystem capacity token resilient).Reachable m) (distinct : Distinct m.client.streams)
    (rest : AtRest capacity m) (free : ¬ ServerSuspended m) {s : Stream Handler} (here : s ∈ m.client.streams)
    (relayed : s.task ≠ .absent) (done : s.phase = .done) : .close s.id ∈ m.server.dispatched := by
  have client := ClientInvariant.client_valid (client_reach run)
  obtain ⟨-, receiving, drained⟩ := upload_empty run rest free
  obtain ⟨sent, shape⟩ :=
    relayed_closes run distinct here done relayed (client.started.order.accepting rest.1.client.writer.2)
  have closes : .close s.id ∈ ofId s.id m.client.frames.history := by simp [shape]
  rw [server_all run rest free, client.started.order.all_put receiving drained]
  exact List.mem_cons_of_mem _ (List.mem_filter.mp closes).1

/-- A stream whose endpoint has shut, or whose other end has sent CLOSE, ends at the
client. -/
private theorem client_ends (run : (muxSystem capacity token resilient).Reachable m) (distinct : Distinct m.client.streams)
    (rest : AtRest capacity m) (free : ¬ ServerSuspended m) {s : Stream Handler} (here : s ∈ m.client.streams)
    (relayed : s.task ≠ .absent) (told : s.socket.shut = true ∨ .close s.id ∈ m.client.dispatched) (unstalled : ¬ Stalled s) :
    Ended s := by
  have client := ClientInvariant.client_valid (client_reach run)
  obtain ⟨k, found⟩ := List.getElem?_of_mem here
  obtain ⟨-, -, drained⟩ := upload_empty run rest free
  have stuck := rest.2.client_stuck
  have begun : s.phase ≠ .front := fun front => relayed ((client.streams.handled s here).inbound.front front)
  have loop := loop_at_rest stuck (fun _ => by simp [drained]) found begun
  have unregistered : m.client.registry s.id ≠ some k := by
    intro registered
    rcases told with shut | closed
    · have done : s.phase = .done := loop.resolve_right fun waits => by simp [shut] at waits
      exact (client_unreleased (client_reach run) k s found registered).1 done
    · exact unclosed_client run distinct s.id k registered closed
  exact ⟨task_at_rest stuck client.wired found (client_busy (client_reach run) s here).1 unregistered unstalled, loop⟩

private theorem server_ends (run : (muxSystem capacity token resilient).Reachable m) (distinct : Distinct m.client.streams)
    (rest : AtRest capacity m) (free : ¬ ClientSuspended m) {u : Stream Opened} (there : u ∈ m.server.streams)
    (relayed : u.task ≠ .absent) (told : u.socket.shut = true ∨ .close u.id ∈ m.server.dispatched) (unstalled : ¬ Stalled u) :
    Ended u := by
  have server := ServerInvariant.server_valid (server_reach run)
  obtain ⟨k, found⟩ := List.getElem?_of_mem there
  obtain ⟨-, -, drained⟩ := download_empty run rest free
  have stuck := rest.2.server_stuck
  have begun : u.phase ≠ .front := fun front => relayed ((server.streams.relayed u there).inbound.front front)
  have loop := loop_at_rest stuck (fun _ => by simp [drained]) found begun
  have unregistered : m.server.registry u.id ≠ some k := by
    intro registered
    rcases told with shut | closed
    · have done : u.phase = .done := loop.resolve_right fun waits => by simp [shut] at waits
      exact server_unfinished (server_reach run) rest.1.server.reader.2.2 k u found registered done
    · exact unclosed run distinct u.id k registered closed
  exact ⟨task_at_rest stuck server.routes.wired found (server_busy run u there) unregistered unstalled, loop⟩

private theorem Closed.unstalled {φ : Type} {s : Stream φ} (closed : Closed s.socket) : ¬ Stalled s := by
  rintro ⟨-, blocked⟩
  simp [closed.2] at blocked

/-- The end of the upstream reaches the client. -/
private theorem upstream_closed (run : (muxSystem capacity token resilient).Reachable m) (distinct : Distinct m.client.streams)
    (rest : AtRest capacity m) (clientFree : ¬ ClientSuspended m) (serverFree : ¬ ServerSuspended m) {s : Stream Handler}
    {u : Stream Opened} (here : s ∈ m.client.streams) (there : u ∈ m.server.streams) (same : s.id = u.id)
    (relayed : s.task ≠ .absent) (closed : Closed u.socket)
    (written : s.socket.written = successReply s.front.tunnel ++ sent u.socket) : Over u ∧ Ended s := by
  have client := ClientInvariant.client_valid (client_reach run)
  have relayed' := twin_relays run distinct here there same relayed
  have gone : Over u := (server_ends run distinct rest clientFree there relayed' (.inl closed.1) closed.unstalled).closed closed.1
  have told := close_downstream run distinct rest clientFree there relayed' gone.1
  refine ⟨gone, client_ends run distinct rest serverFree here relayed (.inr (same ▸ told)) ?_⟩
  rw [← greeting_successReply] at written
  exact unstalled (client.streams.handled s here).inbound (client_busy (client_reach run) s here).1 relayed
    (routed_downstream run distinct here there same) (List.prefix_append _ _) written

/-- The end of the local application reaches the server. -/
private theorem local_closed (run : (muxSystem capacity token resilient).Reachable m) (distinct : Distinct m.client.streams)
    (rest : AtRest capacity m) (clientFree : ¬ ClientSuspended m) (serverFree : ¬ ServerSuspended m) {s : Stream Handler}
    {u : Stream Opened} (here : s ∈ m.client.streams) (there : u ∈ m.server.streams) (same : s.id = u.id)
    (relayed : s.task ≠ .absent) (closed : Closed s.socket)
    (written : u.socket.written = forwarded s.front.tunnel ++ sent s.socket) : Over s ∧ Ended u := by
  have server := ServerInvariant.server_valid (server_reach run)
  have relayed' := twin_relays run distinct here there same relayed
  have gone : Over s := (client_ends run distinct rest serverFree here relayed (.inl closed.1) closed.unstalled).closed closed.1
  have told := close_upstream run distinct rest serverFree here relayed gone.1
  have front : (prelude s.front ++ s.socket.chunks).flatten <+: forwarded s.front.tunnel ++ sent s.socket := by
    rw [List.flatten_append, prelude_forwarded, sent, ← List.append_assoc]
    exact List.prefix_append _ _
  exact ⟨gone, server_ends run distinct rest clientFree there relayed' (.inr (same ▸ told))
    (unstalled (server.streams.relayed u there).inbound (server_busy run u there) relayed'
      (routed_upstream run distinct here there same) front written)⟩

end Tunnel

/-! ### A connection torn down -/

/-- The client's own steps, whatever the WebSocket brings. -/
def isOwn (action : ClientAction) : Prop := action.isInternal = true ∧ action.consumes = []

section Torn
variable {token : String} {resilient : Bool} {allowed : ClientAction → Prop} {c : Client}

/-- Handlers are accepted after the writer loop has started. -/
private theorem unspawned_idle (run : (clientSystem token resilient).Reach allowed c) (unspawned : c.writer = .unspawned) :
    c.streams = [] := by
  refine run.invariant (p := fun c => c.writer = .unspawned → c.streams = []) ?_ ?_ unspawned
  · rintro c rfl -
    rfl
  · intro before action after prior valid _ taken unspawned
    have spawned := (ClientInvariant.client_valid prior).spawned
    cases client_effect taken with
    | accept attached => exact absurd unspawned (spawned.attached attached).2
    | connect | writerExit | writerStop => cases unspawned
    | endpoint effect =>
      cases effect with
      | pop | put | putFail => cases unspawned
      | stream found | sent found | unsent found | unregister found | finish found => simp [valid unspawned] at found
      | route _ found => simp [valid unspawned] at found
    | register found | insertAck found | sent found | unsent found | ackLost found | leave found | handler found =>
      simp [valid unspawned] at found
    | acked _ _ _ _ found | routing _ _ _ _ found => simp [valid unspawned] at found
    | _ => exact valid unspawned

/-- A writer loop on its own makes room until it ends. -/
private theorem client_room (run : (clientSystem token resilient).Reach allowed c)
    (quiet : (clientSystem token resilient).Quiescent isOwn c) (stuck : Stuck c.toEndpoint) (some : c.streams ≠ []) :
    c.frames.receiver = true → c.frames.queue.length ≠ frameCapacity := by
  intro accepting
  cases writer : c.writer with
  | unspawned => exact absurd (unspawned_idle run writer) some
  | receiving => simp [stuck.pop writer]
  | sending frame =>
    have blocked := quiet (.endpoint .put) ⟨rfl, rfl⟩
    simp [clientSystem, Client.step, Endpoint.step, writer] at blocked
  | stopping =>
    have blocked := quiet .writerStop ⟨rfl, rfl⟩
    simp [clientSystem, Client.step, Endpoint.writerStop, writer] at blocked
  | ended =>
    have gone := (ClientInvariant.client_valid run).started.order.1.mpr writer
    simp [accepting] at gone

private theorem own_stuck (quiet : (clientSystem token resilient).Quiescent isOwn c) : Stuck c.toEndpoint := by
  intro action kind _
  have blocked := quiet (.endpoint action) ⟨kind, rfl⟩
  simpa [clientSystem, Client.step] using blocked

/-- On a connection that was torn down every stream whose socket takes writes ends. -/
private theorem torn_ends (run : ((clientSystem token resilient).when timely).Reachable c) (dead : Dead c)
    (quiet : (clientSystem token resilient).Quiescent isOwn c) {s : Stream Handler} (here : s ∈ c.streams)
    (writable : s.socket.writable = true) : Ended s := by
  have plain := run.unguarded
  have client := ClientInvariant.client_valid plain
  obtain ⟨k, found⟩ := List.getElem?_of_mem here
  obtain ⟨busy, replying⟩ := client_busy plain s here
  have stuck := own_stuck quiet
  have room := client_room plain quiet stuck (List.ne_nil_of_mem here)
  have begun : s.phase ≠ .front := by
    intro front
    have blocked (action : HandlerAction) (kind : action.isInternal = true) : c.handlerStep k s action = none := by
      simpa [clientSystem, Client.step, found] using quiet (.handler k action) ⟨kind, rfl⟩
    rcases handler_waits blocked found front writable replying with ⟨-, accepting, full⟩ | ⟨-, -, pending⟩
    · exact room accepting full
    · simp [dead_cleared run dead] at pending
  refine ⟨?_, loop_at_rest stuck room found begun⟩
  by_cases absent : s.task = .absent
  · exact .inl absent
  · apply task_at_rest stuck client.wired found busy
    · intro registered
      have gone : Disconnected c := dead.imp_left .inr
      have none := torn_unanswered run gone k s found registered
      simp [(client.streams.handled s here).granted absent] at none
    · rintro ⟨-, blocked⟩
      simp [writable] at blocked

end Torn

/-! ### `relay_tcp` -/

/-- What a task has read it has written or has in hand. -/
def Carried (pump : Pump) (source target : Socket) : Prop :=
  match pump with
  | .reading => target.written = source.chunks.flatten
  | .writing rest => rest ≠ [] ∧ target.written ++ rest = source.chunks.flatten
  | .ended => True

private theorem carried_writeAll {source target : Socket} {bytes : Bytes}
    (whole : target.written ++ bytes = source.chunks.flatten) : Carried (.writeAll bytes) source target := by
  unfold Pump.writeAll
  split
  · next none => simpa [Carried, none] using whole
  · next some => exact ⟨some, whole⟩

/-- A step of a task keeps its account and leaves that of the other direction alone. -/
theorem pump_carried {pump pump' : Pump} {source target source' target' : Socket} {move : PumpMove}
    (taken : pump.step source target move = some (pump', source', target')) (valid : Carried pump source target) :
    Carried pump' source' target' ∧ source'.written = source.written ∧ target'.chunks = target.chunks := by
  unfold Pump.step at taken
  split at taken
  · split at taken
    · cases taken
      refine ⟨carried_writeAll ?_, rfl, rfl⟩
      simpa [Carried] using valid
    · cases taken
  · split at taken
    · cases taken
      exact ⟨trivial, rfl, rfl⟩
    · cases taken
  · cases taken
    exact ⟨trivial, rfl, rfl⟩
  · split at taken
    · cases taken
      refine ⟨carried_writeAll ?_, rfl, rfl⟩
      simpa using valid.2
    · cases taken
  · cases taken
    exact ⟨trivial, rfl, rfl⟩
  · cases taken

private theorem Carried.frame {pump : Pump} {source target source' target' : Socket} (valid : Carried pump source target)
    (chunks : source'.chunks = source.chunks) (written : target'.written = target.written) : Carried pump source' target' := by
  unfold Carried at valid ⊢
  rw [chunks, written]
  exact valid

theorem peer_same {socket socket' : Socket} {move : PeerMove} (taken : socket.peer move = some socket') :
    socket'.chunks = socket.chunks ∧ socket'.written = socket.written := by
  cases move with
  | arrive bytes =>
    simp only [Socket.peer] at taken
    split at taken
    · cases taken
    · cases taken
      exact ⟨rfl, rfl⟩
  | shut | setWritable => cases taken; exact ⟨rfl, rfl⟩

theorem relay_carried {r : RelayTcp} (run : relayTcpSystem.Reachable r) : Carried r.aToB r.a r.b ∧ Carried r.bToA r.b r.a := by
  refine run.invariant (p := fun r => Carried r.aToB r.a r.b ∧ Carried r.bToA r.b r.a) ?_ ?_
  · rintro r ⟨⟨aToB, bToA⟩, ⟨aChunks, aWritten⟩, bChunks, bWritten⟩
    simp [Carried, aToB, bToA, aChunks, aWritten, bChunks, bWritten]
  · intro before action after _ valid _ taken
    cases action with
    | a move =>
      obtain ⟨socket, moved, rfl⟩ := Option.map_eq_some_iff.mp taken
      obtain ⟨chunks, written⟩ := peer_same moved
      exact ⟨valid.1.frame chunks rfl, valid.2.frame rfl written⟩
    | b move =>
      obtain ⟨socket, moved, rfl⟩ := Option.map_eq_some_iff.mp taken
      obtain ⟨chunks, written⟩ := peer_same moved
      exact ⟨valid.1.frame rfl written, valid.2.frame chunks rfl⟩
    | aToB move =>
      obtain ⟨⟨pump, source, target⟩, moved, rfl⟩ := Option.map_eq_some_iff.mp taken
      obtain ⟨carried, written, chunks⟩ := pump_carried moved valid.1
      exact ⟨carried, valid.2.frame chunks written⟩
    | bToA move =>
      obtain ⟨⟨pump, source, target⟩, moved, rfl⟩ := Option.map_eq_some_iff.mp taken
      obtain ⟨carried, written, chunks⟩ := pump_carried moved valid.2
      exact ⟨valid.1.frame chunks written, carried⟩

/-- A task at rest whose source has closed has ended, unless its target takes no writes. -/
private theorem pump_ends {pump : Pump} {source target : Socket}
    (blocked : ∀ move : PumpMove, move.isInternal = true → pump.step source target move = none) (valid : Carried pump source target)
    (shut : source.shut = true) (done : target.writable = true ∨ target.written = sent source) : pump = .ended := by
  cases pump with
  | ended => rfl
  | reading =>
    have drained : source.incoming = [] := by
      by_contra some
      have disabled := blocked (.read 1) rfl
      simp [Pump.step, bufferSize] at disabled
      exact some disabled
    have disabled := blocked .readEnd rfl
    simp [Pump.step, drained, shut] at disabled
  | writing rest =>
    obtain ⟨left, whole⟩ := valid
    rcases done with writable | written
    · have disabled := blocked (.write 1) rfl
      simp [Pump.step, writable] at disabled
      exact absurd disabled left
    · rw [written, sent, List.append_assoc] at whole
      have length := congrArg List.length whole
      simp only [List.length_append] at length
      exact absurd (List.eq_nil_of_length_eq_zero (by omega)) left

private theorem relay_ends {r : RelayTcp} (run : relayTcpSystem.Reachable r)
    (quiet : relayTcpSystem.Quiescent (fun action => action.isInternal = true) r) :
    (r.a.shut = true → r.b.writable = true ∨ r.b.written = sent r.a → r.aToB = .ended) ∧
      (r.b.shut = true → r.a.writable = true ∨ r.a.written = sent r.b → r.bToA = .ended) := by
  obtain ⟨up, down⟩ := relay_carried run
  constructor
  · intro shut done
    apply pump_ends (fun move kind => ?_) up shut done
    simpa [relayTcpSystem, RelayTcp.step] using quiet (.aToB move) kind
  · intro shut done
    apply pump_ends (fun move kind => ?_) down shut done
    simpa [relayTcpSystem, RelayTcp.step] using quiet (.bToA move) kind

/-! ### The end of one endpoint -/

/-- In a tunnel at rest the end of one endpoint, once everything it sent is written,
ends both tasks at its own end and all at the other but a relay loop whose endpoint has
not closed. On a connection that was torn down every stream ends in this way, and in
`relay_tcp` the task that reads an endpoint ends with it. -/
theorem end_propagates (capacity : Nat) (token : String) (resilient : Bool) :
    (∀ m, (muxSystem capacity token resilient).Reachable m → Distinct m.client.streams → AtRest capacity m →
      ¬ ClientSuspended m → ¬ ServerSuspended m → ∀ s ∈ m.client.streams, ∀ u ∈ m.server.streams, s.id = u.id → s.task ≠ .absent →
        (Closed u.socket → s.socket.written = successReply s.front.tunnel ++ sent u.socket → Over u ∧ Ended s) ∧
          (Closed s.socket → u.socket.written = forwarded s.front.tunnel ++ sent s.socket → Over s ∧ Ended u)) ∧
    (∀ c, ((clientSystem token resilient).when timely).Reachable c → Dead c → (clientSystem token resilient).Quiescent isOwn c →
      ∀ s ∈ c.streams, s.socket.writable = true → Ended s) ∧
    ∀ r, relayTcpSystem.Reachable r → relayTcpSystem.Quiescent (fun action => action.isInternal = true) r →
      (Closed r.a → r.b.written = sent r.a → r.aToB = .ended) ∧ (Closed r.b → r.a.written = sent r.b → r.bToA = .ended) ∧
        (Closed r.a → Closed r.b → r.isOver = true) := by
  refine ⟨?_, ?_, ?_⟩
  · intro m run distinct rest clientFree serverFree s here u there same relayed
    exact ⟨upstream_closed run distinct rest clientFree serverFree here there same relayed,
      local_closed run distinct rest clientFree serverFree here there same relayed⟩
  · intro c run dead quiet s here writable
    exact torn_ends run dead quiet here writable
  · intro r run quiet
    obtain ⟨up, down⟩ := relay_ends run quiet
    refine ⟨fun closed written => up closed.1 (.inr written), fun closed written => down closed.1 (.inr written), ?_⟩
    intro closed closed'
    simp [RelayTcp.isOver, up closed.1 (.inl closed'.2), down closed'.1 (.inl closed.2)]

/-- The upstream answers one byte and closes; all of it arrives. -/
private def upstreamLeaves : List MuxAction :=
  oneTunnel.take 17 ++ [.server (.endpoint (.stream 0 (.arrive [9])))] ++ serverReads 0 ++ serverWrites ++
    [.client (.incoming (Frame.data 1 [9]).message), .client (.endpoint .route), .client (.endpoint (.stream 0 .recv)),
      .client (.endpoint (.stream 0 (.write 1))),
      .server (.endpoint (.stream 0 .shut)), .server (.endpoint (.stream 0 .readEnd)), .server (.endpoint (.send 0))] ++ serverWrites ++
    [.server (.endpoint (.unregister 0)), .server (.endpoint (.finish 0)), .client (.incoming (Frame.close 1).message),
      .client (.endpoint (.finish 0))]

private def localLeaves : List MuxAction :=
  [.client (.endpoint (.stream 0 .shut)), .client (.endpoint (.stream 0 .readEnd)), .client (.endpoint (.send 0))] ++ clientWrites ++
    [.client (.endpoint (.unregister 0)), .client (.endpoint (.finish 0))]

/-- The connection has one tunnel, and both readers wait for the WebSocket. -/
private def idlesWith (test : Stream Handler → Stream Opened → Bool) (m : Mux) : Bool :=
  decide (m.client.routing = none ∧ m.server.reader = .running ∧ m.server.routing = none) &&
    match m.client.streams, m.server.streams with
    | [s], [u] => decide (s.id = u.id) && test s u
    | _, _ => false

private theorem rests (actions : List MuxAction) (test : Stream Handler → Stream Opened → Bool)
    (executed : ((muxSystem 1 "t" true).exec ⟨Client.fresh "t" true, Server.fresh, [], []⟩ actions).any
      (fun m => isResting 1 m && idlesWith test m) = true) :
    ∃ m, (muxSystem 1 "t" true).Reachable m ∧ Distinct m.client.streams ∧ AtRest 1 m ∧ ¬ ClientSuspended m ∧ ¬ ServerSuspended m ∧
      ∃ s ∈ m.client.streams, ∃ u ∈ m.server.streams, s.id = u.id ∧ test s u = true := by
  obtain ⟨m, run, up, quiet, view⟩ := resting_reached executed
  simp only [idlesWith, Bool.and_eq_true, decide_eq_true_eq] at view
  obtain ⟨⟨clientIdle, serverReader, serverIdle⟩, shape⟩ := view
  split at shape
  · next s u streams opened =>
    simp only [Bool.and_eq_true, decide_eq_true_eq] at shape
    refine ⟨m, run, by simp [Distinct, streams], ⟨up, quiet⟩, ?_, ?_, s, by simp [streams], u, by simp [opened], shape⟩
    · rintro ⟨k, s, routing, -⟩
      simp [clientIdle] at routing
    · rintro (⟨id, dest, connecting⟩ | ⟨⟨id, refusing⟩ | ⟨k, acking⟩, -⟩ | ⟨k, u, routing, -⟩)
      · simp [serverReader] at connecting
      · simp [serverReader] at refusing
      · simp [serverReader] at acking
      · simp [serverIdle] at routing
  · cases shape

/-- The local application leaves, and the connect of a second stream does not complete. -/
private def leavesUnread : List MuxAction :=
  oneTunnel.take 17 ++ openStream 1 2 (.socksViaMuxWithTimeout "1.1.1.1:80") ++ localLeaves

private theorem upstream_leaves_waiting : ∃ m, (muxSystem 1 "t" true).Reachable m ∧ Distinct m.client.streams ∧ AtRest 1 m ∧
    ¬ ClientSuspended m ∧ ¬ ServerSuspended m ∧ ∃ s ∈ m.client.streams, ∃ u ∈ m.server.streams, s.id = u.id ∧ Closed u.socket ∧
      s.socket.written = successReply s.front.tunnel ++ sent u.socket ∧ ¬ Over s := by
  obtain ⟨m, run, distinct, rest, clientFree, serverFree, s, here, u, there, same, view⟩ := rests upstreamLeaves
    (fun s u => decide (s.phase = .reading ∧ (u.socket.shut = true ∧ u.socket.writable = true) ∧
      s.socket.written = successReply s.front.tunnel ++ sent u.socket)) (by decide +kernel)
  obtain ⟨reading, closed, written⟩ := of_decide_eq_true view
  refine ⟨m, run, distinct, rest, clientFree, serverFree, s, here, u, there, same, closed, written, ?_⟩
  rintro ⟨done, -⟩
  simp [reading] at done

/-- The server has only the first of the two streams, and its write task waits for more. -/
private def leftUnread (m : Mux) : Bool :=
  match m.client.streams, m.server.streams with
  | [s, t], [u] => decide (s.id ≠ t.id ∧ s.id = u.id ∧ (s.socket.shut = true ∧ s.socket.writable = true) ∧
      u.socket.written = forwarded s.front.tunnel ++ sent s.socket ∧ u.task = .waiting)
  | _, _ => false

private theorem local_leaves_unread : ∃ m, (muxSystem 1 "t" true).Reachable m ∧ Distinct m.client.streams ∧ AtRest 1 m ∧
    ∃ s ∈ m.client.streams, ∃ u ∈ m.server.streams, s.id = u.id ∧ Closed s.socket ∧
      u.socket.written = forwarded s.front.tunnel ++ sent s.socket ∧ ¬ WriterOver u.task := by
  have executed : ((muxSystem 1 "t" true).exec ⟨Client.fresh "t" true, Server.fresh, [], []⟩ leavesUnread).any (fun m =>
      isResting 1 m && leftUnread m) = true := by decide +kernel
  obtain ⟨m, run, up, quiet, shape⟩ := resting_reached executed
  unfold leftUnread at shape
  split at shape
  · next s t u streams opened =>
    obtain ⟨different, same, closed, written, waiting⟩ := of_decide_eq_true shape
    refine ⟨m, run, by simpa [Distinct, streams] using different, ⟨up, quiet⟩, s, by simp [streams], u, by simp [opened], same,
      closed, written, ?_⟩
    simp [WriterOver, waiting]
  · cases shape

/-- The relay loop at the client outlives the end of the upstream, and the write task at
the server that of the local application while its CLOSE waits behind a connect. -/
theorem relays_outlive : (∃ m, (muxSystem 1 "t" true).Reachable m ∧ Distinct m.client.streams ∧ AtRest 1 m ∧
      ¬ ClientSuspended m ∧ ¬ ServerSuspended m ∧ ∃ s ∈ m.client.streams, ∃ u ∈ m.server.streams, s.id = u.id ∧ Closed u.socket ∧
        s.socket.written = successReply s.front.tunnel ++ sent u.socket ∧ ¬ Over s) ∧
    ∃ m, (muxSystem 1 "t" true).Reachable m ∧ Distinct m.client.streams ∧ AtRest 1 m ∧
      ∃ s ∈ m.client.streams, ∃ u ∈ m.server.streams, s.id = u.id ∧ Closed s.socket ∧
        u.socket.written = forwarded s.front.tunnel ++ sent s.socket ∧ ¬ WriterOver u.task :=
  ⟨upstream_leaves_waiting, local_leaves_unread⟩

private theorem own_of_trials {c : Client} {token : String} {resilient : Bool}
    (disabled : (clientTrials ⟨c, Server.fresh, [], []⟩).all
      (fun trial => (Mux.step 1 ⟨c, Server.fresh, [], []⟩ (.client trial)).isNone) = true) :
    (clientSystem token resilient).Quiescent isOwn c := by
  rintro action ⟨kind, consumes⟩
  have blocked : Mux.step 1 ⟨c, Server.fresh, [], []⟩ (.client action) = none := by
    apply client_covers kind
    intro trial member
    simpa using List.all_eq_true.mp disabled trial member
  have fits : ∃ wire, Mux.transmit 1 [] (c.emits action) = some wire := by
    cases action with
    | endpoint move =>
      cases move with
      | put => simp only [Client.emits, Endpoint.emits]; split <;> exact ⟨_, rfl⟩
      | _ => exact ⟨_, rfl⟩
    | connect => cases kind
    | _ => exact ⟨_, rfl⟩
  obtain ⟨wire, fits⟩ := fits
  change c.step action = none
  simpa [Mux.step, consumes, Mux.deliver, fits] using blocked

/-- A relay on a connection that breaks, and the local application leaves. -/
private def brokenTunnel : List ClientAction :=
  [.connect, .accept 1 (.socksViaMuxWithTimeout "1.1.1.1:80"), .handler 0 .register, .handler 0 .insertAck, .handler 0 .send,
    .endpoint .pop, .endpoint .put, .incoming (Frame.openAck 1 true).message, .handler 0 (.stream .acked),
    .handler 0 (.stream (.greet 10)), .incoming .other, .readerCloseAll, .readerClear, .endpoint (.stream 0 .shut),
    .endpoint (.finish 0), .endpoint (.stream 0 .readEnd), .endpoint (.send 0), .endpoint .pop, .endpoint .put,
    .endpoint (.unregister 0)]

/-- Both endpoints of a tunnel leave, the application of a broken one and both ends of a
direct relay. -/
theorem both_leave : (∃ m : Mux, ∃ s ∈ m.client.streams, ∃ u ∈ m.server.streams, Over s ∧ Over u) ∧
    (∃ c : Client, c.reader = .ended ∧ ∃ s ∈ c.streams, Over s) ∧ ∃ r : RelayTcp, r.a.chunks = [[7]] ∧ r.isOver = true := by
  refine ⟨?_, ?_, ?_⟩
  · obtain ⟨m, run, distinct, rest, clientFree, serverFree, s, here, u, there, same, view⟩ := rests
      (upstreamLeaves ++ localLeaves.dropLast ++ [.server (.incoming (Frame.close 1).message)])
      (fun s u => decide (s.task ≠ .absent ∧ s.socket.shut = true ∧ (u.socket.shut = true ∧ u.socket.writable = true) ∧
        s.socket.written = successReply s.front.tunnel ++ sent u.socket)) (by decide +kernel)
    obtain ⟨relayed, shut, closed, written⟩ := of_decide_eq_true view
    obtain ⟨gone, ended⟩ :=
      ((end_propagates 1 "t" true).1 m run distinct rest clientFree serverFree s here u there same relayed).1 closed written
    exact ⟨m, s, here, u, there, ended.closed shut, gone⟩
  · have executed : (((clientSystem "t" false).when timely).exec (Client.fresh "t" false) brokenTunnel).any (fun c =>
        (clientTrials ⟨c, Server.fresh, [], []⟩).all
          (fun trial => (Mux.step 1 ⟨c, Server.fresh, [], []⟩ (.client trial)).isNone) &&
        decide (c.reader = .ended ∧ c.streams.map (fun s => (s.socket.shut, s.socket.writable)) = [(true, true)])) = true := by
      decide +kernel
    obtain ⟨c, run, view⟩ := Transition.System.reached executed rfl
    obtain ⟨quiet, view⟩ := Bool.and_eq_true_iff.mp view
    obtain ⟨ended, sockets⟩ := of_decide_eq_true view
    obtain ⟨s, streams, shape⟩ := List.map_eq_singleton_iff.mp sockets
    obtain ⟨shut, writable⟩ := Prod.mk.inj shape
    have here : s ∈ c.streams := by simp [streams]
    exact ⟨c, ended, s, here,
      ((end_propagates 1 "t" false).2.1 c run (.inl ended) (own_of_trials quiet) s here writable).closed shut⟩
  · have executed : (relayTcpSystem.exec ⟨.fresh, .fresh, .reading, .reading⟩ [.a (.arrive [7]), .aToB (.read 1), .aToB (.write 1),
        .a .shut, .b .shut, .aToB .readEnd, .bToA .readEnd]).any (fun r =>
          decide (r.a.chunks = [[7]] ∧ (r.aToB = .ended ∧ r.bToA = .ended) ∧ (r.a.shut = true ∧ r.a.writable = true) ∧
            r.b.shut = true ∧ r.b.writable = true)) = true := by decide +kernel
    obtain ⟨r, run, view⟩ := Transition.System.reached executed ⟨⟨rfl, rfl⟩, ⟨rfl, rfl⟩, rfl, rfl⟩
    obtain ⟨chunks, ⟨up, down⟩, closed, closed'⟩ := of_decide_eq_true view
    have quiet : relayTcpSystem.Quiescent (fun action => action.isInternal = true) r := by
      intro action kind
      cases action with
      | a | b => cases kind
      | aToB move => simp [relayTcpSystem, RelayTcp.step, up, Pump.step]
      | bToA move => simp [relayTcpSystem, RelayTcp.step, down, Pump.step]
    exact ⟨r, chunks, ((end_propagates 1 "t" true).2.2 r run quiet).2.2 closed closed'⟩

end EchoProxy.Proofs.StreamEnd
