import EchoProxy.Proofs.Quiescence

/-! Deadlock freedom under bounded buffers, and the one way it fails: the client's
reader waits for room in the queue of a stream whose handler has not started its
write task, and the handler waits for room on the frame channel. -/

namespace EchoProxy.Proofs.Deadlock
open EchoProxy StreamFlow HandlerFlow EndpointSteps EndpointAccounts ClientSteps ServerSteps FrameSequences MuxInvariant Places
  Integrity Protocol Progress Quiescence

/-! ### Answers owed -/

section Owed
variable {capacity : Nat} {token : String} {resilient : Bool} {allowed : MuxAction → Prop} {m : Mux}

theorem ackIds_isPrefix {xs ys : List Frame} (front : xs <+: ys) : ackIds xs <+: ackIds ys := front.filterMap _

private theorem openIds_hello (token : String) (frames : List Frame) : openIds (.hello token :: frames) = openIds frames := rfl

/-- An OPEN_ACK the client has taken answers an OPEN it sent, in order. -/
theorem acks_answer (run : (muxSystem capacity token resilient).Reach allowed m) :
    ackIds m.client.dispatched <+: openIds m.client.frames.history := by
  have client := ClientInvariant.client_valid (client_reach run)
  have server := ServerInvariant.server_valid (server_reach run)
  obtain ⟨upload, download, joined⟩ := wires run
  have taken : m.client.dispatched <+: m.server.frames.history :=
    (joined.answered ▸ List.prefix_append _ _).trans server.admitted.order.put_isPrefix
  have sent : m.server.dispatched <+: .hello token :: m.client.frames.history :=
    (joined.sent ▸ List.prefix_append _ _).trans client.started.order.put_isPrefix
  have opened := openIds_isPrefix sent
  rw [openIds_hello] at opened
  exact ((ackIds_isPrefix taken).trans server.answers.some).trans opened

/-- A handler whose OPEN_ACK sender is still pending has an answer to come. -/
def Owed (c : Client) : Prop :=
  ∀ (k : Nat) (s : Stream Handler), c.streams[k]? = some s → s.phase = .front → s.front.stage = .awaiting →
    c.pendingAcks s.id = some k → (ackIds c.dispatched).count s.id < (openIds c.frames.history).count s.id

/-- A step of one stream that neither brings it to wait for its answer nor takes an
answer. -/
private theorem owed_set {c c' : Client} {j : Nat} {t t' : Stream Handler} (valid : Owed c) (found : c.streams[j]? = some t)
    (streams : c'.streams = c.streams.set j t')
    (waiting : t'.phase = .front → t'.front.stage = .awaiting → t'.id = t.id ∧ t.phase = .front ∧ t.front.stage = .awaiting)
    (pending : ∀ id k, c'.pendingAcks id = some k → c.pendingAcks id = some k ∨ k = j ∧ t'.front.stage ≠ .awaiting)
    (dispatched : ∀ id k, c'.pendingAcks id = some k → (ackIds c'.dispatched).count id = (ackIds c.dispatched).count id)
    (history : ∀ id, (openIds c.frames.history).count id ≤ (openIds c'.frames.history).count id) : Owed c' := by
  intro k s there front stage waits
  rw [dispatched _ _ waits]
  rw [streams] at there
  rcases pending _ _ waits with waits | ⟨rfl, moved⟩
  · rcases set_cases there with ⟨rfl, rfl⟩ | ⟨-, there⟩
    · obtain ⟨id, front, stage⟩ := waiting front stage
      rw [id] at waits ⊢
      exact (valid _ t found front stage waits).trans_le (history _)
    · exact (valid k s there front stage waits).trans_le (history _)
  · rcases set_cases there with ⟨-, rfl⟩ | ⟨different, -⟩
    · exact absurd stage moved
    · exact absurd rfl different

private theorem owed_frame {c c' : Client} (valid : Owed c) (streams : c'.streams = c.streams)
    (pending : ∀ id k, c'.pendingAcks id = some k → c.pendingAcks id = some k)
    (dispatched : ∀ id k, c'.pendingAcks id = some k → (ackIds c'.dispatched).count id = (ackIds c.dispatched).count id)
    (history : c'.frames.history = c.frames.history) : Owed c' := by
  intro k s there front stage waits
  rw [dispatched _ _ waits, history]
  rw [streams] at there
  exact valid k s there front stage (pending _ _ waits)

/-- Only OPEN brings a handler to wait for its answer. -/
private theorem awaiting_opened {s s' : Stream Handler} {move} (effect : HandlerEffect s move s') (opened : move ≠ .opened)
    (ack : ∀ ok, move ≠ .ack ok) (front : s'.phase = .front) : s'.front.stage ≠ .awaiting := by
  cases effect with
  | opened => exact absurd rfl opened
  | @ack ok => exact absurd rfl (ack ok)
  | granted _ _ _ next => rcases next with ⟨-, rfl⟩ | ⟨-, rfl⟩ <;> simp [Stream.setStage]
  | greeted | forwarded | leftSilently | replied | replyError => cases front
  | _ => simp [Stream.setStage]

private theorem owed_shared {c c' : Client} {j : Nat} {t t' : Stream Handler} {move} (valid : Owed c) (found : c.streams[j]? = some t)
    (stepped : Effect t move t') (streams : c'.streams = c.streams.set j t') (pending : c'.pendingAcks = c.pendingAcks)
    (dispatched : ackIds c'.dispatched = ackIds c.dispatched) (history : c.frames.history <+: c'.frames.history) : Owed c' := by
  apply owed_set valid found streams
  · intro front stage
    rw [stepped.stays] at front
    rw [stepped.same.2] at stage
    exact ⟨stepped.same.1, front, stage⟩
  · intro id k waits
    rw [pending] at waits
    exact .inl waits
  · intro id k _
    rw [dispatched]
  · intro id
    exact (openIds_isPrefix history).sublist.count_le id

private theorem owed_handler {c c' : Client} {j : Nat} {t t' : Stream Handler} {move} (valid : Owed c) (found : c.streams[j]? = some t)
    (stepped : HandlerEffect t move t') (opened : move ≠ .opened) (ack : ∀ ok, move ≠ .ack ok)
    (streams : c'.streams = c.streams.set j t') (pending : c'.pendingAcks = c.pendingAcks) (dispatched : c'.dispatched = c.dispatched)
    (history : c.frames.history <+: c'.frames.history) : Owed c' := by
  apply owed_set valid found streams
  · intro front stage
    exact absurd stage (awaiting_opened stepped opened ack front)
  · intro id k waits
    rw [pending] at waits
    exact .inl waits
  · intro id k _
    rw [dispatched]
  · intro id
    exact (openIds_isPrefix history).sublist.count_le id

theorem owed_step {c c' : Client} {action} (effect : ClientEffect c action c')
    (answered : ackIds c.dispatched <+: openIds c.frames.history) (valid : Owed c) : Owed c' := by
  cases effect with
  | endpoint effect =>
    cases effect with
    | pop _ takes => exact owed_frame valid rfl (fun _ _ waits => waits) (fun _ _ _ => rfl) takes.history
    | put | putFail => exact valid
    | sent found _ accepts stepped =>
      refine owed_shared valid found stepped rfl rfl rfl ?_
      rw [accepts.history]
      exact List.prefix_append _ _
    | stream found _ stepped | unsent found _ _ stepped | unregister found stepped | finish found _ stepped
    | route _ found stepped => exact owed_shared valid found stepped rfl rfl rfl (List.prefix_refl _)
  | accept =>
    intro k s there front stage waits
    rcases append_cases there with ⟨-, rfl⟩ | there
    · cases stage
    · exact valid k s there front stage waits
  | register found stepped | ackLost found _ stepped | leave found stepped =>
    exact owed_handler valid found stepped (by simp) (by simp) rfl rfl rfl (List.prefix_refl _)
  | unsent found _ _ which stepped =>
    rcases which with rfl | rfl <;> exact owed_handler valid found stepped (by simp) (by simp) rfl rfl rfl (List.prefix_refl _)
  | handler found isLocal stepped =>
    exact owed_handler valid found stepped (handlerLocal_ne isLocal rfl) (fun _ => handlerLocal_ne isLocal rfl) rfl rfl rfl
      (List.prefix_refl _)
  | @insertAck j t t' found stepped =>
    have moved : t'.phase = .front → t'.front.stage ≠ .awaiting := awaiting_opened stepped (by simp) (by simp)
    refine owed_set valid found rfl (fun front stage => absurd stage (moved front)) (fun id k waits => ?_) (fun _ _ _ => rfl)
      fun _ => le_rfl
    simp only [Function.update_apply] at waits
    split at waits
    · cases waits
      refine .inr ⟨rfl, ?_⟩
      cases stepped with
      | inserted => simp [Stream.setStage]
      | refused _ _ _ which => simp at which
    · exact .inl waits
  | @sent j frame frames t t' move found request accepts which stepped =>
    rcases which with rfl | rfl
    · intro k s there front stage waits
      simp only [accepts.history, openIds_append, List.count_append]
      rcases set_cases there with ⟨rfl, rfl⟩ | ⟨-, there⟩
      · cases stepped with
        | opened front' stage' =>
          simp only [Stream.request, front', stage', Option.some.injEq] at request
          subst request
          have before := answered.sublist.count_le t.id
          simpa [openIds, Stream.setStage] using Nat.lt_succ_of_le before
        | refused _ _ _ which => simp at which
      · exact Nat.lt_add_right _ (valid k s there front stage waits)
    · refine owed_handler valid found stepped (by simp) (by simp) rfl rfl rfl ?_
      rw [accepts.history]
      exact List.prefix_append _ _
  | @acked id ok j t t' data _ _ _ pending found stepped =>
    have other {id' : StreamId} {k : Nat} (waits : Function.update c.pendingAcks id none id' = some k) :
        id' ≠ id ∧ c.pendingAcks id' = some k := by
      rw [Function.update_apply] at waits
      split at waits
      · cases waits
      · next different => exact ⟨different, waits⟩
    refine owed_set valid found rfl ?_ (fun _ _ waits => .inl (other waits).2) (fun id' _ waits => ?_) fun _ => le_rfl
    · cases stepped with
      | ack => exact fun front stage => ⟨rfl, front, stage⟩
      | refused _ _ _ which => simp at which
    · have different := (other waits).1
      simp [ClientSteps.received, ackIds, different.symm]
  | routing _ _ _ _ found stepped =>
    refine owed_shared valid found stepped rfl rfl ?_ (List.prefix_refl _)
    simp [ClientSteps.received, ackIds]
  | closed => exact owed_frame valid rfl (fun _ _ waits => waits) (fun _ _ _ => by simp [ClientSteps.received, ackIds]) rfl
  | skipped _ _ _ unknown =>
    refine owed_frame valid rfl (fun _ _ waits => waits) (fun id' k waits => ?_) rfl
    rcases unknown with ⟨id, ok, rfl, gone⟩ | ⟨_, _, rfl, -⟩ | ⟨_, rfl⟩ | ⟨_, _, rfl⟩
    · have different : id ≠ id' := by
        rintro rfl
        exact absurd (gone.symm.trans waits) (by simp)
      simp [ClientSteps.received, ackIds, different]
    all_goals simp [ClientSteps.received, ackIds]
  | readerClear | releaseClear => exact owed_frame valid rfl (fun _ _ waits => by cases waits) (fun _ _ waits => by cases waits) rfl
  | _ => exact owed_frame valid rfl (fun _ _ waits => waits) (fun _ _ _ => rfl) rfl

theorem owed (run : (muxSystem capacity token resilient).Reach allowed m) : Owed m.client := by
  refine run.invariant (p := fun m => Owed m.client) ?_ ?_
  · rintro m rfl k s there
    simp [Client.fresh, Endpoint.fresh] at there
  · intro before action after prior valid _ taken
    cases mux_effect taken with
    | client stepped => exact owed_step (client_effect stepped) (acks_answer prior) valid
    | server => exact valid

end Owed

/-! ### Progress -/

/-- Every socket accepts writes. -/
def Writable (m : Mux) : Prop :=
  (∀ s ∈ m.client.streams, s.socket.writable = true) ∧ ∀ u ∈ m.server.streams, u.socket.writable = true

/-- A frame waits in a frame channel or on the WebSocket, or a payload in the queue
of a stream whose receiver lives. -/
def FrameWaiting (m : Mux) : Prop :=
  m.client.frames.queue ≠ [] ∨ m.server.frames.queue ≠ [] ∨ m.upload ≠ [] ∨ m.download ≠ [] ∨
    (∃ s ∈ m.client.streams, s.channel.receiver = true ∧ s.channel.queue ≠ []) ∨
    ∃ u ∈ m.server.streams, u.channel.receiver = true ∧ u.channel.queue ≠ []

/-- The two frame channels and the two wires are full, and the server's reader waits
to send an OPEN_ACK. -/
structure Clogged (capacity : Nat) (m : Mux) : Prop where
  clientFrames : m.client.frames.queue.length = frameCapacity
  clientWriter : ∃ frame, m.client.writer = .sending frame
  upload : capacity ≤ m.upload.length
  serverReader : Answering m.server
  serverFrames : m.server.frames.queue.length = frameCapacity
  serverWriter : ∃ frame, m.server.writer = .sending frame
  download : capacity ≤ m.download.length

/-- The client's reader waits for room in the queue of a stream whose handler has
not started its write task. The handler in turn waits for room on the frame
channel while everything up to the reader is clogged, or, when ids are reused, for
an OPEN_ACK behind the payload. -/
def CircularWait (capacity : Nat) (m : Mux) : Prop :=
  ∃ (k : Nat) (s : Stream Handler), m.client.routing = some k ∧ m.client.streams[k]? = some s ∧ s.phase = .front ∧
    s.channel.queue.length = dataCapacity ∧
    ((∃ frame, s.request = some frame) ∧ Clogged capacity m ∨
      s.front.stage = .awaiting ∧ s.front.ack = none ∧ m.client.pendingAcks s.id = some k)

section Rest
variable {capacity : Nat} {token : String} {resilient : Bool} {allowed : MuxAction → Prop} {m : Mux}

/-- With nothing on the way every OPEN is answered. -/
private theorem nothing_owed (run : (muxSystem capacity token resilient).Reach allowed m) (up : Connected m)
    (clientWriter : m.client.writer = .receiving ∧ m.client.frames.queue = []) (upload : m.upload = [])
    (reader : m.server.reader = .running) (serverWriter : m.server.writer = .receiving ∧ m.server.frames.queue = [])
    (download : m.download = []) : openIds m.client.frames.history = ackIds m.client.dispatched := by
  have client := ClientInvariant.client_valid (client_reach run)
  have server := ServerInvariant.server_valid (server_reach run)
  obtain ⟨up', down', joined⟩ := wires run
  have sent := joined.sent
  have answered := joined.answered
  rw [joined.up, List.map_eq_nil_iff] at upload
  rw [joined.down, List.map_eq_nil_iff] at download
  rw [upload, List.append_nil] at sent
  rw [download, List.append_nil] at answered
  have put := client.started.order.all_put clientWriter.1 clientWriter.2
  have put' := server.admitted.order.all_put serverWriter.1 serverWriter.2
  have opened := server.admitted.order.accepting (by simp [serverWriter.1])
  have settled := server.answers.all opened up.server.reader.2.2
  calc openIds m.client.frames.history
      = openIds m.client.put := by
        rw [put]
        rfl
    _ = openIds m.server.dispatched := by rw [sent]
    _ = ackIds m.server.frames.history := by simp [settled, ServerInvariant.pending, reader]
    _ = ackIds m.client.dispatched := by rw [← answered, put', List.nil_append]

/-- Where the loops are, when pending connects complete and sockets accept writes. -/
private theorem rest_cases (run : (muxSystem capacity token resilient).Reach allowed m) (up : Connected m) (writable : Writable m)
    (quiet : Quiet capacity m) (connects : ∀ id dest, m.server.reader ≠ .connecting id dest) :
    (m.client.routing = none ∧ m.download = [] ∨
      ∃ k s, m.client.routing = some k ∧ m.client.streams[k]? = some s ∧ s.channel.queue.length = dataCapacity ∧ s.phase = .front) ∧
    (m.server.reader = .running ∧ m.upload = [] ∨ Answering m.server ∧ m.server.frames.queue.length = frameCapacity) := by
  have rest := settled run up quiet
  constructor
  · rcases rest.clientReader with idle | ⟨k, s, routing, found, full, front | stalled⟩
    · exact .inl idle
    · exact .inr ⟨k, s, routing, found, full, front⟩
    · have ready := writable.1 s (List.mem_of_getElem? found)
      simp [stalled.2] at ready
  · rcases rest.serverReader with ⟨running, -, drained⟩ | ⟨id, dest, connecting⟩ | answering | ⟨k, u, -, found, -, stalled⟩
    · exact .inl ⟨running, drained⟩
    · exact absurd connecting (connects id dest)
    · exact .inr answering
    · have ready := writable.2 u (List.mem_of_getElem? found)
      simp [stalled.2] at ready

private theorem nonempty_of_full {α : Type} {xs : List α} {n : Nat} (some : 0 < n) (full : n ≤ xs.length) : xs ≠ [] := by
  rintro rfl
  simp at full
  omega

/-- At rest a waiting frame means a circular wait. -/
theorem circular_of_waiting (run : (muxSystem capacity token resilient).Reach allowed m) (up : Connected m)
    (writable : Writable m) (quiet : Quiet capacity m) (connects : ∀ id dest, m.server.reader ≠ .connecting id dest)
    (waiting : FrameWaiting m) : CircularWait capacity m := by
  have client := ClientInvariant.client_valid (client_reach run)
  have server := ServerInvariant.server_valid (server_reach run)
  have rest := settled run up quiet
  obtain ⟨clientReader, serverReader⟩ := rest_cases run up writable quiet connects
  have room : 0 < capacity := capacity_pos run (client_greeted run up.attached)
  have frames : frameCapacity ≠ 0 := by decide
  -- the wait is followed backwards, from each buffer to the one in front of it
  have clientQueue (some : m.client.frames.queue ≠ []) :
      (∃ frame, m.client.writer = .sending frame) ∧ capacity ≤ m.upload.length :=
    rest.clientWriter.resolve_left fun idle => some idle.2
  have serverQueue (some : m.server.frames.queue ≠ []) :
      (∃ frame, m.server.writer = .sending frame) ∧ capacity ≤ m.download.length :=
    rest.serverWriter.resolve_left fun idle => some idle.2
  have uploaded (some : m.upload ≠ []) : Answering m.server ∧ m.server.frames.queue.length = frameCapacity :=
    serverReader.resolve_left fun idle => some idle.2
  have downloaded (some : m.download ≠ []) : CircularWait capacity m := by
    obtain ⟨k, s, routing, found, full, front⟩ := clientReader.resolve_left fun idle => some idle.2
    have member := List.mem_of_getElem? found
    refine ⟨k, s, routing, found, front, full, ?_⟩
    obtain ⟨-, replying⟩ := client_busy (client_reach run) s member
    rcases handler_waits (quiet.handler_stuck found) found front (writable.1 s member) replying with ⟨request, -, clogged⟩ | owed
    · obtain ⟨clientWriter, upload⟩ := clientQueue (nonempty_of_full (by decide) clogged.ge)
      obtain ⟨serverReader, serverFrames⟩ := uploaded (nonempty_of_full room upload)
      obtain ⟨serverWriter, download⟩ := serverQueue (nonempty_of_full (by decide) serverFrames.ge)
      exact .inl ⟨request, clogged, clientWriter, upload, serverReader, serverFrames, serverWriter, download⟩
    · exact .inr owed
  have answered (some : m.server.frames.queue ≠ []) : CircularWait capacity m :=
    downloaded (nonempty_of_full room (serverQueue some).2)
  have sent (some : m.upload ≠ []) : CircularWait capacity m :=
    answered (nonempty_of_full (by decide) (uploaded some).2.ge)
  have queued (some : m.client.frames.queue ≠ []) : CircularWait capacity m :=
    sent (nonempty_of_full room (clientQueue some).2)
  rcases waiting with some | some | some | some | ⟨s, member, attended, some⟩ | ⟨u, member, attended, some⟩
  · exact queued some
  · exact answered some
  · exact sent some
  · exact downloaded some
  · obtain ⟨k, found⟩ := List.getElem?_of_mem member
    obtain ⟨busy, replying⟩ := client_busy (client_reach run) s member
    have front : s.phase = .front := by
      rcases quiet.client_stuck.unread found (client.streams.handled s member).inbound busy attended some with front | stalled
      · exact front
      · have ready := writable.1 s member
        simp [stalled.2] at ready
    rcases handler_waits (quiet.handler_stuck found) found front (writable.1 s member) replying with ⟨-, -, clogged⟩ | ⟨stage, -, pending⟩
    · exact queued (nonempty_of_full (by decide) clogged.ge)
    · by_contra acyclic
      have upload : m.upload = [] := by
        by_contra some
        exact acyclic (sent some)
      have download : m.download = [] := by
        by_contra some
        exact acyclic (downloaded some)
      have running := (serverReader.resolve_right fun answering =>
        acyclic (answered (nonempty_of_full (by decide) answering.2.ge))).1
      have clientWriter := rest.clientWriter.resolve_right fun busy => acyclic (sent (nonempty_of_full room busy.2))
      have serverWriter := rest.serverWriter.resolve_right fun busy => acyclic (downloaded (nonempty_of_full room busy.2))
      have owed := owed run k s found front stage pending
      rw [nothing_owed run up clientWriter upload running serverWriter download] at owed
      exact lt_irrefl _ owed
  · obtain ⟨k, found⟩ := List.getElem?_of_mem member
    have front : u.phase = .front := by
      rcases quiet.server_stuck.unread found (server.streams.relayed u member).inbound (server_busy run u member) attended some
        with front | stalled
      · exact front
      · have ready := writable.2 u member
        simp [stalled.2] at ready
    have full := (quiet.answer_waits server (.inr ⟨k, server.streams.front k u found front⟩)).2
    exact answered (nonempty_of_full (by decide) full.ge)

end Rest

/-- Some task can take a step, or a pending connect can complete. -/
def Progresses (capacity : Nat) (token : String) (resilient : Bool) (m : Mux) : Prop :=
  (muxSystem capacity token resilient).Enabled (fun action => action.isInternal = true ∨ action = .server .connectOk) m

/-- As long as no circular wait has come about, a waiting frame means that some step
is enabled: in every state of every run, for any mix of handlers and any bound on
the wires. -/
theorem waiting_progresses (capacity : Nat) (token : String) (resilient : Bool) (m : Mux)
    (run : (muxSystem capacity token resilient).Reachable m) (up : Connected m) (writable : Writable m)
    (acyclic : ¬ CircularWait capacity m) (waiting : FrameWaiting m) : Progresses capacity token resilient m := by
  by_contra stuck
  have quiescent := Transition.System.quiescent_iff_not_enabled.mpr stuck
  refine acyclic (circular_of_waiting run up writable (fun action kind => quiescent action (.inl kind)) ?_ waiting)
  intro id dest connecting
  have blocked := quiescent (.server .connectOk) (.inr rfl)
  simp [muxSystem, Mux.step, ServerAction.consumes, Server.emits, Mux.deliver, Mux.transmit, Server.step, connecting] at blocked

/-- The conditions on a state, in a form that can be evaluated. -/
private def Ready (m : Mux) : Prop :=
  (m.client.link = .attached ∧ m.client.reader = .running ∧ m.client.writer ≠ .stopping ∧ m.client.writer ≠ .ended) ∧
  ((m.server.reader ≠ .closing ∧ m.server.reader ≠ .ended ∧ m.server.reader ≠ .dropped) ∧
    m.server.writer ≠ .stopping ∧ m.server.writer ≠ .ended) ∧
  ((∀ s ∈ m.client.streams, s.socket.writable = true) ∧ ∀ u ∈ m.server.streams, u.socket.writable = true) ∧
  (m.upload ≠ [] ∨ m.download ≠ [])

private instance (m : Mux) : Decidable (Ready m) := by
  unfold Ready
  infer_instance

private theorem Ready.conditions {m : Mux} (ready : Ready m) : Connected m ∧ Writable m ∧ FrameWaiting m := by
  obtain ⟨⟨attached, running, client⟩, server, writable, waiting⟩ := ready
  refine ⟨⟨attached, ⟨.inr attached, .inr running, client⟩, server.1, server.2⟩, writable, ?_⟩
  rcases waiting with some | some
  · exact .inr (.inr (.inl some))
  · exact .inr (.inr (.inr (.inl some)))

/-- With an OPEN_ACK on the wire. -/
theorem answer_progresses : ∃ m, m.download ≠ [] ∧ Progresses 1 "t" true m := by
  have executed : ((muxSystem 1 "t" true).exec ⟨Client.fresh "t" true, Server.fresh, [], []⟩ (oneTunnel.take 14)).any
      (fun m => decide (Ready m ∧ m.client.routing = none ∧ m.download ≠ [])) = true := by decide +kernel
  obtain ⟨m, run, view⟩ := Transition.System.reached executed rfl
  obtain ⟨ready, idle, waiting⟩ := of_decide_eq_true view
  obtain ⟨up, writable, frame⟩ := ready.conditions
  refine ⟨m, waiting, waiting_progresses 1 "t" true m run up writable ?_ frame⟩
  rintro ⟨k, s, routing, -⟩
  simp [idle] at routing

/-! ### The deadlock -/

/-- A stream is accepted and its OPEN reaches the server. -/
def openStream (k : Nat) (id : StreamId) (tunnel : Tunnel) : List MuxAction := [
  .client (.accept id tunnel), .client (.handler k .register), .client (.handler k .insertAck), .client (.handler k .send),
  .client (.endpoint .pop), .client (.endpoint .put), .server (.incoming (Frame.openStream id tunnel.spec.dest).message)]

/-- The connect completes and the handler takes its OPEN_ACK. -/
def connectStream (k : Nat) (id : StreamId) : List MuxAction := [
  .server .connectOk, .server .answer, .server (.endpoint .pop), .server (.endpoint .put),
  .client (.incoming (Frame.openAck id true).message), .client (.handler k (.stream .acked))]

def clientReads (k : Nat) : List MuxAction := [.client (.endpoint (.stream k (.read 1))), .client (.endpoint (.send k))]
def serverReads (k : Nat) : List MuxAction := [.server (.endpoint (.stream k (.read 1))), .server (.endpoint (.send k))]
def clientWrites : List MuxAction := [.client (.endpoint .pop), .client (.endpoint .put)]
def serverWrites : List MuxAction := [.server (.endpoint .pop), .server (.endpoint .put)]
def times (n : Nat) (actions : List MuxAction) : List MuxAction := (List.replicate n actions).flatten

/-- A plain HTTP handler has its OPEN_ACK and is about to forward the request. Its
upstream speaks first and fills everything down to the handler's queue, a blocked
OPEN holds the server's reader, and a SOCKS5 stream fills the way up. -/
def jam : List MuxAction :=
  [.client .connect, .server (.incoming (Frame.hello "t").message), .server .accept] ++
  openStream 0 1 (.viaMux ⟨"1.1.1.1:80", false, "G", []⟩) ++ connectStream 0 1 ++
  openStream 1 2 (.socksViaMuxWithTimeout "1.1.1.1:80") ++ connectStream 1 2 ++ [.client (.handler 1 (.stream (.greet 10)))] ++
  [.server (.endpoint (.stream 0 (.arrive (List.replicate 163 0))))] ++
  times 32 (serverReads 0 ++ serverWrites ++ [.client (.incoming (Frame.data 1 [0]).message), .client (.endpoint .route)]) ++
  serverReads 0 ++ serverWrites ++ [.client (.incoming (Frame.data 1 [0]).message)] ++
  serverReads 0 ++ serverWrites ++ serverReads 0 ++ [.server (.endpoint .pop)] ++ times 128 (serverReads 0) ++
  openStream 2 3 (.socksViaMuxWithTimeout "127.0.0.1:80") ++
  [.client (.endpoint (.stream 1 (.arrive (List.replicate 130 0))))] ++
  clientReads 1 ++ clientWrites ++ clientReads 1 ++ [.client (.endpoint .pop)] ++ times 128 (clientReads 1)

set_option maxRecDepth 10000 in
private theorem jam_runs :
    ((muxSystem 1 "t" true).exec ⟨Client.fresh "t" true, Server.fresh, [], []⟩ jam).any (fun m => decide (Ready m ∧
      (trials m).all (fun trial => (m.step 1 trial).isNone) = true ∧ (m.step 1 (.server .connectOk)).isNone = true)) = true := by
  decide +kernel

/-- A connection that is up, with every socket ready for writes, is stuck with
frames waiting. -/
theorem jam_deadlocks : ∃ m, (muxSystem 1 "t" true).Reachable m ∧ Connected m ∧ Writable m ∧ FrameWaiting m ∧
    ¬ Progresses 1 "t" true m := by
  obtain ⟨m, run, jammed⟩ := Transition.System.reached jam_runs rfl
  obtain ⟨ready, quiet, connects⟩ := of_decide_eq_true jammed
  obtain ⟨up, writable, frame⟩ := ready.conditions
  refine ⟨m, run, up, writable, frame, ?_⟩
  rintro ⟨action, internal | rfl, taken⟩
  · simp [muxSystem, quiet_of_trials quiet action internal] at taken
  · simp only [muxSystem, Option.isNone_iff_eq_none] at taken connects
    simp [connects] at taken

end EchoProxy.Proofs.Deadlock
