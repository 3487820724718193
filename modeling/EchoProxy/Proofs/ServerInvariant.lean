import EchoProxy.Proofs.ServerSteps
import EchoProxy.Proofs.EndpointAccounts
import EchoProxy.Mux

/-! The invariant of a server session, whatever the peer sends. -/

namespace EchoProxy.Proofs.ServerInvariant
open EchoProxy StreamFlow EndpointSteps EndpointAccounts ServerSteps FrameSequences Places

/-! ### Streams -/

def accepted (s : Stream Opened) : List Frame := [.openAck s.id true]

structure Relayed (s : Stream Opened) : Prop where
  inbound : Inbound [] s
  front : s.phase = .front → s.socket.chunks = []
  unrelayed : s.task = .absent → s.emitted = [] ∧ s.socket.written = []
  emits : s.task ≠ .absent → Emits (accepted s) s

def Sending (s : Stream Opened) : Prop := s.task ≠ .absent → Outbound (accepted s) s

private theorem Relayed.fresh (id : StreamId) (opened : Opened) : Relayed (Stream.fresh id opened) := by
  refine ⟨⟨?_, ?_, ?_, ?_, ?_, ?_, ?_⟩, ?_, ?_, ?_⟩ <;> simp [Stream.fresh, Attended, Socket.fresh]

private theorem accepted_same {s s' : Stream Opened} {move} (effect : Effect s move s') : accepted s' = accepted s := by
  rw [accepted, effect.same.1, accepted]

private theorem Relayed.step {s s' : Stream Opened} {move} (valid : Relayed s) (sending : move = .sent → Sending s)
    (effect : Effect s move s') : Relayed s' := by
  have inbound := valid.inbound.step effect
  refine ⟨inbound, ?_, ?_, ?_⟩
  · intro phase
    obtain ⟨front, -, -, chunks⟩ := effect.front phase (effect.absent.mp (inbound.front phase))
    rw [chunks]
    exact valid.front front
  · intro absent
    have idle := effect.absent.mp absent
    cases effect with
    | sentData phase | sentClose phase => exact absurd idle (valid.inbound.relaying (by simp [phase]) (by simp [phase]))
    | write writing => simp [writing] at idle
    | _ => exact valid.unrelayed idle
  · rw [Ne, effect.absent, accepted_same effect]
    intro running
    by_cases sent : move = .sent
    · exact ((sending sent running).step effect (by simp [sent])).emits
    · exact (valid.emits running).step effect (Effect.quiet effect sent)

private theorem Sending.step {s s' : Stream Opened} {move} (sending : Sending s) (accepted : move ≠ .unsent)
    (effect : Effect s move s') : Sending s' := by
  unfold Sending at sending ⊢
  rw [Ne, effect.absent, accepted_same effect]
  exact fun running => (sending running).step effect accepted

private theorem Relayed.acked {s : Stream Opened} (valid : Relayed s) (front : s.phase = .front) (sent : List Frame)
    (which : sent <+: accepted s) : Relayed (acked s sent) := by
  have absent := valid.inbound.front front
  obtain ⟨emitted, written⟩ := valid.unrelayed absent
  refine ⟨⟨valid.inbound.queued, valid.inbound.inflow, ?_, ?_, ?_, ?_, ?_⟩, ?_, ?_, ?_⟩
  · simp [ServerSteps.acked, Stream.relay]
  · intro _
    exact ⟨[], by simp [ServerSteps.acked, Stream.relay, written],
      by simp [ServerSteps.acked, Stream.relay, WriteTask.rest, valid.inbound.unread absent]⟩
  · simp [ServerSteps.acked, Stream.relay, Attended, valid.inbound.attended, front]
  · simp [ServerSteps.acked, Stream.relay]
  · simp [ServerSteps.acked, Stream.relay]
  · simp [ServerSteps.acked, Stream.relay]
  · simp [ServerSteps.acked, Stream.relay]
  · intro _
    refine ⟨[], List.nil_prefix, ?_⟩
    simp only [ServerSteps.acked, emitted, List.nil_append, List.map_nil, List.append_nil]
    exact which.trans (List.prefix_append _ _)

private theorem Sending.acked {s : Stream Opened} (valid : Relayed s) (front : s.phase = .front) :
    Sending (ServerSteps.acked s (accepted s)) := by
  have chunks := valid.front front
  obtain ⟨emitted, -⟩ := valid.unrelayed (valid.inbound.front front)
  intro _
  simp [Outbound, ServerSteps.acked, Stream.relay, held, farewell, emitted, chunks, accepted]

private theorem Relayed.abandon {s : Stream Opened} (valid : Relayed s) (front : s.phase = .front) : Relayed s.abandon := by
  have absent := valid.inbound.front front
  refine ⟨⟨by simp [Stream.abandon], valid.inbound.inflow, valid.inbound.unread, ?_, ?_, by simp [Stream.abandon],
    by simp [Stream.abandon]⟩, by simp [Stream.abandon], valid.unrelayed, ?_⟩
  · exact fun running => absurd absent running
  · simp [Stream.abandon, Attended, absent]
  · exact fun running => absurd absent running

/-- What a registered stream has sent: OPEN_ACK, the bytes its upstream sent, CLOSE. -/
theorem Relayed.conforms {s : Stream Opened} (valid : Relayed s) :
    ∃ sent, sent <+: s.socket.chunks ∧ s.emitted <+: .openAck s.id true :: sent.map (.data s.id) ++ [.close s.id] := by
  by_cases absent : s.task = .absent
  · exact ⟨[], List.nil_prefix, by rw [(valid.unrelayed absent).1]; exact List.nil_prefix⟩
  · obtain ⟨sent, read, emitted⟩ := valid.emits absent
    exact ⟨sent, read, by simpa [accepted] using emitted⟩

/-- What one step does to the streams. -/
inductive StreamChange (c : Server) : List (Stream Opened) → Prop where
  | same : StreamChange c c.streams
  | shared {k s s' move} (found : c.streams[k]? = some s) (stepped : Effect s move s')
      (sent : move = .sent → c.frames.receiver = true) (unsent : move = .unsent → c.frames.receiver = false) :
    StreamChange c (c.streams.set k s')
  | acked {k s} (acking : c.reader = .acking k) (found : c.streams[k]? = some s) (accepts : c.frames.receiver = true) :
    StreamChange c (c.streams.set k (acked s (accepted s)))
  | unacked {k s} (acking : c.reader = .acking k) (found : c.streams[k]? = some s) (closed : c.frames.receiver = false) :
    StreamChange c (c.streams.set k (acked s []))
  | abandoned {k s} (acking : c.reader = .acking k) (found : c.streams[k]? = some s) :
    StreamChange c (c.streams.set k s.abandon)
  | connected {id dest} : StreamChange c (c.streams ++ [Stream.fresh id ⟨dest⟩])

theorem server_streams {c c' : Server} {action} (effect : ServerEffect c action c') : StreamChange c c'.streams := by
  cases effect with
  | endpoint effect =>
    cases effect with
    | pop | put | putFail => exact .same
    | stream found isLocal stepped =>
      exact .shared found stepped (fun sent => absurd sent (isLocal_ne isLocal rfl)) fun unsent =>
        absurd unsent (isLocal_ne isLocal rfl)
    | sent found _ accepts stepped => exact .shared found stepped (fun _ => accepts.receiver) (by simp)
    | unsent found _ closed stepped => exact .shared found stepped (by simp) fun _ => closed
    | finish found _ stepped | unregister found stepped | route _ found stepped =>
      exact .shared found stepped (by simp) (by simp)
  | routing _ _ _ _ found stepped => exact .shared found stepped (by simp) (by simp)
  | connectOk => exact .connected
  | acked acking found accepts => exact .acked acking found accepts.receiver
  | unacked acking found closed => exact .unacked acking found closed
  | droppedAcking acking found => exact .abandoned acking found
  | _ => exact .same

theorem server_closed {c c' : Server} {action} (effect : ServerEffect c action c') (opened : c'.frames.receiver = true) :
    c.frames.receiver = true := by
  cases effect with
  | endpoint effect => exact endpoint_closed effect opened
  | refused _ accepts | acked _ _ accepts => rw [← accepts.same]; exact opened
  | writerStop => simp at opened
  | _ => exact opened

/-- Every stream's own account; a stream is in its front exactly while the reader
sends its OPEN_ACK. -/
structure Streams (c : Server) : Prop where
  relayed : ∀ s ∈ c.streams, Relayed s
  sending : c.frames.receiver = true → ∀ s ∈ c.streams, Sending s
  acking : ∀ k, c.reader = .acking k → ∃ s, c.streams[k]? = some s ∧ s.phase = .front
  front : ∀ (k : Nat) (s : Stream Opened), c.streams[k]? = some s → s.phase = .front → c.reader = .acking k

private theorem relayed_step {c c' : Server} {action} (valid : Streams c) (effect : ServerEffect c action c') :
    ∀ s ∈ c'.streams, Relayed s := by
  have change := server_streams effect
  generalize c'.streams = after at change ⊢
  cases change with
  | same => exact valid.relayed
  | shared found stepped sent =>
    have member := List.mem_of_getElem? found
    exact forall_set valid.relayed ((valid.relayed _ member).step (fun same => valid.sending (sent same) _ member) stepped)
  | acked acking found | unacked acking found =>
    obtain ⟨s, found', front⟩ := valid.acking _ acking
    cases found.symm.trans found'
    exact forall_set valid.relayed ((valid.relayed _ (List.mem_of_getElem? found)).acked front _ (by simp))
  | abandoned acking found =>
    obtain ⟨s, found', front⟩ := valid.acking _ acking
    cases found.symm.trans found'
    exact forall_set valid.relayed ((valid.relayed _ (List.mem_of_getElem? found)).abandon front)
  | connected =>
    exact forall_append valid.relayed (.fresh _ _)

private theorem sending_step {c c' : Server} {action} (valid : Streams c) (effect : ServerEffect c action c')
    (opened : c'.frames.receiver = true) : ∀ s ∈ c'.streams, Sending s := by
  have change := server_streams effect
  have before := server_closed effect opened
  have sending := valid.sending before
  generalize c'.streams = after at change ⊢
  cases change with
  | same => exact sending
  | shared found stepped _ unsent =>
    refine forall_set sending ((sending _ (List.mem_of_getElem? found)).step (fun failed => ?_) stepped)
    simp [unsent failed] at before
  | acked acking found =>
    obtain ⟨s, found', front⟩ := valid.acking _ acking
    cases found.symm.trans found'
    exact forall_set sending (.acked (valid.relayed _ (List.mem_of_getElem? found)) front)
  | unacked _ _ closed => simp [closed] at before
  | abandoned acking found =>
    obtain ⟨s, found', front⟩ := valid.acking _ acking
    cases found.symm.trans found'
    exact forall_set sending fun running =>
      absurd ((valid.relayed _ (List.mem_of_getElem? found)).inbound.front front) running
  | connected =>
    apply forall_append sending
    intro running
    simp [Stream.fresh] at running

/-- Which stream is in its front, after a step that leaves the reader alone. -/
private theorem front_set {c : Server} {k : Nat} {s s' : Stream Opened} (valid : Streams c) (found : c.streams[k]? = some s)
    (stays : s'.phase = .front ↔ s.phase = .front) :
    (∀ j, c.reader = .acking j → ∃ t, (c.streams.set k s')[j]? = some t ∧ t.phase = .front) ∧
      ∀ (j : Nat) (t : Stream Opened), (c.streams.set k s')[j]? = some t → t.phase = .front → c.reader = .acking j := by
  constructor
  · intro j acking
    exact exists_set found stays.mpr (valid.acking j acking)
  · intro j t there front
    rcases set_cases there with ⟨rfl, rfl⟩ | ⟨-, there⟩
    · exact valid.front _ s found (stays.mp front)
    · exact valid.front j t there front

/-- The front of the acknowledged stream ends with the reader's await. -/
private theorem front_done {c : Server} {k : Nat} {s' : Stream Opened} {reader : SessionReader} (valid : Streams c)
    (acking : c.reader = .acking k) (relaying : s'.phase ≠ .front) (left : ∀ j, reader ≠ .acking j) :
    (∀ j, reader = .acking j → ∃ t, (c.streams.set k s')[j]? = some t ∧ t.phase = .front) ∧
      ∀ (j : Nat) (t : Stream Opened), (c.streams.set k s')[j]? = some t → t.phase = .front → reader = .acking j := by
  refine ⟨fun j acking' => absurd acking' (left j), ?_⟩
  intro j t there front
  rcases set_cases there with ⟨rfl, rfl⟩ | ⟨different, there⟩
  · exact absurd front relaying
  · have same := valid.front j t there front
    rw [acking] at same
    cases same
    exact absurd rfl different

/-- A step of the reader outside an OPEN_ACK send. -/
private theorem front_reader {c : Server} {reader : SessionReader} (valid : Streams c)
    (before : ∀ j, c.reader ≠ .acking j) (after : ∀ j, reader ≠ .acking j) :
    (∀ j, reader = .acking j → ∃ t, c.streams[j]? = some t ∧ t.phase = .front) ∧
      ∀ (j : Nat) (t : Stream Opened), c.streams[j]? = some t → t.phase = .front → reader = .acking j :=
  ⟨fun j acking => absurd acking (after j), fun j t there front => absurd (valid.front j t there front) (before j)⟩

private theorem front_step {c c' : Server} {action} (valid : Streams c) (effect : ServerEffect c action c') :
    (∀ j, c'.reader = .acking j → ∃ t, c'.streams[j]? = some t ∧ t.phase = .front) ∧
      ∀ (j : Nat) (t : Stream Opened), c'.streams[j]? = some t → t.phase = .front → c'.reader = .acking j := by
  cases effect with
  | endpoint effect =>
    cases effect with
    | pop | put | putFail => exact ⟨valid.acking, valid.front⟩
    | stream found _ stepped | sent found _ _ stepped | unsent found _ _ stepped | finish found _ stepped
    | unregister found stepped | route _ found stepped => exact front_set (c := c) valid found stepped.stays
  | routing _ _ _ _ found stepped => exact front_set (c := c) valid found stepped.stays
  | acked acking | unacked acking =>
    exact front_done (c := c) valid acking (by simp [ServerSteps.acked, Stream.relay]) (by simp)
  | droppedAcking acking => exact front_done (c := c) valid acking (by simp [Stream.abandon]) (by simp)
  | dropped _ handed => exact front_reader (c := c) valid handed (by simp)
  | @connectOk id dest connecting =>
    constructor
    · rintro j ⟨⟩
      exact ⟨Stream.fresh id ⟨dest⟩, by simp [Server.connected], rfl⟩
    · intro j t there front
      rcases append_cases there with ⟨rfl, rfl⟩ | there
      · rfl
      · have same := valid.front j t there front
        rw [connecting] at same
        cases same
  | ignored | closed | skipped | writerExit | writerStop => exact ⟨valid.acking, valid.front⟩
  | hello now | unwelcome now | broken now | opening now | blocked now | accept now | reject now | connectFail now
  | refused now | unrefused now | readerCloseAll now => exact front_reader (c := c) valid (by simp [now]) (by simp)

theorem Streams.step {c c' : Server} {action} (valid : Streams c) (effect : ServerEffect c action c') : Streams c' :=
  ⟨relayed_step valid effect, sending_step valid effect, (front_step valid effect).1, (front_step valid effect).2⟩

/-! ### Senders -/

structure Routes (c : Server) : Prop where
  wired : Wired (c.reader ≠ .dropped) c.registry c.routing c.streams
  busy : c.routing ≠ none → c.reader = .running

theorem Routes.step {c c' : Server} {action} (valid : Routes c) (effect : ServerEffect c action c') : Routes c' := by
  obtain ⟨wired, busy⟩ := valid
  cases effect with
  | endpoint effect =>
    refine ⟨effect.wired wired, ?_⟩
    cases effect with
    | route => simp
    | _ => exact busy
  | routing running idle _ _ found stepped =>
    rw [idle] at wired
    refine ⟨wired.lookup found stepped.same.1 ?_, fun _ => running⟩
    cases stepped
    simp
  | closed => exact ⟨wired.close _, busy⟩
  | ignored | skipped | writerExit => exact ⟨wired, busy⟩
  | writerStop => exact ⟨wired.closeAll, busy⟩
  | dropped => exact ⟨wired.drop.mono (by simp), by simp⟩
  | @droppedAcking k s _ found =>
    have kept : Wired _ c.registry c.routing (c.streams.set k s.abandon) := wired.set found rfl rfl
    exact ⟨kept.drop.mono (by simp), by simp⟩
  | broken now idle | opening now idle | blocked now idle =>
    exact ⟨wired.mono (by simp [now]), fun route => absurd idle route⟩
  | readerCloseAll now =>
    refine ⟨wired.closeAll.mono (by simp [now]), fun route => ?_⟩
    simp [busy route] at now
  | hello now | unwelcome now | accept now | reject now =>
    refine ⟨wired.mono (by simp [now]), fun route => ?_⟩
    simp [busy route] at now
  | refused now | unrefused now =>
    refine ⟨wired.mono (by simp [now]), fun _ => rfl⟩
  | @acked k s frames now found =>
    have kept : Wired _ c.registry c.routing (c.streams.set k (ServerSteps.acked s (accepted s))) := wired.set found rfl rfl
    exact ⟨kept.mono (by simp [now]), fun _ => rfl⟩
  | @unacked k s now found =>
    have kept : Wired _ c.registry c.routing (c.streams.set k (ServerSteps.acked s [])) := wired.set found rfl rfl
    exact ⟨kept.mono (by simp [now]), fun _ => rfl⟩
  | connectFail now =>
    refine ⟨(wired.close _).mono (by simp [now]), fun route => ?_⟩
    simp [busy route] at now
  | @connectOk id dest now =>
    refine ⟨?_, fun route => ?_⟩
    · have opened := wired.append (Stream.fresh id ⟨dest⟩) rfl
      exact (opened.register (k := c.streams.length) (s := Stream.fresh id ⟨dest⟩) (by simp)).mono (by simp [now])
    · simp [Server.connected] at route
      simp [busy route] at now

/-! ### OPENs and their answers -/

/-- The OPEN `handle_open` has not yet decided or registered. -/
def waiting : SessionReader → List StreamId
  | .connecting id _ | .refusing id => [id]
  | _ => []

/-- The OPEN `handle_open` is working on. -/
def pending (c : Server) : List StreamId :=
  match c.reader with
  | .connecting id _ | .refusing id => [id]
  | .acking k => (c.streams[k]?.map Stream.id).toList
  | _ => []

/-- `done` are the OPENs behind the reader: the registered streams are among them,
and so are the ids of all frames sent. -/
structure Settled (c : Server) (done : List StreamId) : Prop where
  opens : openIds c.dispatched = done ++ waiting c.reader
  ids : (c.streams.map Stream.id).Sublist done
  known : ∀ frame ∈ c.frames.history, ∃ id ∈ done, streamId frame = some id

theorem Settled.distinct {c : Server} {done : List StreamId} (settled : Settled c done) (nodup : (openIds c.dispatched).Nodup) :
    Distinct c.streams := by
  rw [settled.opens] at nodup
  exact (List.nodup_append.mp nodup).1.sublist settled.ids

private theorem known_send {history : List Frame} {done : List StreamId} {new : Frame} {id : StreamId}
    (known : ∀ frame ∈ history, ∃ id ∈ done, streamId frame = some id) (own : streamId new = some id) (there : id ∈ done) :
    ∀ frame ∈ history ++ [new], ∃ id ∈ done, streamId frame = some id := by
  intro other member
  rcases List.mem_append.mp member with old | last
  · exact known other old
  · rw [List.mem_singleton.mp last]; exact ⟨id, there, own⟩

private theorem known_more {history : List Frame} {done : List StreamId} {id : StreamId}
    (known : ∀ frame ∈ history, ∃ id ∈ done, streamId frame = some id) :
    ∀ frame ∈ history, ∃ other ∈ done ++ [id], streamId frame = some other := by
  intro frame member
  obtain ⟨other, there, own⟩ := known frame member
  exact ⟨other, List.mem_append_left _ there, own⟩

private theorem sublist_set {streams : List (Stream Opened)} {k : Nat} {s s' : Stream Opened} {done : List StreamId}
    (ids : (streams.map Stream.id).Sublist done) (found : streams[k]? = some s) (id : s'.id = s.id) :
    ((streams.set k s').map Stream.id).Sublist done := by
  rw [set_ids found id]
  exact ids

theorem Settled.step {c c' : Server} {action} {done : List StreamId} (valid : Settled c done)
    (effect : ServerEffect c action c') : ∃ after, done <+: after ∧ Settled c' after := by
  obtain ⟨opens, ids, known⟩ := valid
  cases effect with
  | endpoint effect =>
    refine ⟨done, List.prefix_refl _, ?_, ?_, ?_⟩
    · rw [(endpoint_ids effect).2]; exact opens
    · rw [(endpoint_ids effect).1]; exact ids
    · cases effect with
      | pop _ takes => rw [takes.history]; exact known
      | sent found outgoing accepts stepped =>
        rw [accepts.history]
        have there := ids.subset (List.mem_map_of_mem (List.mem_of_getElem? found))
        exact known_send known (Effect.sent_frame stepped outgoing).2 there
      | _ => exact known
  | hello now | opening now | blocked now =>
    refine ⟨done, List.prefix_refl _, ?_, ids, known⟩
    rw [now] at opens
    simpa [received, waiting, openIds] using opens
  | closed now =>
    refine ⟨done, List.prefix_refl _, ?_, ids, known⟩
    rw [now] at opens
    simpa [received, waiting, now, openIds] using opens
  | routing now _ _ _ found stepped =>
    refine ⟨done, List.prefix_refl _, ?_, sublist_set ids found stepped.same.1, known⟩
    rw [now] at opens
    simpa [received, waiting, now, openIds] using opens
  | skipped now _ _ unknown =>
    refine ⟨done, List.prefix_refl _, ?_, ids, known⟩
    rw [now] at opens
    rcases unknown with ⟨id, bytes, rfl, -⟩ | ⟨token, rfl⟩ | ⟨id, ok, rfl⟩ <;>
      simpa [received, waiting, now, openIds] using opens
  | ignored | writerExit | writerStop => exact ⟨done, List.prefix_refl _, opens, ids, known⟩
  | broken now | unwelcome now | accept now | reject now | connectFail now | readerCloseAll now =>
    refine ⟨done, List.prefix_refl _, ?_, ids, known⟩
    rw [now] at opens
    simpa [waiting] using opens
  | acked now found accepts =>
    refine ⟨done, List.prefix_refl _, ?_, sublist_set ids found rfl, ?_⟩
    · rw [now] at opens
      simpa [waiting] using opens
    · rw [accepts.history]
      exact known_send known rfl (ids.subset (List.mem_map_of_mem (List.mem_of_getElem? found)))
  | unacked now found =>
    refine ⟨done, List.prefix_refl _, ?_, sublist_set ids found rfl, known⟩
    rw [now] at opens
    simpa [waiting] using opens
  | @connectOk id dest now =>
    refine ⟨done ++ [id], List.prefix_append _ _, ?_, ?_, known_more known⟩
    · rw [now] at opens
      simpa [Server.connected, waiting] using opens
    · simpa [Server.connected, Stream.fresh] using ids.append (List.Sublist.refl [id])
  | @refused id frames now accepts =>
    refine ⟨done ++ [id], List.prefix_append _ _, ?_, ids.trans (List.sublist_append_left _ _), ?_⟩
    · rw [now] at opens
      simpa [waiting] using opens
    · rw [accepts.history]
      exact known_send (known_more known) rfl (by simp)
  | @unrefused id now =>
    refine ⟨done ++ [id], List.prefix_append _ _, ?_, ids.trans (List.sublist_append_left _ _), known_more known⟩
    rw [now] at opens
    simpa [waiting] using opens
  | dropped suspended handed =>
    refine ⟨done ++ waiting c.reader, List.prefix_append _ _, by simpa [waiting] using opens,
      ids.trans (List.sublist_append_left _ _), ?_⟩
    intro frame member
    obtain ⟨id, there, own⟩ := known frame member
    exact ⟨id, List.mem_append_left _ there, own⟩
  | droppedAcking now found =>
    refine ⟨done, List.prefix_refl _, ?_, sublist_set ids found rfl, known⟩
    rw [now] at opens
    simpa [waiting] using opens

theorem server_dispatched {c c' : Server} {action} (effect : ServerEffect c action c') : c.dispatched <+: c'.dispatched := by
  cases effect with
  | endpoint effect => rw [(endpoint_ids effect).2]
  | hello | opening | blocked | closed | routing | skipped => exact List.prefix_append _ _
  | _ => exact List.prefix_refl _

/-- With distinct OPENs every frame sent belongs to its stream, or is the refusal
of an OPEN without a stream. -/
structure Opens (c : Server) : Prop where
  settled : ∃ done, Settled c done
  attributed : (openIds c.dispatched).Nodup → Attributed c.frames.history c.streams
  refused : (openIds c.dispatched).Nodup → ∀ id ∉ c.streams.map Stream.id, ofId id c.frames.history <+: [.openAck id false]

private theorem attributed_step {c c' : Server} {action} (valid : Opens c) (effect : ServerEffect c action c')
    (nodup : (openIds c'.dispatched).Nodup) : Attributed c'.frames.history c'.streams := by
  obtain ⟨done, settled⟩ := valid.settled
  have before : (openIds c.dispatched).Nodup := nodup.sublist (openIds_isPrefix (server_dispatched effect)).sublist
  have attributed := valid.attributed before
  have fresh : (done ++ waiting c.reader).Nodup := settled.opens ▸ before
  have distinct := settled.distinct before
  cases effect with
  | endpoint effect => exact endpoint_attributed effect distinct attributed
  | routing _ _ _ _ found stepped => exact attributed.set found stepped.same.1 (Effect.quiet stepped (by simp))
  | acked _ found accepts =>
    rw [accepts.history]
    exact attributed.send distinct found rfl rfl rfl
  | unacked _ found => exact attributed.set found rfl (by simp [ServerSteps.acked])
  | droppedAcking _ found => exact attributed.set found rfl rfl
  | @connectOk id dest now =>
    rw [now] at fresh
    refine attributed.append (ofId_absent settled.known fun there => ?_)
    exact (List.nodup_append.mp fresh).2.2 id there id (by simp [waiting]) rfl
  | @refused id frames now accepts =>
    rw [now] at fresh
    rw [accepts.history]
    intro k s found
    have there := settled.ids.subset (List.mem_map_of_mem (List.mem_of_getElem? found))
    have other : id ≠ s.id := fun same => (List.nodup_append.mp fresh).2.2 s.id there id (by simp [waiting]) same.symm
    rw [ofId_append, ofId_other (by simpa [streamId] using other), List.append_nil]
    exact attributed k s found
  | _ => exact attributed

private theorem absent_set {streams : List (Stream Opened)} {k : Nat} {s s' : Stream Opened} {id : StreamId}
    (absent : id ∉ (streams.set k s').map Stream.id) (found : streams[k]? = some s) (same : s'.id = s.id) :
    id ∉ streams.map Stream.id := by
  rwa [set_ids found same] at absent

private theorem refused_step {c c' : Server} {action} (valid : Opens c) (effect : ServerEffect c action c')
    (nodup : (openIds c'.dispatched).Nodup) (id : StreamId) (unstarted : id ∉ c'.streams.map Stream.id) :
    ofId id c'.frames.history <+: [.openAck id false] := by
  obtain ⟨done, settled⟩ := valid.settled
  have before : (openIds c.dispatched).Nodup := nodup.sublist (openIds_isPrefix (server_dispatched effect)).sublist
  have refused := valid.refused before id
  have fresh : (done ++ waiting c.reader).Nodup := settled.opens ▸ before
  have aside {k : Nat} {s : Stream Opened} {frame : Frame} (found : c.streams[k]? = some s) (own : streamId frame = some s.id)
      (absent : id ∉ c.streams.map Stream.id) : ofId id (c.frames.history ++ [frame]) = ofId id c.frames.history := by
    have other : streamId frame ≠ some id := by
      rw [own]
      rintro ⟨rfl⟩
      exact absent (List.mem_map_of_mem (List.mem_of_getElem? found))
    rw [ofId_append, ofId_other other, List.append_nil]
  cases effect with
  | endpoint effect =>
    rw [(endpoint_ids effect).1] at unstarted
    cases effect with
    | pop _ takes => rw [takes.history]; exact refused unstarted
    | sent found outgoing accepts stepped =>
      rw [accepts.history, aside found (Effect.sent_frame stepped outgoing).2 unstarted]
      exact refused unstarted
    | _ => exact refused unstarted
  | routing _ _ _ _ found stepped =>
    exact refused (absent_set unstarted found stepped.same.1)
  | acked _ found accepts =>
    have absent := absent_set unstarted found rfl
    rw [accepts.history, aside found rfl absent]
    exact refused absent
  | unacked _ found | droppedAcking _ found =>
    exact refused (absent_set unstarted found rfl)
  | connectOk => exact refused fun there => unstarted (by simp [Server.connected, there])
  | @refused answered frames now accepts =>
    rw [accepts.history, ofId_append]
    by_cases same : answered = id
    · subst same
      rw [now] at fresh
      have none : ofId answered c.frames.history = [] :=
        ofId_absent settled.known fun there => (List.nodup_append.mp fresh).2.2 answered there answered (by simp [waiting]) rfl
      rw [none, ofId_single rfl, List.nil_append]
    · rw [ofId_other (by simpa [streamId] using same), List.append_nil]
      exact refused unstarted
  | _ => exact refused unstarted

theorem Opens.step {c c' : Server} {action} (valid : Opens c) (effect : ServerEffect c action c') : Opens c' := by
  obtain ⟨done, settled⟩ := valid.settled
  obtain ⟨after, -, still⟩ := settled.step effect
  exact ⟨⟨after, still⟩, attributed_step valid effect, refused_step valid effect⟩

/-! ### The order of answers -/

/-- Every OPEN gets one answer in its turn as long as the frame channel takes it:
all but the one `handle_open` is working on, or was when the session was dropped. -/
structure Answers (c : Server) : Prop where
  all : c.frames.receiver = true → c.reader ≠ .dropped → openIds c.dispatched = ackIds c.frames.history ++ pending c
  cut : c.frames.receiver = true → ∃ unfinished, openIds c.dispatched = ackIds c.frames.history ++ unfinished ∧
    unfinished.length ≤ 1
  some : ackIds c.frames.history <+: openIds c.dispatched

private theorem outgoing_no_ack {s : Stream Opened} {frame : Frame} (outgoing : s.outgoing = some frame) :
    ackIds [frame] = [] := by
  unfold Stream.outgoing at outgoing
  split at outgoing <;> cases outgoing <;> rfl

/-- Relay tasks send no answers. -/
private theorem endpoint_acks {e e' : Endpoint Opened} {action} (effect : EndpointEffect e action e') :
    ackIds e'.frames.history = ackIds e.frames.history := by
  cases effect with
  | pop _ takes => rw [takes.history]
  | sent _ outgoing accepts => rw [accepts.history, ackIds_append, outgoing_no_ack outgoing, List.append_nil]
  | _ => rfl

/-- The id being answered is that of its stream, whatever the stream does. -/
private theorem pendingId_set {streams : List (Stream Opened)} {k : Nat} {s s' : Stream Opened} (found : streams[k]? = some s)
    (id : s'.id = s.id) (j : Nat) :
    ((streams.set k s')[j]?.map Stream.id).toList = (streams[j]?.map Stream.id).toList := by
  by_cases here : j = k
  · subst here
    rw [set_found found s', found, Option.map_some, Option.map_some, id]
  · rw [set_other here]

private theorem pending_streams {c c' : Server} (reader : c'.reader = c.reader)
    (streams : ∀ j : Nat, (c'.streams[j]?.map Stream.id).toList = (c.streams[j]?.map Stream.id).toList) :
    pending c' = pending c := by
  unfold pending
  rw [reader]
  split
  · rfl
  · rfl
  · exact streams _
  · rfl

private theorem endpoint_pending {c : Server} {e : Endpoint Opened} {action} (effect : EndpointEffect c.toEndpoint action e) :
    pending { c with toEndpoint := e } = pending c := by
  refine pending_streams rfl fun j => ?_
  cases effect with
  | pop | put | putFail => rfl
  | stream found _ stepped | sent found _ _ stepped | unsent found _ _ stepped | finish found _ stepped
  | unregister found stepped | route _ found stepped => exact pendingId_set found stepped.same.1 j

private theorem answers_all {c c' : Server} {action} (valid : Answers c) (effect : ServerEffect c action c')
    (opened : c'.frames.receiver = true) (alive : c'.reader ≠ .dropped) :
    openIds c'.dispatched = ackIds c'.frames.history ++ pending c' := by
  have before := valid.all (server_closed effect opened)
  cases effect with
  | endpoint effect =>
    rw [endpoint_pending effect, (endpoint_ids effect).2, endpoint_acks effect]
    exact before alive
  | hello now | opening now | blocked now | closed now =>
    simpa [received, pending, now, openIds] using before (by simp [now])
  | skipped now _ _ unknown =>
    rcases unknown with ⟨id, bytes, rfl, -⟩ | ⟨token, rfl⟩ | ⟨id, ok, rfl⟩ <;>
      simpa [received, pending, now, openIds] using before (by simp [now])
  | routing now => simpa [received, pending, now, openIds] using before (by simp [now])
  | ignored | writerExit => exact before alive
  | writerStop => simp at opened
  | broken now | unwelcome now | accept now | reject now | connectFail now | readerCloseAll now =>
    simpa [pending, now] using before (by simp [now])
  | connectOk now => simpa [Server.connected, pending, now, Stream.fresh] using before (by simp [now])
  | refused now accepts => simpa [pending, now, accepts.history, ackIds] using before (by simp [now])
  | acked now found accepts => simpa [pending, now, found, accepts.history, ackIds] using before (by simp [now])
  | unrefused _ closed | unacked _ _ closed => simp [closed] at opened
  | dropped | droppedAcking => exact absurd rfl alive

private theorem pending_single (c : Server) : (pending c).length ≤ 1 := by
  unfold pending
  split <;> simp [Option.length_toList_le]

theorem Answers.step {c c' : Server} {action} (valid : Answers c) (effect : ServerEffect c action c') : Answers c' := by
  have all := answers_all valid effect
  refine ⟨all, fun opened => ?_, ?_⟩
  · by_cases alive : c'.reader = .dropped
    · have before := server_closed effect opened
      cases effect with
      | endpoint effect =>
        rw [(endpoint_ids effect).2, endpoint_acks effect]
        exact valid.cut before
      | ignored | writerExit | dropped | droppedAcking => exact valid.cut before
      | writerStop => simp at opened
      | routing now | closed now | skipped now => simp [received, now] at alive
      | _ => cases alive
    · exact ⟨pending c', all opened alive, pending_single c'⟩
  have longer := valid.some.trans (openIds_isPrefix (server_dispatched effect))
  cases effect with
  | endpoint effect => rw [endpoint_acks effect]; exact longer
  | refused _ accepts | acked _ _ accepts =>
    rw [all (accepts.same.trans accepts.receiver) (by simp)]
    exact List.prefix_append _ _
  | _ => exact longer

/-- While the reader waits for a connect, the OPEN is the last frame it took. -/
def Latest (c : Server) : Prop :=
  ∀ id dest, c.reader = .connecting id dest → ∃ before, c.dispatched = before ++ [.openStream id dest]

theorem latest_step {c c' : Server} {action} (valid : Latest c) (effect : ServerEffect c action c') : Latest c' := by
  intro id dest now
  cases effect with
  | endpoint effect => rw [(endpoint_ids effect).2]; exact valid id dest now
  | opening => cases now; exact ⟨c.dispatched, rfl⟩
  | ignored | writerExit | writerStop => exact valid id dest now
  | routing running | closed running | skipped running => simp [received, running] at now
  | _ => cases now

/-! ### The invariant -/

/-- HELLO comes first, and until the session is admitted nothing else happens. -/
structure Admitted (c : Server) : Prop where
  order : InOrder [] c.toEndpoint
  hello : c.reader = .hello → c.dispatched = []
  waiting : c.reader = .hello ∨ (∃ token, c.reader = .presenting token) → c.writer = .unspawned ∧ c.streams = []

theorem Admitted.step {c c' : Server} {action} (valid : Admitted c) (effect : ServerEffect c action c') : Admitted c' := by
  obtain ⟨⟨closed, placed⟩, hello, waiting⟩ := valid
  cases effect with
  | endpoint effect =>
    refine ⟨endpoint_inOrder effect ⟨closed, placed⟩, ?_, ?_⟩
    · rw [(endpoint_ids effect).2]; exact hello
    · intro early
      obtain ⟨unspawned, none⟩ := waiting early
      cases effect with
      | pop writing | put writing | putFail writing => simp [unspawned] at writing
      | stream found | sent found | unsent found | finish found | unregister found => simp [none] at found
      | route _ found => simp [none] at found
  | accept now =>
    have unspawned := (waiting (.inr ⟨_, now⟩)).1
    rw [unspawned] at closed placed
    exact ⟨⟨by simpa using closed, by simp [placed]⟩, by simp, by simp⟩
  | hello now => exact ⟨⟨closed, placed⟩, by simp, fun _ => waiting (.inl now)⟩
  | refused now accepts => exact ⟨⟨by rw [accepts.same]; exact closed, by rw [accepts.taken]; exact placed⟩, by simp, by simp⟩
  | acked now _ accepts => exact ⟨⟨by rw [accepts.same]; exact closed, by rw [accepts.taken]; exact placed⟩, by simp, by simp⟩
  | ignored => exact ⟨⟨closed, placed⟩, hello, waiting⟩
  | writerExit finished _ receiving =>
    rw [receiving] at closed placed
    exact ⟨⟨by simpa using closed, by simp [placed]⟩, hello, fun early => by rcases finished with now | now <;> simp [now] at early⟩
  | writerStop stopping =>
    rw [stopping] at closed placed
    refine ⟨⟨by simp, placed⟩, hello, fun early => ?_⟩
    have unspawned := (waiting early).1
    rw [stopping] at unspawned
    cases unspawned
  | closed now | skipped now | routing now =>
    exact ⟨⟨closed, placed⟩, by simp [received, now], by simp [received, now]⟩
  | _ => exact ⟨⟨closed, placed⟩, by simp [Server.connected], by simp [Server.connected]⟩

structure Valid (c : Server) : Prop where
  streams : Streams c
  routes : Routes c
  opens : Opens c
  answers : Answers c
  latest : Latest c
  admitted : Admitted c

theorem Valid.initial : Valid Server.fresh := by
  refine ⟨⟨?_, ?_, ?_, ?_⟩, ⟨.empty, ?_⟩, ⟨⟨[], ?_, ?_, ?_⟩, ?_, ?_⟩, ⟨?_, ?_, ?_⟩, ?_, ⟨⟨?_, rfl, rfl⟩, ?_, ?_⟩⟩
  all_goals simp [Server.fresh, Endpoint.fresh, Attributed, waiting, pending, Latest]

theorem Valid.step {c c' : Server} {action} (valid : Valid c) (effect : ServerEffect c action c') : Valid c' :=
  ⟨valid.streams.step effect, valid.routes.step effect, valid.opens.step effect, valid.answers.step effect,
    latest_step valid.latest effect, valid.admitted.step effect⟩

theorem server_valid {allowed} {c : Server} (run : serverSystem.Reach allowed c) : Valid c := by
  refine run.invariant ?_ ?_
  · rintro c rfl
    exact .initial
  · intro before action after _ valid _ taken
    exact valid.step (server_effect taken)

/-- The writer of a session is spawned when the token is accepted. -/
theorem server_spawned {allowed} {c : Server} (run : serverSystem.Reach allowed c) (unspawned : c.writer = .unspawned) :
    c.reader = .hello ∨ (∃ token, c.reader = .presenting token) ∨ c.reader = .ended ∨ c.reader = .dropped := by
  refine run.invariant (p := fun c => c.writer = .unspawned → c.reader = .hello ∨
    (∃ token, c.reader = .presenting token) ∨ c.reader = .ended ∨ c.reader = .dropped) ?_ ?_ unspawned
  · rintro c rfl
    simp [Server.fresh]
  · intro before action after _ valid _ taken unspawned
    cases server_effect taken with
    | endpoint effect =>
      cases effect with
      | pop | put | putFail => cases unspawned
      | _ => exact valid unspawned
    | accept | writerExit | writerStop => cases unspawned
    | hello | unwelcome | reject | readerCloseAll | dropped | droppedAcking => simp
    | ignored => exact valid unspawned
    | routing now | closed now | skipped now | broken now | opening now | blocked now | connectFail now | refused now
    | unrefused now | acked now | unacked now | connectOk now => simpa [now] using valid unspawned

end EchoProxy.Proofs.ServerInvariant
