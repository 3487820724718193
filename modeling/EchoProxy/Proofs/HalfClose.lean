import EchoProxy.Proofs.EndToEnd
import EchoProxy.Proofs.Isolation

/-! What an end of a stream that has shut its sending side still gets. The relay ends
at the first end of file and gives up the stream's sender: what was routed before is
written, what is dispatched after is discarded. -/

namespace EchoProxy.Proofs.HalfClose
open EchoProxy Transition StreamFlow HandlerFlow EndpointSteps EndpointAccounts ClientSteps ServerSteps FrameSequences Places
  MuxInvariant Protocol Integrity Conservation EndToEnd Progress Quiescence Deadlock Isolation

/-- The relay loop has begun and has not unregistered its stream. -/
def Relaying {φ : Type} (s : Stream φ) : Prop := s.phase ≠ .front ∧ s.phase ≠ .done

/-- The stream has entered its relay and its socket takes writes. -/
structure Served {φ : Type} (s : Stream φ) : Prop where
  relayed : s.task ≠ .absent
  writable : s.socket.writable = true
  unfailed : ∀ rest, s.task ≠ .failed rest

/-! ### What is routed is written -/

private theorem idle_at_rest {φ : Type} {live : Prop} {e : Endpoint φ} {k : Nat} {s : Stream φ} (stuck : Stuck e)
    (wired : Wired live e.registry e.routing e.streams) (alive : live) (found : e.streams[k]? = some s)
    (drained : s.channel.queue = []) : s.arriving = none := by
  by_contra held
  obtain ⟨_, there, -, full⟩ := stuck.route wired (wired.arriving alive k s found held)
  cases found.symm.trans there
  simp [drained] at full

/-- A write task at rest has taken everything routed to its stream and written it. -/
theorem rest_written {φ : Type} {greeting : Bytes} {live : Prop} {e : Endpoint φ} {k : Nat} {s : Stream φ} (stuck : Stuck e)
    (wired : Wired live e.registry e.routing e.streams) (alive : live) (finished : Finished e.registry e.streams)
    (found : e.streams[k]? = some s) (inbound : Inbound greeting s) (busy : Busy s) (served : Served s) :
    s.channel.queue = [] ∧ s.arriving = none ∧ s.task.rest = [] ∧ s.socket.written = greeting ++ s.inflow.flatten := by
  obtain ⟨relayed, written, taken⟩ := inbound.written served.relayed
  cases task : s.task with
  | absent => exact absurd task served.relayed
  | failed rest => exact absurd task (served.unfailed rest)
  | writing rest =>
    have left : rest ≠ [] := by
      intro none
      exact busy (none ▸ task)
    have stalled := stuck.write found task left
    simp [served.writable] at stalled
  | waiting =>
    have drained := stuck.recv found task
    have idle := idle_at_rest stuck wired alive found drained
    have received := inbound.queued (inbound.attended.mpr (.inr (.inl task)))
    simp only [Channel.history, drained, idle, Option.toList_none, List.append_nil] at received
    simp only [task, WriteTask.rest, List.append_nil] at taken
    exact ⟨drained, idle, rfl, by rw [written, taken, received]⟩
  | ended =>
    obtain ⟨-, idle, drained, received⟩ := finished k s found task
    simp only [task, WriteTask.rest, List.append_nil] at taken
    exact ⟨drained, idle, rfl, by rw [written, taken, received]⟩

/-! ### What is dispatched is routed -/

private theorem Effect.relaying {φ : Type} {s s' : Stream φ} {move} (effect : Effect s move s') (relaying : Relaying s') :
    Relaying s := by
  cases effect with
  | read now | readEnd now | readError now | sentData now | sentClose now | unsentData now | unsentClose now => simp [Relaying, now]
  | unregister => simp [Relaying] at relaying
  | _ => exact relaying

private theorem server_kind : ServerKind fun s => s.phase = .front ∨ Relaying s where
  front := .inl
  before stepped := Or.imp stepped.stays.mp (Effect.relaying stepped)
  unregistered stepped := by
    cases stepped
    simp [Relaying]

private theorem client_kind : ClientKind fun s => ClientListening s ∨ Relaying s where
  unaccepted := by simp [ClientListening, Reading, Relaying, Stream.fresh]
  before stepped := Or.imp (clientListening_kind.before stepped) (Effect.relaying stepped)
  handled {s s' move} stepped other listens := by
    rcases listens with listens | relaying
    · exact .inl (clientListening_kind.handled stepped other listens)
    · cases stepped with
      | ack => exact .inr relaying
      | registered => exact absurd rfl other
      | inserted front stage | opened front stage | granted front stage | greet front stage | greeted front stage
      | forwarded front stage => exact .inl (.inl ⟨front, by simp [stage]⟩)
      | unopened front | refused front | greetError front | unforwarded front | left front | reply front =>
        simp [Relaying, Stream.setStage, front] at relaying
      | leftSilently | replied | replyError => simp [Relaying, Stream.abandon] at relaying
  unregistered stepped := by
    cases stepped
    simp [ClientListening, Reading, Relaying]
  left {s s'} stepped listens := by
    rcases listens with listens | relaying
    · exact clientListening_kind.left stepped listens
    · cases stepped with
      | left front => simp [Relaying, Stream.setStage, front] at relaying
      | leftSilently => simp [Relaying, Stream.abandon] at relaying
      | refused _ _ _ which => simp at which

/-- The stream keeps its place, its id and what it was routed. -/
def Grown {φ : Type} (k : Nat) (s : Stream φ) (streams : List (Stream φ)) : Prop :=
  ∃ s', streams[k]? = some s' ∧ s'.id = s.id ∧ s.inflow <+: s'.inflow

private theorem Grown.set {φ : Type} {streams : List (Stream φ)} {j k : Nat} {s t t' : Stream φ} (grown : Grown k s streams)
    (found : streams[j]? = some t) (own : t'.id = t.id) (inflow : t.inflow <+: t'.inflow) : Grown k s (streams.set j t') := by
  apply exists_set found _ grown
  intro holds
  exact ⟨own.trans holds.1, holds.2.trans inflow⟩

private theorem Grown.append {φ : Type} {streams : List (Stream φ)} {k : Nat} {s new : Stream φ} (grown : Grown k s streams) :
    Grown k s (streams ++ [new]) := by
  obtain ⟨s', there, same, front⟩ := grown
  have inside := (List.getElem?_eq_some_iff.mp there).1
  exact ⟨s', by rwa [List.getElem?_append_left inside], same, front⟩

private theorem Effect.grows {φ : Type} {s s' : Stream φ} {move} (effect : Effect s move s') : s.inflow <+: s'.inflow := by
  cases effect with
  | lookup => exact List.prefix_append _ _
  | _ => exact List.prefix_refl _

private theorem client_grown {c : Client} {streams : List (Stream Handler)} {k : Nat} {s : Stream Handler}
    (change : ClientInvariant.StreamChange c streams) (grown : Grown k s c.streams) : Grown k s streams := by
  cases change with
  | same => exact grown
  | shared found stepped => exact grown.set found stepped.same.1 (Effect.grows stepped)
  | handler found stepped => exact grown.set found stepped.same.1 (stepped.same.2.2.1 ▸ List.prefix_refl _)
  | accept => exact grown.append

private theorem server_grown {c : Server} {streams : List (Stream Opened)} {k : Nat} {s : Stream Opened}
    (change : ServerInvariant.StreamChange c streams) (grown : Grown k s c.streams) : Grown k s streams := by
  cases change with
  | same => exact grown
  | shared found stepped => exact grown.set found stepped.same.1 (Effect.grows stepped)
  | acked _ found | unacked _ found | abandoned _ found => exact grown.set found rfl (List.prefix_refl _)
  | connected => exact grown.append

section Run
variable {capacity : Nat} {token : String} {resilient : Bool} {before after : Mux} {actions : List MuxAction}

private theorem client_kept (ran : (muxSystem capacity token resilient).exec before actions = some after) {k : Nat}
    {s : Stream Handler} (found : before.client.streams[k]? = some s) : Grown k s after.client.streams := by
  refine System.exec_preserves (p := fun m => Grown k s m.client.streams) ?_ ran ⟨s, found, rfl, List.prefix_refl _⟩
  intro m action m' grown taken
  cases mux_effect taken with
  | client stepped => exact client_grown (ClientInvariant.client_streams (client_effect stepped)) grown
  | server => exact grown

private theorem server_kept (ran : (muxSystem capacity token resilient).exec before actions = some after) {k : Nat}
    {u : Stream Opened} (found : before.server.streams[k]? = some u) : Grown k u after.server.streams := by
  refine System.exec_preserves (p := fun m => Grown k u m.server.streams) ?_ ran ⟨u, found, rfl, List.prefix_refl _⟩
  intro m action m' grown taken
  cases mux_effect taken with
  | client => exact grown
  | server stepped => exact server_grown (ServerInvariant.server_streams (server_effect stepped)) grown

private theorem earlier_distinct (ran : (muxSystem capacity token resilient).exec before actions = some after)
    (distinct : Distinct after.client.streams) : Distinct before.client.streams := by
  by_contra clash
  refine System.exec_preserves (p := fun m => ¬ Distinct m.client.streams) ?_ ran clash distinct
  intro m action m' clash taken distinct
  cases mux_effect taken with
  | client stepped => exact clash (ClientInvariant.Distinct.before (client_effect stepped) distinct)
  | server => exact clash distinct

private theorem earlier_up (run : (muxSystem capacity token resilient).Reachable before)
    (ran : (muxSystem capacity token resilient).exec before actions = some after) (clientUp : ClientUp after.client)
    (serverUp : ServerUp after.server) : ClientUp before.client ∧ ServerUp before.server := by
  by_contra down
  refine (System.exec_preserves (p := fun m => (muxSystem capacity token resilient).Reachable m ∧
    ¬ (ClientUp m.client ∧ ServerUp m.server)) ?_ ran ⟨run, down⟩).2 ⟨clientUp, serverUp⟩
  intro m action m' held taken
  refine ⟨held.1.step trivial taken, ?_⟩
  intro up
  apply held.2
  cases mux_effect taken with
  | client stepped => exact ⟨up.1.before (ClientInvariant.client_valid (client_reach held.1)) (client_effect stepped), up.2⟩
  | server stepped => exact ⟨up.1, up.2.before (ServerInvariant.server_valid (server_reach held.1)) (server_effect stepped)⟩

/-- Everything dispatched for a stream is routed to it as long as it is in its relay. -/
private theorem client_routed (run : (muxSystem capacity token resilient).Reachable before)
    (distinct : Distinct before.client.streams) (up : ClientUp before.client) {k : Nat} {s : Stream Handler}
    (found : before.client.streams[k]? = some s) (relaying : Relaying s) :
    s.inflow = payloads s.id before.client.dispatched := by
  rcases client_allFed client_kind run distinct up k s found (.inr relaying) with registered | ⟨-, whole⟩
  · exact ((both_delivered run distinct).1 k s found).2 registered
  · exact whole

private theorem server_routed (run : (muxSystem capacity token resilient).Reachable before)
    (distinct : Distinct before.client.streams) (up : ServerUp before.server) {k : Nat} {u : Stream Opened}
    (found : before.server.streams[k]? = some u) (relaying : Relaying u) :
    u.inflow = payloads u.id before.server.dispatched := by
  rcases server_allFed server_kind run distinct up k u found (.inr relaying) with registered | ⟨-, whole⟩
  · exact ((both_delivered run distinct).2 k u found).2 registered
  · exact whole

end Run

/-! ### A connection at rest -/

section Rest
variable {capacity : Nat} {token : String} {resilient : Bool} {m : Mux}

private theorem unheld {φ : Type} {e : Endpoint φ} {k : Nat} {s : Stream φ} (stuck : Stuck e) (drained : e.frames.queue = [])
    (found : e.streams[k]? = some s) : held s.phase = [] := by
  cases phase : s.phase with
  | sending bytes =>
    have waits : s.outgoing = some (.data s.id bytes) := by simp [Stream.outgoing, phase]
    have full := (stuck.send found waits).2
    simp [drained] at full
  | _ => rfl

/-- A client whose reader is not suspended has nothing left to come in. -/
theorem download_empty (run : (muxSystem capacity token resilient).Reachable m) (rest : AtRest capacity m)
    (free : ¬ ClientSuspended m) : m.download = [] ∧ m.server.writer = .receiving ∧ m.server.frames.queue = [] := by
  obtain ⟨up, quiet⟩ := rest
  have settled := settled run up quiet
  have empty : m.download = [] := (settled.clientReader.resolve_right free).2
  rcases settled.serverWriter with ⟨receiving, drained⟩ | ⟨-, full⟩
  · exact ⟨empty, receiving, drained⟩
  · have room := capacity_pos run (client_greeted run up.attached)
    rw [empty, List.length_nil] at full
    omega

theorem upload_empty (run : (muxSystem capacity token resilient).Reachable m) (rest : AtRest capacity m)
    (free : ¬ ServerSuspended m) : m.upload = [] ∧ m.client.writer = .receiving ∧ m.client.frames.queue = [] := by
  obtain ⟨up, quiet⟩ := rest
  have settled := settled run up quiet
  have empty : m.upload = [] := (settled.serverReader.resolve_right free).2.2
  rcases settled.clientWriter with ⟨receiving, drained⟩ | ⟨-, full⟩
  · exact ⟨empty, receiving, drained⟩
  · have room := capacity_pos run (client_greeted run up.attached)
    rw [empty, List.length_nil] at full
    omega

end Rest

/-- What a stream that was `s` and takes writes has got of what its twin `t` sent. -/
structure Pumped {φ ψ : Type} (reply first : Bytes) (t : Stream ψ) (dispatched : List Frame) (suspended : Prop) (s s' : Stream φ) :
    Prop where
  written : s'.socket.written = reply ++ s'.inflow.flatten
  front : s'.inflow.flatten <+: first ++ t.socket.chunks.flatten
  /-- What was dispatched before the relay unregisters is written. -/
  kept : Relaying s → payloads s.id dispatched <+: s'.inflow
  /-- A relay that has not seen the end of its socket gets everything. -/
  whole : Reading s' → t.task ≠ .absent → ¬ suspended → s'.inflow.flatten = first ++ t.socket.chunks.flatten

section Ends
variable {capacity : Nat} {token : String} {resilient : Bool} {before after : Mux} {actions : List MuxAction}

theorem client_pumped (run : (muxSystem capacity token resilient).Reachable before)
    (ran : (muxSystem capacity token resilient).exec before actions = some after) (distinct : Distinct after.client.streams)
    (rest : AtRest capacity after) {k : Nat} {s s' : Stream Handler} (found : before.client.streams[k]? = some s)
    (found' : after.client.streams[k]? = some s') (served : Served s') :
    ∃ u ∈ after.server.streams, u.id = s'.id ∧
      Pumped (successReply s'.front.tunnel) [] u before.client.dispatched (ClientSuspended after) s s' := by
  have later := run.exec (fun _ _ => trivial) ran
  have client := ClientInvariant.client_valid (client_reach later)
  have here := List.mem_of_getElem? found'
  have clientUp := rest.1.client
  have serverUp := rest.1.server
  obtain ⟨u, there, same, -⟩ := server_twin later distinct here served.relayed
  obtain ⟨queue, idle, left, written⟩ := rest_written rest.2.client_stuck client.wired trivial (both_finished later).1 found'
    (client.streams.handled s' here).inbound (client_busy (client_reach later) s' here).1 served
  obtain ⟨_, there', -, grown⟩ := client_kept ran found
  cases found'.symm.trans there'
  refine ⟨u, there, same, ⟨by rw [written, greeting_successReply], ?_, ?_, ?_⟩⟩
  · exact flatten_isPrefix (routed_downstream later distinct here there same.symm)
  · intro relaying
    exact client_routed run (earlier_distinct ran distinct) (earlier_up run ran clientUp serverUp).1 found relaying ▸ grown
  · intro reading _ free
    obtain ⟨i, place⟩ := List.getElem?_of_mem there
    obtain ⟨wire, receiving, drained⟩ := download_empty later rest free
    have all := downloaded later distinct clientUp serverUp here there same.symm reading served.unfailed
    simp only [underway, queue, idle, wire, receiving, inHand, drained, unheld rest.2.server_stuck drained place, left, written,
      onWire, payloads] at all
    simpa using all

theorem server_pumped (run : (muxSystem capacity token resilient).Reachable before)
    (ran : (muxSystem capacity token resilient).exec before actions = some after) (distinct : Distinct after.client.streams)
    (rest : AtRest capacity after) {k : Nat} {u u' : Stream Opened} (found : before.server.streams[k]? = some u)
    (found' : after.server.streams[k]? = some u') (served : Served u') :
    ∃ s ∈ after.client.streams, s.id = u'.id ∧
      Pumped [] (forwarded s.front.tunnel) s before.server.dispatched (ServerSuspended after) u u' := by
  have later := run.exec (fun _ _ => trivial) ran
  have server := ServerInvariant.server_valid (server_reach later)
  have there := List.mem_of_getElem? found'
  have clientUp := rest.1.client
  have serverUp := rest.1.server
  obtain ⟨s, here, same⟩ := client_twin later distinct there
  obtain ⟨queue, idle, left, written⟩ := rest_written rest.2.server_stuck server.routes.wired serverUp.reader.2.2
    ((both_finished later).2 serverUp.reader.2.2) found' (server.streams.relayed u' there).inbound (server_busy later u' there) served
  obtain ⟨_, there', -, grown⟩ := server_kept ran found
  cases found'.symm.trans there'
  refine ⟨s, here, same, ⟨written, ?_, ?_, ?_⟩⟩
  · have front := flatten_isPrefix (routed_upstream later distinct here there same)
    rwa [List.flatten_append, prelude_forwarded] at front
  · intro relaying
    exact server_routed run (earlier_distinct ran distinct) (earlier_up run ran clientUp serverUp).2 found relaying ▸ grown
  · intro reading relaying free
    obtain ⟨i, place⟩ := List.getElem?_of_mem here
    obtain ⟨wire, receiving, drained⟩ := upload_empty later rest free
    have all := uploaded later distinct clientUp serverUp here there same relaying reading served.unfailed
    simp only [underway, queue, idle, wire, receiving, inHand, drained, unheld rest.2.client_stuck drained place, left, written,
      onWire, payloads, prelude_forwarded, List.flatten_append] at all
    simpa using all

end Ends

/-- A connection at rest has written, to each socket that takes writes, what had been
dispatched for the stream at any moment before its relay unregistered it. -/
theorem half_close_keeps (capacity : Nat) (token : String) (resilient : Bool) (before after : Mux) (actions : List MuxAction)
    (run : (muxSystem capacity token resilient).Reachable before)
    (ran : (muxSystem capacity token resilient).exec before actions = some after) (distinct : Distinct after.client.streams)
    (rest : AtRest capacity after) :
    (∀ (k : Nat) (s s' : Stream Handler), before.client.streams[k]? = some s → after.client.streams[k]? = some s' → Served s' →
        ∃ u ∈ after.server.streams, u.id = s'.id ∧
          Pumped (successReply s'.front.tunnel) [] u before.client.dispatched (ClientSuspended after) s s') ∧
      ∀ (k : Nat) (u u' : Stream Opened), before.server.streams[k]? = some u → after.server.streams[k]? = some u' → Served u' →
        ∃ s ∈ after.client.streams, s.id = u'.id ∧
          Pumped [] (forwarded s.front.tunnel) s before.server.dispatched (ServerSuspended after) u u' := by
  constructor
  · intro k s s' found found' served
    exact client_pumped run ran distinct rest found found' served
  · intro k u u' found found' served
    exact server_pumped run ran distinct rest found found' served

/-- The local application ends its sending side after the SOCKS5 reply; the answer the
upstream then sends finds the stream unregistered. -/
private def halfClosed : List MuxAction :=
  oneTunnel.take 17 ++ [.client (.endpoint (.stream 0 .shut)), .client (.endpoint (.stream 0 .readEnd)), .client (.endpoint (.send 0))] ++
    clientWrites ++ [.client (.endpoint (.unregister 0)), .client (.endpoint (.finish 0)), .server (.incoming (Frame.close 1).message),
      .server (.endpoint (.finish 0)), .server (.endpoint (.stream 0 (.arrive [9])))] ++ serverReads 0 ++ serverWrites ++
    [.client (.incoming (Frame.data 1 [9]).message)]

private theorem halfClosed_runs : ∃ m, (muxSystem 1 "t" true).Reachable m ∧ Distinct m.client.streams ∧ AtRest 1 m ∧
    ∃ s u, m.client.streams = [s] ∧ m.server.streams = [u] ∧ s.id = u.id ∧ s.socket.shut = true ∧ Served s ∧
      s.front.tunnel = .socksViaMuxWithTimeout "1.1.1.1:80" ∧ s.socket.written = socks5Reply socks5RepSuccess ∧ u.socket.chunks = [[9]] := by
  have executed : ((muxSystem 1 "t" true).exec ⟨Client.fresh "t" true, Server.fresh, [], []⟩ halfClosed).any (fun m =>
      isResting 1 m && decide (
        m.client.streams.map (fun s => ((s.id, s.socket.shut), (s.socket.writable, s.task), s.front.tunnel, s.socket.written)) =
          [((1, true), (true, .ended), .socksViaMuxWithTimeout "1.1.1.1:80", socks5Reply socks5RepSuccess)] ∧
        m.server.streams.map (fun u => (u.id, u.socket.chunks)) = [(1, [[9]])])) = true := by decide +kernel
  obtain ⟨m, run, up, quiet, view⟩ := resting_reached executed
  obtain ⟨local', upstream⟩ := of_decide_eq_true view
  obtain ⟨s, streams, shape⟩ := List.map_eq_singleton_iff.mp local'
  obtain ⟨u, opened, shape'⟩ := List.map_eq_singleton_iff.mp upstream
  simp only [Prod.mk.injEq] at shape shape'
  obtain ⟨⟨id, shut⟩, ⟨writable, task⟩, tunnel, written⟩ := shape
  refine ⟨m, run, by simp [Distinct, streams], ⟨up, quiet⟩, s, u, streams, opened,
    id.trans shape'.1.symm, shut, ⟨by simp [task], writable, by simp [task]⟩, tunnel, written, shape'.2⟩

/-- The answer is not written. -/
theorem half_close_truncates : ∃ m, (muxSystem 1 "t" true).Reachable m ∧ Distinct m.client.streams ∧ AtRest 1 m ∧
    ∃ s ∈ m.client.streams, ∃ u ∈ m.server.streams, s.id = u.id ∧ s.socket.shut = true ∧ Served s ∧
      s.socket.written ≠ successReply s.front.tunnel ++ u.socket.chunks.flatten := by
  obtain ⟨m, run, distinct, rest, s, u, streams, opened, same, shut, served, tunnel, written, chunks⟩ := halfClosed_runs
  refine ⟨m, run, distinct, rest, s, by simp [streams], u, by simp [opened], same, shut, served, ?_⟩
  rw [written, chunks, tunnel]
  simp [successReply]

theorem half_closed_pumped : ∃ (m : Mux) (s : Stream Handler) (u : Stream Opened), s.socket.shut = true ∧
    Pumped (socks5Reply socks5RepSuccess) [] u m.client.dispatched (ClientSuspended m) s s := by
  obtain ⟨m, run, distinct, rest, s, u, streams, opened, same, shut, served, tunnel, written, chunks⟩ := halfClosed_runs
  obtain ⟨downloads, -⟩ := half_close_keeps 1 "t" true m m [] run rfl distinct rest
  obtain ⟨u', there, -, pumped⟩ := downloads 0 s s (by simp [streams]) (by simp [streams]) served
  have own : u' = u := by simpa [opened] using there
  subst own
  rw [tunnel] at pumped
  exact ⟨m, s, u', shut, pumped⟩

end EchoProxy.Proofs.HalfClose
