import EchoProxy.Proofs.StreamEnd
import EchoProxy.Proofs.Work

/-! Everything that was sent arrives. The programs' own steps keep a connection up and
its relays running, and when they come to an end the bytes are written. -/

namespace EchoProxy.Proofs.Arrival
open EchoProxy Transition StreamFlow HandlerFlow EndpointSteps ClientSteps ServerSteps MuxInvariant Places Protocol Conservation EndToEnd
  Progress Quiescence Isolation StreamEnd HalfClose

/-! ### One endpoint -/

/-- The relay runs in both directions: neither side of the stream's endpoint has ended. -/
structure Flowing {φ : Type} (s : Stream φ) : Prop where
  reading : Reading s
  unshut : s.socket.shut = false
  writable : s.socket.writable = true
  unfailed : ∀ rest, s.task ≠ .failed rest

/-- The stream `s'` is `s` later on: it still relays, and its endpoint has sent nothing
in between. `role` is what the front keeps for good. -/
structure Later {φ α : Type} (role : φ → α) (s s' : Stream φ) : Prop where
  id : s'.id = s.id
  role : role s'.front = role s.front
  flowing : Flowing s'
  sent : sent s'.socket = sent s.socket

theorem Flowing.now {φ α : Type} {role : φ → α} {s : Stream φ} (flowing : Flowing s) : Later role s s :=
  ⟨rfl, rfl, flowing, rfl⟩

theorem Later.trans {φ α : Type} {role : φ → α} {s t u : Stream φ} (first : Later role s t)
    (second : Later role t u) :
    Later role s u :=
  ⟨second.id.trans first.id, second.role.trans first.role, second.flowing, second.sent.trans first.sent⟩

/-- The moves of the stream's tasks and of the reader, as long as nothing fails. -/
private def own : Stream.Move → Prop
  | .arrive _ | .shut | .setWritable _ | .readError | .writeError | .unsent => False
  | _ => True

private theorem own_of_internal {move : Stream.Move} (kind : move.isInternal = true) : own move := by
  cases move <;> simp_all [own, Stream.Move.isInternal]

private theorem writeAll_unfailed (bytes rest : Bytes) : WriteTask.writeAll bytes ≠ .failed rest := by
  unfold WriteTask.writeAll
  split <;> simp

private theorem Effect.later {φ α : Type} {role : φ → α} {s s' : Stream φ} {move}
    (effect : Effect s move s') (kind : own move) (flowing : Flowing s) : Later role s s' := by
  obtain ⟨reading, unshut, writable, unfailed⟩ := flowing
  cases effect with
  | arrive | shut | setWritable | readError | unsentData | unsentClose | writeError => exact kind.elim
  | read => exact ⟨rfl, rfl, ⟨.inr ⟨_, rfl⟩, unshut, writable, unfailed⟩, by simp [sent]⟩
  | readEnd _ _ shut => exact absurd (unshut.symm.trans shut) (by simp)
  | sentData => exact ⟨rfl, rfl, ⟨.inl rfl, unshut, writable, unfailed⟩, rfl⟩
  | sentClose now | unregister now => simp [Reading, now] at reading
  | recv | write => exact ⟨rfl, rfl, ⟨reading, unshut, writable, writeAll_unfailed _⟩, rfl⟩
  | finish => exact ⟨rfl, rfl, ⟨reading, unshut, writable, by simp⟩, rfl⟩
  | lookup | discarded | routed => exact ⟨rfl, rfl, ⟨reading, unshut, writable, unfailed⟩, rfl⟩

/-- The stream keeps its place and flows on. -/
def Flows {φ α : Type} (role : φ → α) (k : Nat) (s : Stream φ) (streams : List (Stream φ)) : Prop :=
  ∃ s', streams[k]? = some s' ∧ Later role s s'

private theorem Flows.set {φ α : Type} {role : φ → α} {streams : List (Stream φ)} {j k : Nat} {s t t' : Stream φ}
    (flows : Flows role k s streams) (found : streams[j]? = some t) (later : Flowing t → Later role t t') :
    Flows role k s (streams.set j t') := by
  apply exists_set found _ flows
  intro holds
  exact holds.trans (later holds.flowing)

private theorem endpoint_flows {φ α : Type} {role : φ → α} {e e' : Endpoint φ} {action} {k : Nat} {s : Stream φ}
    (effect : EndpointEffect e action e') (kind : action.isInternal = true) (opened : e.frames.receiver = true)
    (flows : Flows role k s e.streams) : Flows role k s e'.streams := by
  cases effect with
  | pop | put => exact flows
  | putFail => cases kind
  | stream found _ stepped => exact flows.set found (Effect.later stepped (own_of_internal kind))
  | sent found _ _ stepped | unregister found stepped | finish found _ stepped | route _ found stepped =>
    exact flows.set found (Effect.later stepped trivial)
  | unsent _ _ closed => simp [opened] at closed

/-! ### The two ends -/

private theorem HandlerEffect.later {s s' : Stream Handler} {move} (effect : HandlerEffect s move s')
    (flowing : Flowing s) :
    Later Handler.tunnel s s' := by
  have past : s.phase ≠ .front := by
    rcases flowing.reading with now | ⟨bytes, now⟩ <;> simp [now]
  cases effect with
  | ack => exact ⟨rfl, rfl, ⟨flowing.reading, flowing.unshut, flowing.writable, flowing.unfailed⟩, rfl⟩
  | registered front | inserted front | opened front | unopened front | granted front | refused front | greet front | greeted front
  | greetError front | forwarded front | unforwarded front | left front | leftSilently front | reply front | replied front
  | replyError front => exact absurd front past

section Client
variable {c c' : Client} {action : ClientAction}

private theorem client_flows {k : Nat} {s : Stream Handler} (effect : ClientEffect c action c')
    (kind : action.isInternal = true)
    (opened : c.frames.receiver = true) (flows : Flows Handler.tunnel k s c.streams) :
    Flows Handler.tunnel k s c'.streams := by
  cases effect with
  | connect | connectFail | accept | release => cases kind
  | register found stepped | insertAck found stepped | sent found _ _ _ stepped | unsent found _ _ _ stepped
  | ackLost found _ stepped | leave found stepped | handler found _ stepped | acked _ _ _ _ found stepped =>
    exact flows.set found (HandlerEffect.later stepped)
  | endpoint effect => exact endpoint_flows effect kind opened flows
  | routing _ _ _ _ found stepped => exact flows.set found (Effect.later stepped trivial)
  | _ => exact flows

/-- The programs' own steps leave the client's side of a connection up. -/
private theorem client_stays (effect : ClientEffect c action c') (kind : action.isInternal = true)
    (attached : c.link = .attached)
    (running : c.reader = .running) (writer : c.writer ≠ .stopping ∧ c.writer ≠ .ended) :
    c'.link = .attached ∧ c'.reader = .running ∧ c'.writer ≠ .stopping ∧ c'.writer ≠ .ended := by
  cases effect with
  | connect | connectFail | accept | release | broken => cases kind
  | endpoint effect =>
    cases effect with
    | putFail => cases kind
    | pop | put => exact ⟨attached, running, by simp⟩
    | _ => exact ⟨attached, running, writer⟩
  | readerCloseAll now | readerClear now => simp [running] at now
  | writerExit now | releaseClear now | releaseCloseAll now => simp [attached] at now
  | writerStop now => exact absurd now writer.1
  | _ => exact ⟨attached, running, writer⟩

private theorem distinct_set {φ : Type} {streams : List (Stream φ)} {k : Nat} {s s' : Stream φ}
    (distinct : Distinct streams)
    (found : streams[k]? = some s) (same : s'.id = s.id) : Distinct (streams.set k s') := by
  rw [Distinct, set_ids found same]
  exact distinct

/-- Only an accepted connection brings a new stream. -/
private theorem client_distinct (effect : ClientEffect c action c') (kind : action.isInternal = true)
    (distinct : Distinct c.streams) : Distinct c'.streams := by
  cases effect with
  | connect | connectFail | accept | release => cases kind
  | register found stepped | insertAck found stepped | sent found _ _ _ stepped | unsent found _ _ _ stepped
  | ackLost found _ stepped | leave found stepped | handler found _ stepped | acked _ _ _ _ found stepped =>
    exact distinct_set distinct found stepped.same.1
  | routing _ _ _ _ found stepped => exact distinct_set distinct found stepped.same.1
  | endpoint effect =>
    cases effect with
    | pop | put | putFail => exact distinct
    | stream found _ stepped | sent found _ _ stepped | unsent found _ _ stepped | unregister found stepped
    | finish found _ stepped | route _ found stepped => exact distinct_set distinct found stepped.same.1
  | _ => exact distinct

end Client

section Server
variable {c c' : Server} {action : ServerAction}

private theorem acked_later {u : Stream Opened} (frames : List Frame) (flowing : Flowing u) :
    Later Opened.dest u (acked u frames) :=
  ⟨rfl, rfl, ⟨.inl rfl, flowing.unshut, flowing.writable, by simp [acked, Stream.relay]⟩, rfl⟩

private theorem server_flows {k : Nat} {u : Stream Opened} (effect : ServerEffect c action c')
    (kind : action.isInternal = true)
    (opened : c.frames.receiver = true) (flows : Flows Opened.dest k u c.streams) :
    Flows Opened.dest k u c'.streams := by
  cases effect with
  | connectOk | connectFail | dropped | droppedAcking => cases kind
  | endpoint effect => exact endpoint_flows effect kind opened flows
  | routing _ _ _ _ found stepped => exact flows.set found (Effect.later stepped trivial)
  | acked _ found | unacked _ found => exact flows.set found (acked_later _)
  | _ => exact flows

/-- The session has been admitted and is not over. -/
def Admitted (c : Server) : Prop :=
  c.reader = .running ∨ (∃ id dest, c.reader = .connecting id dest) ∨ (∃ k, c.reader = .acking k) ∨
    ∃ id, c.reader = .refusing id

/-- The programs' own steps leave the server's side of a connection up. -/
private theorem server_stays (effect : ServerEffect c action c') (kind : action.isInternal = true)
    (admitted : Admitted c) (writer : c.writer ≠ .stopping ∧ c.writer ≠ .ended) :
    Admitted c' ∧ c'.writer ≠ .stopping ∧ c'.writer ≠ .ended := by
  cases effect with
  | connectOk | connectFail | dropped | droppedAcking | broken => cases kind
  | endpoint effect =>
    cases effect with
    | putFail => cases kind
    | pop | put => exact ⟨admitted, by simp⟩
    | _ => exact ⟨admitted, writer⟩
  | opening => exact ⟨.inr (.inl ⟨_, _, rfl⟩), writer⟩
  | blocked => exact ⟨.inr (.inr (.inr ⟨_, rfl⟩)), writer⟩
  | refused | unrefused | acked | unacked => exact ⟨.inl rfl, writer⟩
  | hello now | accept now | reject now | readerCloseAll now | unwelcome now => simp [Admitted, now] at admitted
  | writerExit now => rcases now with now | now <;> simp [Admitted, now] at admitted
  | writerStop now => exact absurd now writer.1
  | _ => exact ⟨admitted, writer⟩

end Server

/-! ### The connection -/

/-- A connection that is up and admitted, with its stream ids distinct. -/
structure Standing (m : Mux) : Prop where
  connected : Connected m
  admitted : Admitted m.server
  distinct : Distinct m.client.streams

section Run
variable {capacity : Nat} {token : String} {resilient : Bool} {before after : Mux} {actions : List MuxAction}

private theorem standing_step {m m' : Mux} {action : MuxAction}
    (run : (muxSystem capacity token resilient).Reachable m)
    (standing : Standing m) (kind : action.isInternal = true)
    (taken : (muxSystem capacity token resilient).step m action = some m') :
    Standing m' := by
  obtain ⟨connected, admitted, distinct⟩ := standing
  cases mux_effect taken with
  | client moved =>
    have effect := client_effect moved
    have running := connected.running (ClientInvariant.client_valid (client_reach run))
    obtain ⟨attached, running, writer⟩ :=
      client_stays effect kind connected.attached running connected.client.writer
    exact ⟨⟨attached, ⟨.inr attached, .inr running, writer⟩, connected.server⟩, admitted,
      client_distinct effect kind distinct⟩
  | server moved =>
    obtain ⟨admitted, writer⟩ := server_stays (server_effect moved) kind admitted connected.server.writer
    refine ⟨⟨connected.attached, connected.client, ⟨?_, writer⟩⟩, admitted, distinct⟩
    rcases admitted with now | ⟨_, _, now⟩ | ⟨_, now⟩ | ⟨_, now⟩ <;> simp [now]

private theorem flows_step {m m' : Mux} {action : MuxAction} {j k : Nat} {s : Stream Handler} {u : Stream Opened}
    (run : (muxSystem capacity token resilient).Reachable m) (connected : Connected m)
    (kind : action.isInternal = true)
    (taken : (muxSystem capacity token resilient).step m action = some m')
    (here : Flows Handler.tunnel j s m.client.streams)
    (there : Flows Opened.dest k u m.server.streams) : Flows Handler.tunnel j s m'.client.streams ∧
      Flows Opened.dest k u m'.server.streams := by
  cases mux_effect taken with
  | client moved =>
    have client := ClientInvariant.client_valid (client_reach run)
    exact ⟨client_flows (client_effect moved) kind (client.started.order.accepting connected.client.writer.2) here, there⟩
  | server moved =>
    have server := ServerInvariant.server_valid (server_reach run)
    exact ⟨here, server_flows (server_effect moved) kind (server.admitted.order.accepting connected.server.writer.2) there⟩

private theorem standing_on (run : (muxSystem capacity token resilient).Reachable before)
    (standing : Standing before) (kinds : ∀ action ∈ actions, action.isInternal = true)
    (ran : (muxSystem capacity token resilient).exec before actions = some after) : Standing after := by
  refine (System.exec_keeps (p := fun m => (muxSystem capacity token resilient).Reachable m ∧
    Standing m) kinds ?_ ran
    ⟨run, standing⟩).2
  rintro m action m' ⟨run, standing⟩ kind taken
  exact ⟨run.step trivial taken, standing_step run standing kind taken⟩

private theorem flows_on (run : (muxSystem capacity token resilient).Reachable before)
    (standing : Standing before) (kinds : ∀ action ∈ actions, action.isInternal = true)
    (ran : (muxSystem capacity token resilient).exec before actions = some after) {j k : Nat} {s : Stream Handler}
    {u : Stream Opened} (here : Flows Handler.tunnel j s before.client.streams)
    (there : Flows Opened.dest k u before.server.streams) :
    Flows Handler.tunnel j s after.client.streams ∧ Flows Opened.dest k u after.server.streams := by
  refine (System.exec_keeps (p := fun m => ((muxSystem capacity token resilient).Reachable m ∧ Standing m) ∧
    Flows Handler.tunnel j s m.client.streams ∧
    Flows Opened.dest k u m.server.streams) kinds ?_ ran ⟨⟨run, standing⟩, here, there⟩).2
  rintro m action m' ⟨⟨run, standing⟩, here, there⟩ kind taken
  exact ⟨⟨run.step trivial taken, standing_step run standing kind taken⟩,
    flows_step run standing.connected kind taken here there⟩

end Run

/-- What the two ends of a stream have got, in the end, of what its endpoints had sent. -/
structure Arrived (m : Mux) (s s' : Stream Handler) (u u' : Stream Opened) : Prop where
  upstream : ¬ ServerSuspended m → u'.socket.written = forwarded s.front.tunnel ++ sent s.socket
  downstream : ¬ ClientSuspended m → s'.socket.written = successReply s.front.tunnel ++ sent u.socket

section Rest
variable {capacity : Nat} {token : String} {resilient : Bool} {m : Mux}

private theorem Flowing.served {φ : Type} {greeting : Bytes} {s : Stream φ} (flowing : Flowing s)
    (inbound : Inbound greeting s) :
    Served s := by
  refine ⟨?_, flowing.writable, flowing.unfailed⟩
  rcases flowing.reading with now | ⟨bytes, now⟩ <;> exact inbound.relaying (by simp [now]) (by simp [now])

/-- A relay at rest has read everything. -/
private theorem all_read {φ : Type} {e : Endpoint φ} {k : Nat} {s : Stream φ} (stuck : Stuck e)
    (found : e.streams[k]? = some s)
    (drained : e.frames.queue = []) (flowing : Flowing s) : sent s.socket = s.socket.chunks.flatten := by
  rcases flowing.reading with now | ⟨bytes, now⟩
  · simp [sent, (stuck.read found now).1]
  · have waits : s.outgoing = some (.data s.id bytes) := by simp [Stream.outgoing, now]
    have full := (stuck.send found waits).2
    simp [drained] at full

private theorem rest_arrived (run : (muxSystem capacity token resilient).Reachable m)
    (standing : Standing m) (quiet : Quiet capacity m)
    {j k : Nat} {s : Stream Handler} {u : Stream Opened} (here : m.client.streams[j]? = some s)
    (there : m.server.streams[k]? = some u) (same : s.id = u.id) (flowing : Flowing s)
    (flowing' : Flowing u) : Arrived m s s u u := by
  obtain ⟨connected, -, distinct⟩ := standing
  have rest : AtRest capacity m := ⟨connected, quiet⟩
  have client := ClientInvariant.client_valid (client_reach run)
  have server := ServerInvariant.server_valid (server_reach run)
  have local' := List.mem_of_getElem? here
  have upstream := List.mem_of_getElem? there
  have served := flowing.served (client.streams.handled s local').inbound
  have served' := flowing'.served (server.streams.relayed u upstream).inbound
  have nodup := server_nodup run distinct
  have stays : (muxSystem capacity token resilient).exec m [] = some m := rfl
  obtain ⟨done, settled⟩ := server.opens.settled
  constructor
  · intro free
    obtain ⟨twin, member, alike, pumped⟩ := server_pumped run stays distinct rest there there served'
    obtain ⟨i, found⟩ := List.getElem?_of_mem member
    cases distinct.same found here (alike.trans same.symm)
    cases found.symm.trans here
    have drained := (upload_empty run rest free).2.2
    rw [pumped.written, pumped.whole flowing'.reading served.relayed free,
      all_read quiet.client_stuck here drained flowing]
    rfl
  · intro free
    obtain ⟨twin, member, alike, pumped⟩ := client_pumped run stays distinct rest here here served
    obtain ⟨i, found⟩ := List.getElem?_of_mem member
    cases (settled.distinct nodup).same found there (alike.trans same)
    cases found.symm.trans there
    have drained := (download_empty run rest free).2.2
    rw [pumped.written, pumped.whole flowing.reading served'.relayed free,
      all_read quiet.server_stuck there drained flowing']
    rfl

end Rest

/-- The programs' own steps come to an end within the work there is, leave the connection
up, and then everything that had been sent to either end of a stream in its relay is
written at the other, unless the reader there waits for something else. -/
theorem sent_arrives (capacity : Nat) (token : String) (resilient : Bool) (before : Mux)
    (run : (muxSystem capacity token resilient).Reachable before) (standing : Standing before) :
    (∃ actions after, (∀ action ∈ actions, action.isInternal = true) ∧
      (muxSystem capacity token resilient).exec before actions = some after ∧ Quiet capacity after) ∧
    ∀ actions after, (∀ action ∈ actions, action.isInternal = true) →
      (muxSystem capacity token resilient).exec before actions = some after →
      actions.length ≤ Work.work before ∧ Standing after ∧ (Quiet capacity after →
        ∀ (j k : Nat) (s : Stream Handler) (u : Stream Opened), before.client.streams[j]? = some s →
          before.server.streams[k]? = some u → s.id = u.id → Flowing s → Flowing u →
          ∃ s' u', after.client.streams[j]? = some s' ∧ after.server.streams[k]? = some u' ∧
            Arrived after s s' u u') := by
  have ranked := Work.ranked capacity token resilient
  refine ⟨ranked.settles before, ?_⟩
  intro actions after kinds ran
  have bounded := ranked.exec_length kinds ran
  refine ⟨Nat.le_of_add_right_le bounded, standing_on run standing kinds ran, ?_⟩
  intro quiet j k s u here there same flowing flowing'
  obtain ⟨⟨s', here', later⟩, u', there', later'⟩ :=
    flows_on run standing kinds ran ⟨s, here, flowing.now⟩ ⟨u, there, flowing'.now⟩
  have arrived := rest_arrived (run.exec (fun _ _ => trivial) ran)
    (standing_on run standing kinds ran) quiet here' there'
    (later.id.trans (same.trans later'.id.symm)) later.flowing later'.flowing
  refine ⟨s', u', here', there', ?_, ?_⟩
  · rw [← later.sent, ← later.role]
    exact arrived.upstream
  · rw [← later'.sent, ← later.role]
    exact arrived.downstream

theorem oneTunnel_standing : ∃ m, (muxSystem 1 "t" true).Reachable m ∧ Standing m ∧
    ∃ s u, m.client.streams = [s] ∧ m.server.streams = [u] ∧ s.id = u.id ∧ Flowing s ∧ Flowing u ∧
      s.socket.chunks = [[7, 8]] := by
  have executed : ((muxSystem 1 "t" true).exec
      ⟨Client.fresh "t" true, Server.fresh, [], []⟩ Protocol.oneTunnel).any (fun m =>
      decide ((m.client.link = .attached ∧ m.client.reader = .running ∧ m.client.writer = .receiving) ∧
        (m.server.reader = .running ∧ m.server.writer = .receiving) ∧
        m.client.streams.map (fun s => ((s.id, s.phase, s.task), (s.socket.shut, s.socket.writable),
          s.socket.chunks)) =
          [((1, .reading, .waiting), (false, true), [[7, 8]])] ∧
        m.server.streams.map (fun u => ((u.id, u.phase, u.task), (u.socket.shut, u.socket.writable))) =
          [((1, .reading, .writing [8]), (false, true))])) = true := by decide +kernel
  obtain ⟨m, run, view⟩ := System.reached executed rfl
  obtain ⟨⟨attached, reader, writer⟩, ⟨session, sessionWriter⟩, handlers, upstreams⟩ := of_decide_eq_true view
  obtain ⟨s, streams, shape⟩ := List.map_eq_singleton_iff.mp handlers
  obtain ⟨u, opened, shape'⟩ := List.map_eq_singleton_iff.mp upstreams
  simp only [Prod.mk.injEq] at shape shape'
  obtain ⟨⟨id, phase, task⟩, ⟨unshut, writable⟩, chunks⟩ := shape
  obtain ⟨⟨id', phase', task'⟩, unshut', writable'⟩ := shape'
  have connected : Connected m := .resting attached reader writer (by simp [session]) sessionWriter
  refine ⟨m, run, ⟨connected, .inl session, by simp [Distinct, streams]⟩, s, u, streams, opened,
    id.trans id'.symm, ?_, ?_, chunks⟩
  · exact ⟨.inl phase, unshut, writable, by simp [task]⟩
  · exact ⟨.inl phase', unshut', writable', by simp [task']⟩

theorem one_tunnel_arrives : ∃ (m : Mux) (s s' : Stream Handler) (u u' : Stream Opened),
    s.socket.chunks = [[7, 8]] ∧ Quiet 1 m ∧ Arrived m s s' u u' := by
  obtain ⟨before, run, standing, s, u, streams, opened, same, flowing, flowing', chunks⟩ := oneTunnel_standing
  obtain ⟨⟨actions, after, kinds, ran, quiet⟩, every⟩ := sent_arrives 1 "t" true before run standing
  obtain ⟨s', u', -, -, arrived⟩ :=
    (every actions after kinds ran).2.2 quiet 0 0 s u (by simp [streams]) (by simp [opened]) same
    flowing flowing'
  exact ⟨after, s, s', u, u', chunks, quiet, arrived⟩

end EchoProxy.Proofs.Arrival
