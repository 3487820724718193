import EchoProxy.Proofs.MuxInvariant

/-! What a received CLOSE stops. Both reader loops only drop the sender of the
stream's data channel; the relay loop of the stream goes on, so that the stream
stays silent afterwards only if that loop was over already. -/

namespace EchoProxy.Proofs.Closing
open EchoProxy StreamFlow HandlerFlow EndpointSteps EndpointAccounts ClientSteps ServerSteps FrameSequences Places

/-- The relay loop is over; at most CLOSE is still to be sent. -/
def Stopped {φ : Type} (s : Stream φ) : Prop := s.phase = .closing ∨ s.phase = .unregistering ∨ s.phase = .done

/-- Before the handler sends OPEN, or after it gave up. -/
def silentStage : Stage → Bool
  | .start | .registered | .opening | .leaving _ | .replying _ => true
  | .awaiting | .greeting _ | .forwarding _ => false

/-- The handler is past its relay loop, or sends no DATA before an OPEN. -/
def Quieted (s : Stream Handler) : Prop := Stopped s ∨ s.phase = .front ∧ silentStage s.front.stage = true

theorem Stopped.step {φ : Type} {s s' : Stream φ} {move} (stopped : Stopped s) (effect : Effect s move s') : Stopped s' := by
  unfold Stopped at stopped ⊢
  cases effect with
  | read now | readEnd now | readError now | sentData now | unsentData now => simp [now] at stopped
  | sentClose | unsentClose | unregister => simp
  | _ => exact stopped

theorem Quieted.step {s s' : Stream Handler} {move} (quieted : Quieted s) (effect : Effect s move s') : Quieted s' := by
  rcases quieted with stopped | ⟨front, silent⟩
  · exact .inl (stopped.step effect)
  · cases effect with
    | read now | readEnd now | readError now | sentData now | unsentData now | sentClose now | unsentClose now
    | unregister now => simp [now] at front
    | _ => exact .inr ⟨front, silent⟩

theorem Quieted.handlerStep {s s' : Stream Handler} {move} (quieted : Quieted s) (effect : HandlerEffect s move s')
    (other : move ≠ .opened) : Quieted s' := by
  rcases quieted with stopped | ⟨front, silent⟩
  · cases effect with
    | ack => exact .inl stopped
    | _ => simp_all [Stopped]
  · cases effect with
    | ack => exact .inr ⟨front, silent⟩
    | opened => exact absurd rfl other
    | granted _ now | refused _ now | greet _ now | greeted _ now | greetError _ now | forwarded _ now | unforwarded _ now =>
      simp [now, silentStage] at silent
    | registered | inserted | unopened | left | reply => exact .inr ⟨front, rfl⟩
    | leftSilently | replied | replyError => exact .inl (.inr (.inr rfl))

/-- A relay loop that is over sends only CLOSE. -/
theorem Stopped.sends {φ : Type} {s : Stream φ} {frame : Frame} (stopped : Stopped s) (outgoing : s.outgoing = some frame) :
    frame = .close s.id := by
  unfold Stream.outgoing at outgoing
  rcases stopped with now | now | now <;> rw [now] at outgoing <;> cases outgoing
  rfl

theorem Quieted.sends {s : Stream Handler} {frame : Frame} (quieted : Quieted s) (outgoing : s.outgoing = some frame) :
    frame = .close s.id := by
  rcases quieted with stopped | ⟨front, -⟩
  · exact stopped.sends outgoing
  · simp [Stream.outgoing, front] at outgoing

theorem Quieted.waits {s : Stream Handler} {id : StreamId} {bytes : Bytes} (quieted : Quieted s)
    (request : s.request = some (.data id bytes)) : False := by
  unfold Stream.request at request
  split at request
  · cases request
  · next front stage =>
    rcases quieted with stopped | ⟨-, silent⟩
    · simp [Stopped, front] at stopped
    · simp [stage, silentStage] at silent
  · cases request

/-- A frame that neither opens an id nor carries data for it. -/
private theorem neutral {id : StreamId} {frame : Frame} (which : streamId frame ≠ some id ∨ ∃ other, frame = .close other)
    (frames : List Frame) : (openIds (frames ++ [frame])).count id = (openIds frames).count id ∧
      payloads id (frames ++ [frame]) = payloads id frames := by
  rw [openIds_append, payloads_append]
  cases frame <;> simp_all [streamId, openIds, payloads, payload]

/-! ### The client -/

/-- `opened` and `sent` are the OPENs and payloads enqueued for the id when its
CLOSE was processed. -/
structure ClientShut (id : StreamId) (opened : Nat) (sent : List Bytes) (c : Client) : Prop where
  more : opened ≤ (openIds c.frames.history).count id
  silent : (openIds c.frames.history).count id = opened →
    (∀ s ∈ c.streams, s.id = id → Quieted s) ∧ payloads id c.frames.history = sent

section Client
variable {id : StreamId} {opened : Nat} {sent : List Bytes} {c c' : Client} {k : Nat} {s s' : Stream Handler}

private theorem ClientShut.same (valid : ClientShut id opened sent c) (history : c'.frames.history = c.frames.history)
    (streams : ∀ s ∈ c'.streams, s.id = id → s ∈ c.streams ∨ Quieted s) : ClientShut id opened sent c' := by
  refine ⟨history ▸ valid.more, fun none => ?_⟩
  rw [history] at none ⊢
  obtain ⟨quieted, silent⟩ := valid.silent none
  refine ⟨fun s member own => ?_, silent⟩
  rcases streams s member own with old | new
  · exact quieted s old own
  · exact new

private theorem ClientShut.set (valid : ClientShut id opened sent c) (found : c.streams[k]? = some s)
    (own : s'.id = s.id) (quieted : Quieted s → Quieted s') (history : c'.frames.history = c.frames.history)
    (streams : c'.streams = c.streams.set k s') : ClientShut id opened sent c' := by
  refine ⟨history ▸ valid.more, fun none => ?_⟩
  rw [history] at none ⊢
  rw [streams]
  obtain ⟨before, silent⟩ := valid.silent none
  refine ⟨forall_set before fun here => quieted ?_, silent⟩
  exact before s (List.mem_of_getElem? found) (own ▸ here)

private theorem ClientShut.send {frame : Frame} (valid : ClientShut id opened sent c) (found : c.streams[k]? = some s)
    (own : s'.id = s.id) (frameOwn : streamId frame = some s.id) (quieted : Quieted s → frame = .close s.id ∧ Quieted s')
    (history : c'.frames.history = c.frames.history ++ [frame]) (streams : c'.streams = c.streams.set k s') :
    ClientShut id opened sent c' := by
  have grows : (openIds c.frames.history).count id ≤ (openIds (c.frames.history ++ [frame])).count id := by
    simp [openIds_append]
  refine ⟨by rw [history]; exact valid.more.trans grows, fun none => ?_⟩
  rw [history] at none ⊢
  rw [streams]
  obtain ⟨before, silent⟩ := valid.silent (Nat.le_antisymm (none ▸ grows) valid.more)
  have member := List.mem_of_getElem? found
  refine ⟨forall_set before fun here => (quieted (before s member (own ▸ here))).2, ?_⟩
  by_cases here : s.id = id
  · rw [(neutral (.inr ⟨_, (quieted (before s member here)).1⟩) _).2, silent]
  · rw [(neutral (.inl (by simpa [frameOwn] using here)) _).2, silent]

/-- An OPEN of the id ends what CLOSE began. -/
private theorem ClientShut.reopen {dest : String} (valid : ClientShut id opened sent c) (own : s'.id = s.id)
    (history : c'.frames.history = c.frames.history ++ [.openStream s.id dest])
    (streams : c'.streams = c.streams.set k s') : ClientShut id opened sent c' := by
  by_cases here : s.id = id
  · have grows : (openIds c'.frames.history).count id = (openIds c.frames.history).count id + 1 := by
      rw [history, openIds_append, List.count_append]
      simp [openIds, here]
    have more := valid.more
    exact ⟨by omega, fun none => by omega⟩
  · have other : streamId (.openStream s.id dest) ≠ some id := by simpa [streamId] using here
    refine ⟨by rw [history, (neutral (.inl other) _).1]; exact valid.more, fun none => ?_⟩
    rw [history, (neutral (.inl other) _).1] at none
    rw [history, (neutral (.inl other) _).2, streams]
    obtain ⟨before, silent⟩ := valid.silent none
    exact ⟨forall_set before fun same => absurd (own.symm.trans same) here, silent⟩

private theorem ClientShut.step {action : ClientAction} (valid : ClientShut id opened sent c) (effect : ClientEffect c action c') :
    ClientShut id opened sent c' := by
  cases effect with
  | accept =>
    refine valid.same rfl fun s member own => ?_
    rcases List.mem_append.mp member with old | new
    · exact .inl old
    · rw [List.mem_singleton.mp new]
      exact .inr (.inr ⟨rfl, rfl⟩)
  | endpoint effect =>
    cases effect with
    | pop _ takes => exact valid.same takes.history fun s member _ => .inl member
    | put | putFail => exact valid.same rfl fun s member _ => .inl member
    | stream found _ stepped | unsent found _ _ stepped | finish found _ stepped | route _ found stepped
    | unregister found stepped =>
      exact valid.set found stepped.same.1 (fun quieted => quieted.step stepped) rfl rfl
    | sent found outgoing accepts stepped =>
      obtain ⟨-, own⟩ := Effect.sent_frame stepped outgoing
      exact valid.send found stepped.same.1 own (fun quieted => ⟨quieted.sends outgoing, quieted.step stepped⟩) accepts.history rfl
  | sent found request accepts which stepped =>
    obtain ⟨-, ⟨rfl, -⟩ | ⟨bytes, rfl⟩⟩ := HandlerEffect.sent_frame stepped request which
    · exact valid.reopen stepped.same.1 accepts.history rfl
    · exact valid.send found stepped.same.1 rfl (fun quieted => (quieted.waits request).elim) accepts.history rfl
  | register found stepped | insertAck found stepped | leave found stepped | ackLost found _ stepped =>
    exact valid.set found stepped.same.1 (fun quieted => quieted.handlerStep stepped (by simp)) rfl rfl
  | unsent found _ _ which stepped =>
    exact valid.set found stepped.same.1 (fun quieted => quieted.handlerStep stepped (by rcases which with rfl | rfl <;> simp)) rfl rfl
  | handler found isLocal stepped =>
    exact valid.set found stepped.same.1
      (fun quieted => quieted.handlerStep stepped (handlerLocal_ne isLocal rfl)) rfl rfl
  | acked _ _ _ _ found stepped =>
    exact valid.set found stepped.same.1 (fun quieted => quieted.handlerStep stepped (by simp)) rfl rfl
  | routing _ _ _ _ found stepped => exact valid.set found stepped.same.1 (fun quieted => quieted.step stepped) rfl rfl
  | _ => exact valid.same rfl fun s member _ => .inl member

end Client

/-! ### The server -/

structure ServerShut (id : StreamId) (opened : Nat) (sent : List Bytes) (c : Server) : Prop where
  more : opened ≤ (openIds c.dispatched).count id
  silent : (openIds c.dispatched).count id = opened →
    (∀ s ∈ c.streams, s.id = id → Stopped s) ∧ (∀ dest, c.reader ≠ .connecting id dest) ∧ payloads id c.frames.history = sent

section Server
variable {id : StreamId} {opened : Nat} {sent : List Bytes} {c c' : Server} {k : Nat} {s s' : Stream Opened}

private theorem ServerShut.same (valid : ServerShut id opened sent c) (dispatched : openIds c'.dispatched = openIds c.dispatched)
    (reader : ∀ dest, c'.reader = .connecting id dest → c.reader = .connecting id dest)
    (history : payloads id c'.frames.history = payloads id c.frames.history) (streams : c'.streams = c.streams) :
    ServerShut id opened sent c' := by
  refine ⟨dispatched ▸ valid.more, fun none => ?_⟩
  rw [dispatched] at none
  obtain ⟨stopped, waits, silent⟩ := valid.silent none
  exact ⟨streams ▸ stopped, fun dest now => waits dest (reader dest now), history.trans silent⟩

private theorem ServerShut.set (valid : ServerShut id opened sent c) (found : c.streams[k]? = some s) (own : s'.id = s.id)
    (stopped : Stopped s → Stopped s' ∧ payloads s.id c'.frames.history = payloads s.id c.frames.history)
    (history : s.id ≠ id → payloads id c'.frames.history = payloads id c.frames.history)
    (dispatched : openIds c'.dispatched = openIds c.dispatched)
    (reader : ∀ dest, c'.reader = .connecting id dest → c.reader = .connecting id dest)
    (streams : c'.streams = c.streams.set k s') : ServerShut id opened sent c' := by
  refine ⟨dispatched ▸ valid.more, fun none => ?_⟩
  rw [dispatched] at none
  obtain ⟨before, waits, silent⟩ := valid.silent none
  have member := List.mem_of_getElem? found
  refine ⟨?_, fun dest now => waits dest (reader dest now), ?_⟩
  · rw [streams]
    exact forall_set before fun here => (stopped (before s member (own ▸ here))).1
  · by_cases here : s.id = id
    · subst here
      rw [(stopped (before s member rfl)).2, silent]
    · rw [history here, silent]

/-- A new OPEN of the id ends what CLOSE began. -/
private theorem ServerShut.reopen {other : StreamId} {dest : String} (valid : ServerShut id opened sent c)
    (dispatched : c'.dispatched = c.dispatched ++ [.openStream other dest])
    (reader : ∀ id dest, c'.reader = .connecting id dest → id = other) (history : c'.frames.history = c.frames.history)
    (streams : c'.streams = c.streams) : ServerShut id opened sent c' := by
  have grows : (openIds c'.dispatched).count id = (openIds c.dispatched).count id + if other = id then 1 else 0 := by
    rw [dispatched, openIds_append, List.count_append]
    simp [openIds, List.count_singleton]
  have more := valid.more
  refine ⟨by omega, fun none => ?_⟩
  split at grows
  · omega
  · next different =>
    obtain ⟨stopped, -, silent⟩ := valid.silent (by omega)
    exact ⟨streams ▸ stopped, fun dest now => different (reader id dest now).symm, history ▸ silent⟩

private theorem ServerShut.connected {other : StreamId} {dest : String} (valid : ServerShut id opened sent c)
    (connecting : c.reader = .connecting other dest) : ServerShut id opened sent (c.connected other dest) := by
  refine ⟨valid.more, fun none => ?_⟩
  obtain ⟨stopped, waits, silent⟩ := valid.silent none
  refine ⟨fun s member own => ?_, by simp [Server.connected], silent⟩
  rcases List.mem_append.mp member with old | new
  · exact stopped s old own
  · rw [List.mem_singleton.mp new] at own
    exact absurd (own ▸ connecting) (waits dest)

private theorem front_unstopped {φ : Type} {s : Stream φ} (front : s.phase = .front) : ¬ Stopped s := by
  simp [Stopped, front]

private theorem ServerShut.step {action : ServerAction} (valid : ServerShut id opened sent c) (server : ServerInvariant.Valid c)
    (effect : ServerEffect c action c') : ServerShut id opened sent c' := by
  cases effect with
  | endpoint effect =>
    cases effect with
    | pop _ takes => exact valid.same rfl (fun _ now => now) (by rw [takes.history]) rfl
    | put | putFail => exact valid.same rfl (fun _ now => now) rfl rfl
    | stream found _ stepped | unsent found _ _ stepped | finish found _ stepped | route _ found stepped
    | unregister found stepped =>
      exact valid.set found stepped.same.1 (fun stopped => ⟨stopped.step stepped, rfl⟩) (fun _ => rfl) rfl (fun _ now => now) rfl
    | sent found outgoing accepts stepped =>
      obtain ⟨-, own⟩ := Effect.sent_frame stepped outgoing
      refine valid.set found stepped.same.1 (fun stopped => ⟨stopped.step stepped, ?_⟩) (fun other => ?_) rfl (fun _ now => now) rfl
      · rw [accepts.history]
        exact (neutral (.inr ⟨_, stopped.sends outgoing⟩) _).2
      · rw [accepts.history]
        exact (neutral (.inl (by simpa [own] using other)) _).2
  | opening => exact valid.reopen rfl (fun _ _ now => by cases now; rfl) rfl rfl
  | blocked => exact valid.reopen rfl (fun _ _ now => by cases now) rfl rfl
  | connectOk connecting => exact valid.connected connecting
  | routing running idle decoded registered found stepped =>
    refine valid.set found stepped.same.1 (fun stopped => ⟨stopped.step stepped, rfl⟩) (fun _ => rfl) ?_ (fun _ now => ?_) rfl
    · simp [ServerSteps.received, openIds]
    · exact now
  | closed running =>
    exact valid.same (by simp [ServerSteps.received, openIds]) (fun _ now => now) rfl rfl
  | skipped running idle decoded unknown =>
    refine valid.same ?_ (fun _ now => now) rfl rfl
    rcases unknown with ⟨other, bytes, rfl, -⟩ | ⟨token, rfl⟩ | ⟨other, ok, rfl⟩ <;> simp [ServerSteps.received, openIds]
  | hello => exact valid.same (by simp [ServerSteps.received, openIds]) (fun _ now => by cases now) rfl rfl
  | refused _ accepts =>
    refine valid.same rfl (fun _ now => by cases now) ?_ rfl
    rw [accepts.history]
    simp [payloads, payload]
  | @acked k s frames acking found accepts =>
    obtain ⟨t, there, front⟩ := server.streams.acking _ acking
    cases found.symm.trans there
    have own : (acked s [.openAck s.id true]).id = s.id := rfl
    refine valid.set found own (fun stopped => absurd stopped (front_unstopped front)) (fun _ => ?_) rfl (fun _ now => by cases now) rfl
    rw [accepts.history]
    simp [payloads, payload]
  | @unacked k s acking found =>
    obtain ⟨t, there, front⟩ := server.streams.acking _ acking
    cases found.symm.trans there
    have own : (acked s []).id = s.id := rfl
    exact valid.set found own (fun stopped => absurd stopped (front_unstopped front)) (fun _ => rfl) rfl (fun _ now => by cases now) rfl
  | @droppedAcking k s acking found =>
    have own : s.abandon.id = s.id := rfl
    exact valid.set found own (fun _ => ⟨.inr (.inr rfl), rfl⟩) (fun _ => rfl) rfl (fun _ now => by cases now) rfl
  | ignored | writerExit | writerStop => exact valid.same rfl (fun _ now => now) rfl rfl
  | unwelcome | broken | accept | reject | connectFail | unrefused | readerCloseAll | dropped =>
    exact valid.same rfl (fun _ now => by cases now) rfl rfl

end Server

/-! ### Both endpoints -/

/-- However a run of the client goes on, no DATA of the id is enqueued until a new
OPEN of it is. -/
def ClientSilent (id : StreamId) (c : Client) : Prop := ∀ (token : String) (resilient : Bool) (actions : List ClientAction) (c' : Client),
  (clientSystem token resilient).exec c actions = some c' →
  (openIds c'.frames.history).count id = (openIds c.frames.history).count id →
  payloads id c'.frames.history = payloads id c.frames.history

/-- However a session goes on, no DATA of the id is enqueued until a new OPEN of it
is processed. -/
def ServerSilent (id : StreamId) (c : Server) : Prop := ∀ (actions : List ServerAction) (c' : Server),
  serverSystem.exec c actions = some c' → (openIds c'.dispatched).count id = (openIds c.dispatched).count id →
  payloads id c'.frames.history = payloads id c.frames.history

/-- After either reader loop has processed CLOSE, the endpoint sends nothing more on
the stream, if its own task for the stream has left its relay loop by then (or, on
the client, is not in it and gave up or has yet to send OPEN). -/
theorem close_terminates (id : StreamId) (data : Bytes) (isClose : Frame.decode data = .ok (.close id)) :
    (∀ (token : String) (resilient : Bool) (c c' : Client), (clientSystem token resilient).Reachable c →
      c.step (.incoming (.binary data)) = some c' → (∀ s ∈ c.streams, s.id = id → Quieted s) → ClientSilent id c') ∧
    ∀ c c' : Server, serverSystem.Reachable c → c.reader = .running →
      c.step (.incoming (.binary data)) = some c' → (∀ s ∈ c.streams, s.id = id → Stopped s) → ServerSilent id c' := by
  constructor
  · intro token resilient c c' _ taken quieted token' resilient' actions final executed none
    have shut : ClientShut id ((openIds c'.frames.history).count id) (payloads id c'.frames.history) c' := by
      refine ⟨le_rfl, fun _ => ⟨?_, rfl⟩⟩
      cases client_effect taken with
      | closed | ignored => exact quieted
      | acked _ _ decoded | routing _ _ decoded => cases decoded.symm.trans isClose
      | skipped => exact quieted
    have after := Transition.System.exec_preserves (m := clientSystem token' resilient')
      (p := ClientShut id ((openIds c'.frames.history).count id) (payloads id c'.frames.history))
      (fun before action after valid taken => valid.step (client_effect taken)) executed shut
    exact (after.silent none).2
  · intro c c' run running taken stopped actions final executed none
    have effect := server_effect taken
    have shut : ServerShut id ((openIds c'.dispatched).count id) (payloads id c'.frames.history) c' := by
      refine ⟨le_rfl, fun _ => ?_⟩
      cases effect with
      | closed => exact ⟨stopped, by simp [ServerSteps.received, running], rfl⟩
      | hello now | unwelcome now => simp [running] at now
      | ignored => exact ⟨stopped, by simp [running], rfl⟩
      | opening _ _ decoded | blocked _ _ decoded | routing _ _ decoded => cases decoded.symm.trans isClose
      | skipped _ _ decoded => exact ⟨stopped, by simp [ServerSteps.received, running], rfl⟩
    have after := Transition.System.exec_preserves (m := serverSystem)
      (p := fun later => ServerInvariant.Valid later ∧
        ServerShut id ((openIds c'.dispatched).count id) (payloads id c'.frames.history) later)
      (fun before action after valid taken =>
        ⟨valid.1.step (server_effect taken), valid.2.step valid.1 (server_effect taken)⟩) executed
      ⟨(ServerInvariant.server_valid run).step effect, shut⟩
    exact (after.2.silent none).2.2

private def socksRelay : List ClientAction := [.connect, .accept 1 (.socksViaMuxWithTimeout "1.1.1.1:80"), .handler 0 .register,
  .handler 0 .insertAck, .handler 0 .send, .incoming (Frame.openAck 1 true).message, .handler 0 (.stream .acked),
  .handler 0 (.stream (.greet 10))]

private def upstreamRelay : List ServerAction := [.incoming (Frame.hello "t").message, .accept,
  .incoming (Frame.openStream 1 "1.1.1.1:80").message, .connectOk, .answer]

private def more : List EndpointAction := [.stream 0 (.arrive [7]), .stream 0 (.read 1), .send 0]

/-- The local application has ended its side before CLOSE comes. -/
theorem ended_stream_silent : ∃ c : Client, c.streams.map (·.phase) = [.closing] ∧ ClientSilent 1 c := by
  have executed : ((clientSystem "t" true).exec (Client.fresh "t" true) (socksRelay ++
      [.endpoint (.stream 0 .shut), .endpoint (.stream 0 .readEnd)])).any (fun c => (c.step (.incoming (Frame.close 1).message)).any
        fun c' => decide (c.streams.map (·.phase) = [.closing] ∧ c'.streams.map (·.phase) = [.closing])) = true := by decide +kernel
  obtain ⟨c, run, closed⟩ := Transition.System.reached executed rfl
  obtain ⟨c', taken, view⟩ := (Option.any_eq_true _ _).mp closed
  obtain ⟨phases, phases'⟩ := of_decide_eq_true view
  have stopped : ∀ s ∈ c.streams, s.id = 1 → Quieted s := by
    intro s member _
    have phase := List.mem_map_of_mem (f := fun s : Stream Handler => s.phase) member
    rw [phases, List.mem_singleton] at phase
    exact .inl (.inl phase)
  exact ⟨c', phases', (close_terminates 1 _ (WireFormat.decode_encode (.close 1))).1 "t" true c c'
    run taken stopped⟩

/-- The upstream ends its side and the application goes on sending, and the other
way round: either endpoint sends DATA after it has processed CLOSE. -/
theorem relay_outlives_close :
    (∃ c c', (clientSystem "t" true).Reachable c ∧ c.step (.incoming (Frame.close 1).message) = some c' ∧ ¬ ClientSilent 1 c') ∧
    ∃ c c', serverSystem.Reachable c ∧ c.reader = .running ∧ c.step (.incoming (Frame.close 1).message) = some c' ∧
      ¬ ServerSilent 1 c' := by
  constructor
  · have executed : ((clientSystem "t" true).exec (Client.fresh "t" true) socksRelay).any (fun c =>
        (c.step (.incoming (Frame.close 1).message)).any fun c' => ((clientSystem "t" true).exec c' (more.map .endpoint)).any
          fun after => decide ((openIds after.frames.history).count 1 = (openIds c'.frames.history).count 1 ∧
            payloads 1 after.frames.history ≠ payloads 1 c'.frames.history)) = true := by decide +kernel
    obtain ⟨c, run, closed⟩ := Transition.System.reached executed rfl
    obtain ⟨c', taken, later⟩ := (Option.any_eq_true _ _).mp closed
    obtain ⟨after, continued, view⟩ := (Option.any_eq_true _ _).mp later
    obtain ⟨none, sent⟩ := of_decide_eq_true view
    exact ⟨c, c', run, taken, fun silent => sent (silent "t" true _ after continued none)⟩
  · have executed : (serverSystem.exec Server.fresh upstreamRelay).any (fun c =>
        decide (c.reader = .running) && (c.step (.incoming (Frame.close 1).message)).any fun c' =>
          (serverSystem.exec c' (more.map .endpoint)).any fun after =>
            decide ((openIds after.dispatched).count 1 = (openIds c'.dispatched).count 1 ∧
              payloads 1 after.frames.history ≠ payloads 1 c'.frames.history)) = true := by decide +kernel
    obtain ⟨c, run, closed⟩ := Transition.System.reached executed rfl
    obtain ⟨running, closed⟩ := Bool.and_eq_true_iff.mp closed
    obtain ⟨c', taken, later⟩ := (Option.any_eq_true _ _).mp closed
    obtain ⟨after, continued, view⟩ := (Option.any_eq_true _ _).mp later
    obtain ⟨none, sent⟩ := of_decide_eq_true view
    exact ⟨c, c', run, of_decide_eq_true running, taken, fun silent => sent (silent _ after continued none)⟩

end EchoProxy.Proofs.Closing
