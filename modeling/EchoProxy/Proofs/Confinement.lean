import EchoProxy.Proofs.ClientInvariant
import EchoProxy.Proofs.ServerInvariant
import EchoProxy.Proofs.WireFormat

/-! A message on the WebSocket concerns one stream: what either reader loop does with it
leaves the registry entries, the pending acks and the streams of all other ids alone, and
a message that is no frame of its peer's changes nothing. -/

namespace EchoProxy.Proofs.Confinement
open EchoProxy StreamFlow EndpointSteps ClientSteps ServerSteps FrameSequences Places

variable {φ : Type}

/-! ### What a frame may change -/

/-- Nothing that belongs to another id has changed, and what was sent is for this one. -/
structure Confined (id : StreamId) (e e' : Endpoint φ) : Prop where
  registry : ∀ other, other ≠ id → e'.registry other = e.registry other
  streams : ∀ (k : Nat) (s : Stream φ), s.id ≠ id → (e'.streams[k]? = some s ↔ e.streams[k]? = some s)
  frames : e'.frames = e.frames ∨ ∃ frame, streamId frame = some id ∧ e'.frames.queue = e.frames.queue ++ [frame]

/-- Nothing has changed. -/
structure Untouched (e e' : Endpoint φ) : Prop where
  registry : e'.registry = e.registry
  streams : e'.streams = e.streams
  frames : e'.frames = e.frames
  routing : e'.routing = e.routing

/-- There is a stream of the id at the place. -/
def Owns (id : StreamId) (streams : List (Stream φ)) (k : Nat) : Prop := ∃ s, streams[k]? = some s ∧ s.id = id

theorem owns_set {id : StreamId} {streams : List (Stream φ)} {j k : Nat} {s s' : Stream φ} (found : streams[k]? = some s)
    (same : s'.id = s.id) (owns : Owns id streams j) : Owns id (streams.set k s') j :=
  exists_set found (fun own => same.trans own) owns

theorem owns_append {id : StreamId} {streams : List (Stream φ)} {j : Nat} (new : Stream φ) (owns : Owns id streams j) :
    Owns id (streams ++ [new]) j := by
  obtain ⟨s, found, own⟩ := owns
  exact ⟨s, append_found found new, own⟩

/-- Replacing a stream of the id leaves those of the others in their places. -/
theorem set_others {id : StreamId} {streams : List (Stream φ)} {k : Nat} {s s' : Stream φ} (found : streams[k]? = some s)
    (own : s.id = id) (same : s'.id = s.id) (j : Nat) (t : Stream φ) (other : t.id ≠ id) :
    (streams.set k s')[j]? = some t ↔ streams[j]? = some t := by
  by_cases here : j = k
  · subst here
    rw [set_found found s', found]
    constructor
    · intro now
      cases now
      exact absurd (same.trans own) other
    · intro was
      cases was
      exact absurd own other
  · rw [set_other here s']

theorem append_others {id : StreamId} {streams : List (Stream φ)} {new : Stream φ} (own : new.id = id) (j : Nat) (t : Stream φ)
    (other : t.id ≠ id) : (streams ++ [new])[j]? = some t ↔ streams[j]? = some t := by
  constructor
  · intro now
    rcases append_cases now with ⟨-, same⟩ | was
    · exact absurd (same ▸ own) other
    · exact was
  · intro was
    exact append_found was new

theorem close_others (registry : StreamRegistry) {id other : StreamId} (different : other ≠ id) :
    registry.close id other = registry other := by
  simp [StreamRegistry.close, different]

theorem register_others (registry : StreamRegistry) (k : Nat) {id other : StreamId} (different : other ≠ id) :
    registry.register id k other = registry other := by
  simp [StreamRegistry.register, different]

namespace Confined
variable {id : StreamId} {e e' : Endpoint φ}

theorem unmoved (registry : e'.registry = e.registry) (streams : e'.streams = e.streams) (frames : e'.frames = e.frames) :
    Confined id e e' :=
  ⟨fun _ _ => by rw [registry], fun _ _ _ => by rw [streams], .inl frames⟩

theorem closed (registry : e'.registry = e.registry.close id) (streams : e'.streams = e.streams) (frames : e'.frames = e.frames) :
    Confined id e e' :=
  ⟨fun _ different => by rw [registry, close_others e.registry different], fun _ _ _ => by rw [streams], .inl frames⟩

theorem set {k : Nat} {s s' : Stream φ} (found : e.streams[k]? = some s) (own : s.id = id) (same : s'.id = s.id)
    (registry : e'.registry = e.registry) (streams : e'.streams = e.streams.set k s')
    (frames : e'.frames = e.frames ∨ ∃ frame, streamId frame = some id ∧ e'.frames.queue = e.frames.queue ++ [frame]) :
    Confined id e e' := by
  refine ⟨fun _ _ => by rw [registry], ?_, frames⟩
  rw [streams]
  exact set_others found own same

/-- The second half of a `route` call. -/
theorem route (effect : EndpointEffect e .route e') (owns : ∀ k, e.routing = some k → Owns id e.streams k) : Confined id e e' := by
  cases effect with
  | route routing found stepped =>
    obtain ⟨s, there, own⟩ := owns _ routing
    cases found.symm.trans there
    exact .set found own stepped.same.1 rfl rfl (.inl rfl)

end Confined

/-- A step of an endpoint keeps its streams, and no `route` call begins in it. -/
theorem endpoint_owns (id : StreamId) {e e' : Endpoint φ} {action : EndpointAction} (effect : EndpointEffect e action e') :
    (∀ k, Owns id e.streams k → Owns id e'.streams k) ∧ (e'.routing = e.routing ∨ e'.routing = none) := by
  cases effect with
  | pop | put | putFail => exact ⟨fun _ owns => owns, .inl rfl⟩
  | stream found _ stepped | sent found _ _ stepped | unsent found _ _ stepped | unregister found stepped
  | finish found _ stepped => exact ⟨fun _ owns => owns_set found stepped.same.1 owns, .inl rfl⟩
  | route _ found stepped => exact ⟨fun _ owns => owns_set found stepped.same.1 owns, .inr rfl⟩

/-! ### The server's reader loop -/

/-- OPEN, DATA and CLOSE are for the server. -/
def isForServer : Frame → Bool
  | .openStream .. | .data .. | .close _ => true
  | _ => false

def takesServer : ServerAction → Bool
  | .incoming _ => true
  | _ => false

/-- The steps of the reader loop inside `handle_open` and `route`. -/
def ownServer : ServerAction → Bool
  | .connectOk | .connectFail | .answer | .endpoint .route => true
  | _ => false

/-- What the reader is in the middle of concerns the id. -/
structure ServerAt (id : StreamId) (c : Server) : Prop where
  connecting : ∀ other dest, c.reader = .connecting other dest → other = id
  acking : ∀ k, c.reader = .acking k → Owns id c.streams k
  refusing : ∀ other, c.reader = .refusing other → other = id
  routing : ∀ k, c.routing = some k → Owns id c.streams k

theorem ServerAt.running {id : StreamId} {c : Server} (running : c.reader = .running)
    (routing : ∀ k, c.routing = some k → Owns id c.streams k) : ServerAt id c :=
  ⟨by simp [running], by simp [running], by simp [running], routing⟩

theorem ServerAt.step {id : StreamId} {c c' : Server} {action : ServerAction} (there : ServerAt id c)
    (further : takesServer action = false) (taken : c.step action = some c') : ServerAt id c' := by
  obtain ⟨connecting, acking, refusing, routing⟩ := there
  cases server_effect taken with
  | endpoint effect =>
    obtain ⟨keeps, still⟩ := endpoint_owns id effect
    refine ⟨connecting, fun k now => keeps k (acking k now), refusing, ?_⟩
    intro k now
    rcases still with same | idle
    · exact keeps k (routing k (same.symm.trans now))
    · simp [idle] at now
  | hello | unwelcome | ignored | broken | opening | blocked | routing | closed | skipped => simp [takesServer] at further
  | accept | reject | readerCloseAll | refused | unrefused => exact ⟨by simp, by simp, by simp, routing⟩
  | connectOk now =>
    have own := connecting _ _ now
    refine ⟨by simp [Server.connected], ?_, by simp [Server.connected], ?_⟩
    · intro k acks
      cases acks
      exact ⟨Stream.fresh _ ⟨_⟩, List.getElem?_concat_length, own⟩
    · intro k routes
      exact owns_append _ (routing k routes)
  | connectFail now =>
    have own := connecting _ _ now
    exact ⟨by simp, by simp, by simp [own], routing⟩
  | acked _ found | unacked _ found =>
    refine ⟨by simp, by simp, by simp, ?_⟩
    intro k routes
    exact owns_set found rfl (routing k routes)
  | writerExit | writerStop => exact ⟨connecting, acking, refusing, routing⟩
  | dropped | droppedAcking => exact ⟨by simp, by simp, by simp, by simp⟩

theorem server_begins {id : StreamId} {c c' : Server} {data : Bytes} {frame : Frame} (run : serverSystem.Reachable c)
    (running : c.reader = .running) (idle : c.routing = none) (decoded : Frame.decode data = .ok frame)
    (own : streamId frame = some id) (taken : c.step (.incoming (.binary data)) = some c') :
    Confined id c.toEndpoint c'.toEndpoint ∧ ServerAt id c' := by
  have nothing (k : Nat) (routes : c.routing = some k) : Owns id c.streams k := by simp [idle] at routes
  cases server_effect taken with
  | hello now | unwelcome now => simp [running] at now
  | ignored => exact ⟨.unmoved rfl rfl rfl, .running running nothing⟩
  | opening _ _ same =>
    cases decoded.symm.trans same
    cases own
    exact ⟨.unmoved rfl rfl rfl, by simp, by simp, by simp, nothing⟩
  | blocked _ _ same =>
    cases decoded.symm.trans same
    cases own
    exact ⟨.unmoved rfl rfl rfl, by simp, by simp, by simp, nothing⟩
  | routing _ _ same registered found stepped =>
    cases decoded.symm.trans same
    cases own
    have mine := (ServerInvariant.server_valid run).routes.wired.own registered found
    refine ⟨.set found mine stepped.same.1 rfl rfl (.inl rfl), .running running ?_⟩
    intro k now
    cases now
    exact ⟨_, set_found found _, stepped.same.1.trans mine⟩
  | closed _ _ same =>
    cases decoded.symm.trans same
    cases own
    exact ⟨.closed rfl rfl rfl, .running running nothing⟩
  | skipped => exact ⟨.unmoved rfl rfl rfl, .running running nothing⟩

theorem server_steps {id : StreamId} {c c' : Server} {action : ServerAction} (there : ServerAt id c)
    (mine : ownServer action = true) (taken : c.step action = some c') : Confined id c.toEndpoint c'.toEndpoint := by
  cases server_effect taken with
  | endpoint effect =>
    cases effect with
    | route routing found stepped => exact .route (.route routing found stepped) there.routing
    | _ => simp [ownServer] at mine
  | connectOk now =>
    have own := there.connecting _ _ now
    subst own
    exact ⟨fun _ different => register_others c.registry _ different, append_others rfl, .inl rfl⟩
  | connectFail now =>
    have own := there.connecting _ _ now
    subst own
    exact .closed rfl rfl rfl
  | refused now accepts =>
    have own := there.refusing _ now
    subst own
    exact ⟨fun _ _ => rfl, fun _ _ _ => .rfl, .inr ⟨_, rfl, accepts.queue⟩⟩
  | unrefused => exact .unmoved rfl rfl rfl
  | @acked k s frames now found accepts =>
    obtain ⟨t, there, own⟩ := there.acking _ now
    obtain rfl : s = t := Option.some.inj (found.symm.trans there)
    have same : (acked s [.openAck s.id true]).id = s.id := rfl
    exact .set found own same rfl rfl (.inr ⟨_, own ▸ rfl, accepts.queue⟩)
  | @unacked k s now found =>
    obtain ⟨t, there, own⟩ := there.acking _ now
    obtain rfl : s = t := Option.some.inj (found.symm.trans there)
    have same : (acked s []).id = s.id := rfl
    exact .set found own same rfl rfl (.inl rfl)
  | _ => simp [ownServer] at mine

theorem server_ignores {c : Server} {data : Bytes} (running : c.reader = .running) (idle : c.routing = none)
    (unknown : ∀ frame, Frame.decode data = .ok frame → isForServer frame = false) :
    ∃ c', c.step (.incoming (.binary data)) = some c' ∧ Untouched c.toEndpoint c'.toEndpoint ∧ c'.reader = .running := by
  cases decoded : Frame.decode data with
  | error e => exact ⟨c, by simp [Server.step, Server.incoming, running, idle, decoded], ⟨rfl, rfl, rfl, rfl⟩, running⟩
  | ok frame =>
    have other := unknown frame decoded
    cases frame with
    | hello token =>
      refine ⟨c.record (.hello token), ?_, ⟨rfl, rfl, rfl, rfl⟩, running⟩
      simp [Server.step, Server.incoming, running, idle, decoded, Server.dispatch]
    | openAck id ok =>
      refine ⟨c.record (.openAck id ok), ?_, ⟨rfl, rfl, rfl, rfl⟩, running⟩
      simp [Server.step, Server.incoming, running, idle, decoded, Server.dispatch]
    | openStream | data | close => simp [isForServer] at other

/-- Where its loop waits for a message, the reader takes any. -/
theorem server_takes {c : Server} (run : serverSystem.Reachable c) (running : c.reader = .running) (idle : c.routing = none)
    (data : Bytes) : ∃ c', c.step (.incoming (.binary data)) = some c' := by
  simp only [Server.step, Server.incoming, running, idle, if_pos]
  cases decoded : Frame.decode data with
  | error e => exact ⟨c, rfl⟩
  | ok frame =>
    cases frame with
    | hello | openAck | openStream | close => exact ⟨_, rfl⟩
    | data id bytes =>
      have wired := (ServerInvariant.server_valid run).routes.wired
      cases registered : c.registry id with
      | none => simp [Server.dispatch, Endpoint.route, Server.record, Server.withEndpoint, registered]
      | some k =>
        obtain ⟨s, found, -⟩ := wired.registered id k registered
        have free : s.arriving = none := by
          by_contra held
          have routes := wired.arriving (by simp [running]) k s found held
          simp [idle] at routes
        simp [Server.dispatch, Endpoint.route, Server.record, Server.withEndpoint, Endpoint.modify, Stream.step, registered, found,
          free]

/-! ### The client's reader loop -/

/-- OPEN_ACK, DATA and CLOSE are for the client. -/
def isForClient : Frame → Bool
  | .openAck .. | .data .. | .close _ => true
  | _ => false

def takesClient : ClientAction → Bool
  | .incoming _ => true
  | _ => false

def ownClient : ClientAction → Bool
  | .endpoint .route => true
  | _ => false

/-- Nothing that belongs to another id has changed, its pending ack included. -/
structure ClientConfined (id : StreamId) (c c' : Client) : Prop where
  endpoint : Confined id c.toEndpoint c'.toEndpoint
  pendingAcks : ∀ other, other ≠ id → c'.pendingAcks other = c.pendingAcks other

def ClientAt (id : StreamId) (c : Client) : Prop := ∀ k, c.routing = some k → Owns id c.streams k

theorem client_step {id : StreamId} {c c' : Client} {action : ClientAction} (there : ClientAt id c)
    (further : takesClient action = false) (taken : c.step action = some c') : ClientAt id c' := by
  intro k routes
  cases client_effect taken with
  | endpoint effect =>
    obtain ⟨keeps, still⟩ := endpoint_owns id effect
    rcases still with same | idle
    · exact keeps k (there k (same.symm.trans routes))
    · simp [idle] at routes
  | accept => exact owns_append _ (there k routes)
  | register found stepped | insertAck found stepped | sent found _ _ _ stepped | unsent found _ _ _ stepped
  | ackLost found _ stepped | leave found stepped | handler found _ stepped =>
    exact owns_set found stepped.same.1 (there k routes)
  | ignored | broken | acked | routing | closed | skipped => simp [takesClient] at further
  | _ => exact there k routes

theorem client_begins {token : String} {resilient : Bool} {id : StreamId} {c c' : Client} {data : Bytes} {frame : Frame}
    (run : (clientSystem token resilient).Reachable c) (idle : c.routing = none) (decoded : Frame.decode data = .ok frame)
    (own : streamId frame = some id) (taken : c.step (.incoming (.binary data)) = some c') :
    ClientConfined id c c' ∧ ClientAt id c' := by
  have valid := ClientInvariant.client_valid run
  have nothing (c' : Client) (same : c'.routing = c.routing) : ClientAt id c' := fun k routes => by simp [same, idle] at routes
  cases client_effect taken with
  | ignored => exact ⟨⟨.unmoved rfl rfl rfl, fun _ _ => rfl⟩, nothing _ rfl⟩
  | acked _ _ same pending found stepped =>
    cases decoded.symm.trans same
    cases own
    obtain ⟨s, there, mine⟩ := valid.acks.pending _ _ pending
    cases found.symm.trans there
    refine ⟨⟨.set found mine stepped.same.1 rfl rfl (.inl rfl), ?_⟩, nothing _ rfl⟩
    intro other different
    exact Function.update_of_ne different _ _
  | routing _ _ same registered found stepped =>
    cases decoded.symm.trans same
    cases own
    have mine := valid.wired.own registered found
    refine ⟨⟨.set found mine stepped.same.1 rfl rfl (.inl rfl), fun _ _ => rfl⟩, ?_⟩
    intro k now
    cases now
    exact ⟨_, set_found found _, stepped.same.1.trans mine⟩
  | closed _ _ same =>
    cases decoded.symm.trans same
    cases own
    exact ⟨⟨.closed rfl rfl rfl, fun _ _ => rfl⟩, nothing _ rfl⟩
  | skipped => exact ⟨⟨.unmoved rfl rfl rfl, fun _ _ => rfl⟩, nothing _ rfl⟩

theorem client_steps {id : StreamId} {c c' : Client} {action : ClientAction} (there : ClientAt id c)
    (mine : ownClient action = true) (taken : c.step action = some c') : ClientConfined id c c' := by
  cases client_effect taken with
  | endpoint effect =>
    cases effect with
    | route routing found stepped => exact ⟨.route (.route routing found stepped) there, fun _ _ => rfl⟩
    | _ => simp [ownClient] at mine
  | _ => simp [ownClient] at mine

theorem client_ignores {c : Client} {data : Bytes} (running : c.reader = .running) (idle : c.routing = none)
    (unknown : ∀ frame, Frame.decode data = .ok frame → isForClient frame = false) :
    ∃ c', c.step (.incoming (.binary data)) = some c' ∧ Untouched c.toEndpoint c'.toEndpoint ∧ c'.pendingAcks = c.pendingAcks ∧
      c'.reader = .running := by
  cases decoded : Frame.decode data with
  | error e => exact ⟨c, by simp [Client.step, Client.incoming, running, idle, decoded], ⟨rfl, rfl, rfl, rfl⟩, rfl, running⟩
  | ok frame =>
    have other := unknown frame decoded
    cases frame with
    | hello token =>
      refine ⟨ClientSteps.received c (.hello token), ?_, ⟨rfl, rfl, rfl, rfl⟩, rfl, running⟩
      simp [Client.step, Client.incoming, running, idle, decoded, Client.dispatch, Client.withEndpoint, ClientSteps.received]
    | openStream id dest =>
      refine ⟨ClientSteps.received c (.openStream id dest), ?_, ⟨rfl, rfl, rfl, rfl⟩, rfl, running⟩
      simp [Client.step, Client.incoming, running, idle, decoded, Client.dispatch, Client.withEndpoint, ClientSteps.received]
    | openAck | data | close => simp [isForClient] at other

theorem client_takes {token : String} {resilient : Bool} {c : Client} (run : (clientSystem token resilient).Reachable c)
    (running : c.reader = .running) (idle : c.routing = none) (data : Bytes) :
    ∃ c', c.step (.incoming (.binary data)) = some c' := by
  have valid := ClientInvariant.client_valid run
  simp only [Client.step, Client.incoming, running, idle, and_self, if_pos]
  cases decoded : Frame.decode data with
  | error e => exact ⟨c, rfl⟩
  | ok frame =>
    cases frame with
    | hello | openStream | close => exact ⟨_, rfl⟩
    | openAck id ok =>
      cases pending : c.pendingAcks id with
      | none => simp [Client.dispatch, Client.withEndpoint, pending]
      | some k =>
        obtain ⟨s, found, -⟩ := valid.acks.pending id k pending
        simp [Client.dispatch, Client.withEndpoint, Client.modify, Endpoint.modify, pending, found, Stream.handlerStep]
    | data id bytes =>
      cases registered : c.registry id with
      | none => simp [Client.dispatch, Endpoint.route, Client.withEndpoint, registered]
      | some k =>
        obtain ⟨s, found, -⟩ := valid.wired.registered id k registered
        have free : s.arriving = none := by
          by_contra held
          have routes := valid.wired.arriving trivial k s found held
          simp [idle] at routes
        simp [Client.dispatch, Endpoint.route, Client.withEndpoint, Endpoint.modify, registered, found, Stream.step, free]

/-! ### Either loop -/

/-- What the server's reader loop, waiting for a message, makes of the bytes. -/
structure ServerDispatch (c : Server) (data : Bytes) : Prop where
  taken : ∃ c', c.step (.incoming (.binary data)) = some c'
  ignored : (∀ frame, Frame.decode data = .ok frame → isForServer frame = false) →
    ∃ c', c.step (.incoming (.binary data)) = some c' ∧ Untouched c.toEndpoint c'.toEndpoint ∧ c'.reader = .running
  confined : ∀ frame id before after, Frame.decode data = .ok frame → streamId frame = some id →
    serverSystem.Serves (.incoming (.binary data)) takesServer ownServer c before after →
      Confined id before.toEndpoint after.toEndpoint

structure ClientDispatch (token : String) (resilient : Bool) (c : Client) (data : Bytes) : Prop where
  taken : ∃ c', c.step (.incoming (.binary data)) = some c'
  ignored : (∀ frame, Frame.decode data = .ok frame → isForClient frame = false) →
    ∃ c', c.step (.incoming (.binary data)) = some c' ∧ Untouched c.toEndpoint c'.toEndpoint ∧ c'.pendingAcks = c.pendingAcks ∧
      c'.reader = .running
  confined : ∀ frame id before after, Frame.decode data = .ok frame → streamId frame = some id →
    (clientSystem token resilient).Serves (.incoming (.binary data)) takesClient ownClient c before after →
      ClientConfined id before after

/-- Whatever bytes come, the reader's steps for them concern the id of the frame they are,
and none if they are no frame for this side. -/
theorem dispatch_confined (data : Bytes) :
    (∀ c : Server, serverSystem.Reachable c → c.reader = .running → c.routing = none → ServerDispatch c data) ∧
    ∀ (token : String) (resilient : Bool) (c : Client), (clientSystem token resilient).Reachable c → c.reader = .running →
      c.routing = none → ClientDispatch token resilient c data := by
  constructor
  · intro c run running idle
    refine ⟨server_takes run running idle data, server_ignores running idle, ?_⟩
    intro frame id before after decoded own serves
    refine serves.confined (p := ServerAt id) (q := fun c c' => Confined id c.toEndpoint c'.toEndpoint) ?_ ?_ ?_
    · intro opened taken
      exact server_begins run running idle decoded own taken
    · intro before action after there further taken
      exact there.step further taken
    · intro before action after there mine taken
      exact server_steps there mine taken
  · intro token resilient c run running idle
    refine ⟨client_takes run running idle data, client_ignores running idle, ?_⟩
    intro frame id before after decoded own serves
    refine serves.confined (p := ClientAt id) (q := ClientConfined id) ?_ ?_ ?_
    · intro opened taken
      exact client_begins run idle decoded own taken
    · intro before action after there further taken
      exact client_step there further taken
    · intro before action after there mine taken
      exact client_steps there mine taken

/-- A second stream is registered next to the first. -/
theorem second_stream_confined : ∃ before after : Server, before.registry 1 = some 0 ∧ after.registry 2 = some 1 ∧
    after.registry 1 = before.registry 1 := by
  let second : Message := (Frame.openStream 2 "1.1.1.1:81").message
  have executed : (serverSystem.exec Server.fresh [.incoming (Frame.hello "t").message, .accept,
      .incoming (Frame.openStream 1 "1.1.1.1:80").message, .connectOk, .answer]).any (fun c =>
        decide (c.reader = .running ∧ c.routing = none) && (c.step (.incoming second)).any fun before =>
          decide (before.registry 1 = some 0) && (before.step .connectOk).any fun after =>
            decide (after.registry 2 = some 1)) = true := by decide +kernel
  obtain ⟨c, run, view⟩ := Transition.System.reached executed rfl
  obtain ⟨ready, goes⟩ := Bool.and_eq_true_iff.mp view
  obtain ⟨running, idle⟩ := of_decide_eq_true ready
  obtain ⟨before, taken, goes⟩ := (Option.any_eq_true _ _).mp goes
  obtain ⟨first, goes⟩ := Bool.and_eq_true_iff.mp goes
  obtain ⟨after, stepped, registered⟩ := (Option.any_eq_true _ _).mp goes
  have dispatch := (dispatch_confined (Frame.openStream 2 "1.1.1.1:81").encode).1 c run running idle
  have nothing : (serverSystem.when fun _ action => !takesServer action).exec before [] = some before := rfl
  have mine : ownServer .connectOk = true := rfl
  have moved : serverSystem.step before .connectOk = some after := stepped
  have confined := dispatch.confined (.openStream 2 "1.1.1.1:81") 2 before after (WireFormat.decode_encode _) rfl
    (.later taken nothing mine moved)
  exact ⟨before, after, of_decide_eq_true first, of_decide_eq_true registered, confined.registry 1 (by decide)⟩

end EchoProxy.Proofs.Confinement
