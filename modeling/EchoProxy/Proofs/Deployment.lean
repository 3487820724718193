import EchoProxy.Proofs.Lines

/-! What the client program and the server do together for an accepted connection: it is
tunnelled to the destination it asked for and to no other, across reconnects and beside the
server's other clients. -/

namespace EchoProxy.Proofs.Deployment
open EchoProxy Transition StreamFlow HandlerFlow EndpointSteps EndpointAccounts ClientSteps ServerSteps FrameSequences MuxInvariant
  Protocol Integrity EndToEnd ProxySteps ProxyInvariant StreamIds Authentication DeploymentSteps Lines Places

/-! ### The two programs on their own -/

section Programs
variable {setup : Setup} {d : Deployment}

theorem client_program (run : (deploymentSystem setup).Reachable d) :
    (resilientSystem setup.socks).Reachable d.client := by
  refine run.component EchoProxy.Deployment.client (by rintro d rfl; rfl) ?_
  intro before action after _ taken
  cases deployment_effect taken with
  | alone stepped | wired stepped => exact .inr ⟨_, trivial, stepped⟩
  | @obtain _ _ token _ _ _ _ stepped => exact .inr ⟨.keeper (.obtained token), trivial, stepped⟩
  | dial stepped => exact .inr ⟨.keeper .connected, trivial, stepped⟩
  | served | session | ask => exact .inl rfl

theorem server_program (run : (deploymentSystem setup).Reachable d) :
    (serveSystem setup.crates setup.users).Reachable d.serve := by
  refine run.component EchoProxy.Deployment.serve (by rintro d rfl; rfl) ?_
  intro before action after _ taken
  cases deployment_effect taken with
  | alone | wired | obtain => exact .inl rfl
  | served stepped => exact .inr ⟨_, trivial, stepped⟩
  | @session j move _ _ _ _ _ _ stepped => exact .inr ⟨.session j move, trivial, stepped⟩
  | ask _ stepped => exact .inr ⟨.connect "/control", trivial, stepped⟩
  | dial _ stepped => exact .inr ⟨.connect "/mux", trivial, stepped⟩

end Programs

/-! ### Destinations -/

/-- What a session connects to, it was asked for and may connect to. -/
structure AskedFor (c : Server) (id : StreamId) (dest : String) : Prop where
  asked : .openStream id dest ∈ c.dispatched
  allowed : isDestAllowed dest = true

private theorem AskedFor.mono {c c' : Server} {id : StreamId} {dest : String} (asked : AskedFor c id dest)
    (longer : c.dispatched <+: c'.dispatched) : AskedFor c' id dest :=
  ⟨longer.subset asked.asked, asked.allowed⟩

/-- The streams after a step: those there were, and the one a connect was for. -/
private theorem server_old {c c' : Server} {action : ServerAction} (effect : ServerEffect c action c') :
    (∀ u' ∈ c'.streams, ∃ u ∈ c.streams, u'.id = u.id ∧ u'.front = u.front) ∨
      ∃ id dest, c.reader = .connecting id dest ∧ c'.streams = c.streams ++ [Stream.fresh id ⟨dest⟩] := by
  have all : ∀ u ∈ c.streams, ∃ v ∈ c.streams, u.id = v.id ∧ u.front = v.front :=
    fun u member => ⟨u, member, rfl, rfl⟩
  have set {k : Nat} {u u' : Stream Opened} (found : c.streams[k]? = some u)
      (same : u'.id = u.id ∧ u'.front = u.front) :
      ∀ v' ∈ c.streams.set k u', ∃ v ∈ c.streams, v'.id = v.id ∧ v'.front = v.front :=
    forall_set all ⟨u, List.mem_of_getElem? found, same⟩
  cases effect with
  | connectOk now => exact .inr ⟨_, _, now, rfl⟩
  | endpoint effect =>
    cases effect with
    | pop | put | putFail => exact .inl all
    | stream found _ stepped | sent found _ _ stepped | unsent found _ _ stepped | unregister found stepped
    | finish found _ stepped | route _ found stepped => exact .inl (set found stepped.same)
  | routing _ _ _ _ found stepped => exact .inl (set found stepped.same)
  | acked _ found | unacked _ found | droppedAcking _ found => exact .inl (set found ⟨rfl, rfl⟩)
  | _ => exact .inl all

/-- All destinations of a session. -/
structure Destinations (c : Server) : Prop where
  connecting : ∀ id dest, c.reader = .connecting id dest → AskedFor c id dest
  streams : ∀ u ∈ c.streams, AskedFor c u.id u.front.dest

theorem destinations {c : Server} (run : serverSystem.Reachable c) : Destinations c := by
  refine run.invariant ?_ ?_
  · rintro c rfl
    exact ⟨by simp [Server.fresh], by simp [Server.fresh, Endpoint.fresh]⟩
  · intro before action after _ valid _ taken
    have effect := server_effect taken
    have longer := ServerInvariant.server_dispatched effect
    constructor
    · intro id dest now
      cases effect with
      | endpoint | ignored | writerExit | writerStop => exact (valid.connecting id dest now).mono longer
      | opening _ _ _ allowed =>
        cases now
        exact ⟨by simp [ServerSteps.received], allowed⟩
      | routing running | closed running | skipped running => simp [ServerSteps.received, running] at now
      | _ => cases now
    · rcases server_old effect with old | ⟨id, dest, now, streams⟩
      · intro u' member
        obtain ⟨u, there, id, front⟩ := old u' member
        rw [id, front]
        exact (valid.streams u there).mono longer
      · rw [streams]
        exact forall_append (fun u member => (valid.streams u member).mono longer)
          ((valid.connecting id dest now).mono longer)

section Twins
variable {capacity : Nat} {token : String} {m : Mux}

/-- The upstream of a stream is the one its handler asked for. -/
theorem same_destination (run : (muxSystem capacity token true).Reachable m)
    (distinct : Distinct m.client.streams)
    {s : Stream Handler} {u : Stream Opened} (here : s ∈ m.client.streams) (there : u ∈ m.server.streams)
    (same : s.id = u.id) :
    u.front.dest = s.front.spec.dest := by
  have client := ClientInvariant.client_valid (client_reach run)
  obtain ⟨upload, download, wires⟩ := wires run
  obtain ⟨k, found⟩ := List.getElem?_of_mem here
  have asked := ((destinations (server_reach run)).streams u there).asked
  have put : .openStream u.id u.front.dest ∈ m.client.put := by
    rw [wires.sent]
    exact List.mem_append_left _ asked
  have sent : .openStream s.id u.front.dest ∈ ofId s.id m.client.frames.history := by
    have history := client.started.order.put_isPrefix.subset put
    simp only [List.mem_append, List.mem_singleton, reduceCtorEq, false_or] at history
    exact List.mem_filter.mpr ⟨same ▸ history, by simp [streamId]⟩
  rw [client.sources.attributed distinct k s found] at sent
  obtain ⟨chunks, -, shape⟩ := (client.streams.handled s here).conforms
  have opened := shape.subset sent
  simpa [openFrame] using opened

end Twins

/-! ### Accepted connections -/

/-- A tunnelled handler and the upstream that was dialled for it. -/
structure Tunnels (s : Stream Handler) (u : Stream Opened) : Prop where
  dest : u.front.dest = s.front.spec.dest
  allowed : isDestAllowed u.front.dest = true
  upstream : u.socket.written <+: forwarded s.front.tunnel ++ s.socket.chunks.flatten
  downstream : s.task ≠ .absent →
    ∃ relayed, s.socket.written = successReply s.front.tunnel ++ relayed ∧ relayed <+: u.socket.chunks.flatten

/-- Accepted connection `h` is stream `k` of connection `conn`, with the id. -/
def IsTunnel (d : Deployment) (h conn k : Nat) (id : StreamId) : Prop :=
  ∃ listener, d.client.listeners.accepted[h]? = some ⟨id, listener, .tunnelled conn k⟩

/-- The two programs as the tunnels of the accepted connections. -/
structure Tunnelled (d : Deployment) : Prop where
  /-- What a handler's tunnel comes to at the server. -/
  handler : ∀ (h conn k : Nat) (id : StreamId), IsTunnel d h conn k id →
    ∃ c line session s, d.client.conns[conn]? = some c ∧ d.lines[conn]? = some line ∧
      d.serve.sessions[line.session]? = some session ∧ c.streams[k]? = some s ∧ s.id = id ∧
      (s.task ≠ .absent → ∃ u ∈ session.server.streams, u.id = id) ∧
      ∀ u ∈ session.server.streams, u.id = id → Tunnels s u
  /-- Every upstream of a line's session was dialled for one accepted connection. -/
  owner : ∀ (conn : Nat) (line : Line) (session : Session), d.lines[conn]? = some line →
    d.serve.sessions[line.session]? = some session →
    ∀ u ∈ session.server.streams, ∃! h, ∃ k, IsTunnel d h conn k u.id
  /-- No two connections of the client end in one session. -/
  apart : ∀ (i j : Nat) (first second : Line), d.lines[i]? = some first → d.lines[j]? = some second →
    first.session = second.session → i = j

section Accepted
variable {setup : Setup} {d : Deployment} {tokens : List String}

private theorem idOf_few {h i : Nat} (small : h < idSpace) (small' : i < idSpace) (same : idOf h = idOf i) :
    h = i := by
  have turn := idOf_inj.mp same
  rwa [Nat.mod_eq_of_lt small, Nat.mod_eq_of_lt small'] at turn

/-- Among as many accepted connections as there are ids, an id names one of them. -/
private theorem number_unique {l : Listeners} (numbered : Numbered l) (few : l.accepted.length ≤ idSpace)
    {h i : Nat}
    {first second : LocalConnection} (found : l.accepted[h]? = some first) (found' : l.accepted[i]? = some second)
    (same : first.id = second.id) : h = i := by
  have inside := (List.getElem?_eq_some_iff.mp found).1
  have inside' := (List.getElem?_eq_some_iff.mp found').1
  rw [numbered.ids h first found, numbered.ids i second found'] at same
  exact idOf_few (inside.trans_le few) (inside'.trans_le few) same

private theorem conn_distinct {l : Listeners} {conns : List Client} (numbered : Numbered l)
    (placed : Placed l conns)
    (few : l.accepted.length ≤ idSpace) {conn : Nat} {c : Client} (there : conns[conn]? = some c) :
    Distinct c.streams := by
  refine List.nodup_iff_getElem?_ne_getElem?.mpr ?_
  intro i j before inside same
  rw [List.length_map] at inside
  have handler {k : Nat} (short : k < c.streams.length) :
      IsHandler l conn k c.streams[k].id :=
    (placed conn k _).mp ⟨c, c.streams[k], there, List.getElem?_eq_getElem short, rfl⟩
  obtain ⟨h, listener, found⟩ := handler (before.trans inside)
  obtain ⟨h', listener', found'⟩ := handler inside
  simp only [List.getElem?_map, List.getElem?_eq_getElem (before.trans inside),
    List.getElem?_eq_getElem inside, Option.map_some, Option.some.injEq] at same
  cases number_unique numbered few found found' same
  rw [found] at found'
  simp only [Option.some.injEq, LocalConnection.mk.injEq, Standing.tunnelled.injEq, true_and] at found'
  omega

/-- What a handler's tunnel comes to at the server. -/
theorem handler_tunnels (run : (deploymentSystem setup).Reachable d)
    (few : d.client.listeners.accepted.length ≤ idSpace)
    {h conn k : Nat} {id : StreamId} (own : IsTunnel d h conn k id) :
    ∃ c line session s, d.client.conns[conn]? = some c ∧ d.lines[conn]? = some line ∧
      d.serve.sessions[line.session]? = some session ∧ c.streams[k]? = some s ∧ s.id = id ∧
      (s.task ≠ .absent → ∃ u ∈ session.server.streams, u.id = id) ∧
      ∀ u ∈ session.server.streams, u.id = id → Tunnels s u := by
  obtain ⟨tokens, lined⟩ := lined run
  have program := client_program run
  obtain ⟨listener, found⟩ := own
  obtain ⟨c, s, there, here, same⟩ := (placed program conn k id).mpr ⟨h, listener, found⟩
  have inside := (List.getElem?_eq_some_iff.mp there).1
  obtain ⟨token, c', session, pair⟩ := lined.pair (List.getElem?_eq_getElem (lined.lines.symm ▸ inside))
  cases there.symm.trans pair.made
  have run := (lined.runs _ _ _ _ _ pair).run
  have distinct : Distinct c.streams := conn_distinct (resilient_numbered program) (placed program) few there
  have member := List.mem_of_getElem? here
  refine ⟨c, _, session, s, there, pair.here, pair.there, here, same, ?_, ?_⟩
  · intro relaying
    obtain ⟨u, upstream, own, -⟩ := server_twin run distinct member relaying
    exact ⟨u, upstream, own.trans same⟩
  · intro u upstream own
    have twins := same.trans own.symm
    refine ⟨same_destination run distinct member upstream twins, ?_, ?_, ?_⟩
    · exact ((destinations (server_reach run)).streams u upstream).allowed
    · have written := written_upstream run distinct member upstream twins
      rwa [List.flatten_append, prelude_forwarded] at written
    · rw [← greeting_successReply]
      exact written_downstream run distinct member upstream twins

/-- An upstream of a line's session was dialled for one accepted connection. -/
theorem upstream_owner (run : (deploymentSystem setup).Reachable d)
    (few : d.client.listeners.accepted.length ≤ idSpace)
    {conn : Nat} {line : Line} {session : Session} (here : d.lines[conn]? = some line)
    (there : d.serve.sessions[line.session]? = some session) {u : Stream Opened}
    (upstream : u ∈ session.server.streams) :
    ∃! h, ∃ k, IsTunnel d h conn k u.id := by
  obtain ⟨tokens, lined⟩ := lined run
  have program := client_program run
  have numbered := resilient_numbered program
  obtain ⟨token, c, session', pair⟩ := lined.pair here
  cases there.symm.trans pair.there
  have run := (lined.runs _ _ _ _ _ pair).run
  obtain ⟨s, member, same⟩ := client_twin run (conn_distinct numbered (placed program) few pair.made) upstream
  obtain ⟨k, found⟩ := List.getElem?_of_mem member
  obtain ⟨h, listener, accepted⟩ := (placed program conn k u.id).mp ⟨c, s, pair.made, found, same⟩
  refine ⟨h, ⟨k, listener, accepted⟩, ?_⟩
  rintro h' ⟨k', listener', accepted'⟩
  exact number_unique numbered few accepted' accepted rfl

/-- In every run of the two programs, until ids come back: each accepted connection that is
tunnelled has the upstream it asked for and no other, whatever connections break and are
made again, and whatever the server's other clients do. -/
theorem tunnelled_end_to_end (setup : Setup) (d : Deployment) (run : (deploymentSystem setup).Reachable d)
    (few : d.client.listeners.accepted.length ≤ idSpace) : Tunnelled d where
  handler _ _ _ _ own := handler_tunnels run few own
  owner _ _ _ here there _ upstream := upstream_owner run few here there upstream
  apart i j first second found found' same := by
    obtain ⟨tokens, lined⟩ := lined run
    exact lined.same found found' same

end Accepted

/-! ### A run -/

def firstUuid : Uuid := 0x6e1f4a32000040008000000000000001#128
private def secondUuid : Uuid := 0x6e1f4a32000040008000000000000002#128
def firstToken : String := "6e1f4a32-0000-4000-8000-000000000001"
private def secondToken : String := "6e1f4a32-0000-4000-8000-000000000002"

/-- The crates on the texts of the run below. -/
def runCrates : Crates where
  parseUuid text :=
    if text = firstToken then some firstUuid else if text = secondToken then some secondUuid else none
  formatUuid uuid := if uuid = firstUuid then firstToken else secondToken
  Version := Nat × Nat × Nat
  parseVersion text := if text = "0.2.0" then some (0, 2, 0) else none
  satisfies _ version := 0 < version.1 || 1 ≤ version.2.1

def runSetup : Setup where
  capacity := 1
  crates := runCrates
  users := ["alice"]
  version := "0.2.0"
  user := "alice"
  socks := true

/-- The keeper gets a token on `/control` connection `i` and brings connection `i` up. -/
private def bringUp (i : Nat) (uuid : Uuid) (token : String) : List DeploymentAction := [
  .ask, .serve (.control i (.incoming (helloMessage "0.2.0" "alice") uuid)), .serve (.control i .sent), .obtain,
  .dial, .client (.keeper .greeted), .serve (.session i (.incoming (Frame.hello token).message)),
  .serve (.present i)]

private def breakDown : List DeploymentAction := [
  .client (.loop 0 (.incoming .other)), .client (.loop 0 .readerCloseAll), .client (.loop 0 .readerClear),
  .client (.keeper .disconnected), .client (.keeper .clear), .client (.keeper .close)]

/-- A SOCKS5 tunnel on connection 1, up to the first byte at the upstream. -/
private def throughSecond : List DeploymentAction := [
  .client (.accept .socks5), .client (.snapshot 0 (.socksViaMuxWithTimeout "1.1.1.1:80")),
  .client (.handler 0 (.handler .register)), .client (.handler 0 (.handler .insertAck)),
  .client (.handler 0 (.handler .send)),
  .client (.loop 1 .pop), .client (.loop 1 .put),
  .serve (.session 1 (.incoming (Frame.openStream 1 "1.1.1.1:80").message)), .serve (.session 1 .connectOk),
  .serve (.session 1 .answer), .serve (.session 1 (.endpoint .pop)), .serve (.session 1 (.endpoint .put)),
  .client (.loop 1 (.incoming (Frame.openAck 1 true).message)),
  .client (.handler 0 (.handler (.stream .acked))), .client (.handler 0 (.handler (.stream (.greet 10)))),
  .client (.handler 0 (.stream (.arrive [7, 8]))), .client (.handler 0 (.stream (.read 2))),
  .client (.handler 0 .send),
  .client (.loop 1 .pop), .client (.loop 1 .put),
  .serve (.session 1 (.incoming (Frame.data 1 [7, 8]).message)), .serve (.session 1 (.endpoint .route)),
  .serve (.session 1 (.endpoint (.stream 0 .recv))), .serve (.session 1 (.endpoint (.stream 0 (.write 1))))]

/-- A connection breaks, and the next one carries a tunnel. -/
theorem second_tunnelled : ∃ d : EchoProxy.Deployment, d.lines.map Line.session = [0, 1] ∧
    d.client.shared = some 1 ∧
    d.serve.sessions.map (fun session => session.server.streams.map (·.socket.written)) = [[], [[7]]] ∧
    Tunnelled d := by
  have executed : ((deploymentSystem runSetup).exec (.fresh true)
      (bringUp 0 firstUuid firstToken ++ breakDown ++ bringUp 1 secondUuid secondToken ++ throughSecond)).any (fun d =>
        decide (d.lines.map Line.session = [0, 1] ∧ d.client.shared = some 1 ∧
          d.client.listeners.accepted.length = 1 ∧
          d.serve.sessions.map (fun session => session.server.streams.map (·.socket.written)) =
            [[], [[7]]])) = true := by
    decide +kernel
  obtain ⟨d, run, view⟩ := System.reached executed rfl
  obtain ⟨sessions, slot, accepted, written⟩ := of_decide_eq_true view
  exact ⟨d, sessions, slot, written, tunnelled_end_to_end runSetup d run (by rw [accepted]; decide)⟩

end EchoProxy.Proofs.Deployment
