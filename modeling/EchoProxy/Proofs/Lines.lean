import EchoProxy.Proofs.DeploymentSteps
import EchoProxy.Proofs.EndToEnd
import EchoProxy.Proofs.StreamIds

/-! The client program and the server together are their connections side by side: each
line is a client and a session joined by one WebSocket, whatever the other lines and the
server's other clients do. -/

namespace EchoProxy.Proofs.Lines
open EchoProxy Transition ClientSteps ServerSteps ProxySteps ProxyInvariant Authentication DeploymentSteps MuxInvariant Places

variable {setup : Setup} {d d' : Deployment} {tokens : List String}

/-- Connection `conn` from end to end; `token` is the one it was made with. -/
structure Pair (d : Deployment) (tokens : List String) (conn : Nat) (token : String) (c : Client)
    (line : Line) (session : Session) :
    Prop where
  owns : tokens[conn]? = some token
  made : d.client.conns[conn]? = some c
  here : d.lines[conn]? = some line
  there : d.serve.sessions[line.session]? = some session

/-- The two ends of a line as one connection. -/
def joined (c : Client) (line : Line) (session : Session) : Mux := ⟨c, session.server, line.upload, line.download⟩

/-- A line is a run of its own, and its session was admitted with the line's own token. -/
structure Runs (setup : Setup) (token : String) (c : Client) (line : Line) (session : Session) : Prop where
  run : (muxSystem setup.capacity token true).Reachable (joined c line session)
  admitted : ∀ uuid, session.uuid = some uuid → setup.crates.parseUuid token = some uuid

/-- Each connection has its own token, line and session. -/
structure Lined (setup : Setup) (d : Deployment) (tokens : List String) : Prop where
  owned : tokens.length = d.client.conns.length
  lines : d.lines.length = d.client.conns.length
  apart : (d.lines.map Line.session).Nodup
  inside : ∀ line ∈ d.lines, line.session < d.serve.sessions.length
  runs : ∀ conn token c line session, Pair d tokens conn token c line session → Runs setup token c line session

private theorem set_self {α : Type} {items : List α} {k : Nat} {s : α} (found : items[k]? = some s) :
    items.set k s = items := by
  obtain ⟨inside, rfl⟩ := List.getElem?_eq_some_iff.mp found
  exact List.set_getElem_self inside

private theorem map_set {α β : Type} {f : α → β} {items : List α} {k : Nat} {s s' : α}
    (found : items[k]? = some s) (same : f s' = f s) : (items.set k s').map f = items.map f := by
  rw [List.map_set, same]
  exact set_self (by simp [found])

namespace Lined

theorem same (lined : Lined setup d tokens) {i j : Nat} {first second : Line} (found : d.lines[i]? = some first)
    (found' : d.lines[j]? = some second) (same : first.session = second.session) : i = j := by
  have inside := (List.getElem?_eq_some_iff.mp found).1
  apply (List.getElem?_inj (by simpa using inside) lined.apart).mp
  simp [found, found', same]

/-- The connection `conn` of a line has the other parts as well. -/
theorem pair (lined : Lined setup d tokens) {conn : Nat} {line : Line} (here : d.lines[conn]? = some line) :
    ∃ token c session, Pair d tokens conn token c line session := by
  have inside := (List.getElem?_eq_some_iff.mp here).1
  have served := lined.inside line (List.mem_of_getElem? here)
  exact ⟨_, _, _, List.getElem?_eq_getElem (lined.owned.symm ▸ lined.lines ▸ inside),
    List.getElem?_eq_getElem (lined.lines ▸ inside), here, List.getElem?_eq_getElem served⟩

/-- One line moves on. -/
theorem moved (lined : Lined setup d tokens) {conn : Nat} {token : String} {c c' : Client} {line line' : Line}
    {session session' : Session} (pair : Pair d tokens conn token c line session)
    (runs : Runs setup token c' line' session')
    (own : line'.session = line.session) (conns : d'.client.conns = d.client.conns.set conn c')
    (lines : d'.lines = d.lines.set conn line')
    (sessions : d'.serve.sessions = d.serve.sessions.set line.session session') :
    Lined setup d' tokens := by
  refine ⟨by simp [conns, lined.owned], by simp [lines, conns, lined.lines], ?_, ?_, ?_⟩
  · rw [lines, map_set pair.here own]
    exact lined.apart
  · rw [lines, sessions, List.length_set]
    exact forall_set lined.inside (own ▸ lined.inside line (List.mem_of_getElem? pair.here))
  · rintro j token' c₂ line₂ session₂ ⟨owns, client, here, there⟩
    rw [conns] at client
    rw [lines] at here
    rw [sessions] at there
    rcases set_cases here with ⟨rfl, rfl⟩ | ⟨other, here⟩
    · obtain rfl : token' = token := Option.some.inj (owns.symm.trans pair.owns)
      rw [set_found pair.made, Option.some.injEq] at client
      rw [own, set_found pair.there, Option.some.injEq] at there
      subst client there
      exact runs
    · rw [set_other other] at client
      have elsewhere : line₂.session ≠ line.session := fun equal => other (lined.same here pair.here equal)
      rw [set_other elsewhere] at there
      exact lined.runs j token' c₂ line₂ session₂ ⟨owns, client, here, there⟩

/-- The server does something else. -/
theorem elsewhere (lined : Lined setup d tokens) (conns : d'.client.conns = d.client.conns)
    (lines : d'.lines = d.lines) (longer : d.serve.sessions.length ≤ d'.serve.sessions.length)
    (kept : ∀ line ∈ d.lines, d'.serve.sessions[line.session]? = d.serve.sessions[line.session]?) :
    Lined setup d' tokens := by
  refine ⟨conns ▸ lined.owned, lines ▸ conns ▸ lined.lines, lines ▸ lined.apart, ?_, ?_⟩
  · rw [lines]
    exact fun line member => (lined.inside line member).trans_le longer
  · rintro conn token c line session ⟨owns, client, here, there⟩
    rw [lines] at here
    rw [conns] at client
    rw [kept line (List.mem_of_getElem? here)] at there
    exact lined.runs conn token c line session ⟨owns, client, here, there⟩

/-- A new connection gets a new session. -/
theorem dialled (lined : Lined setup d tokens) {token : String}
    (conns : d'.client.conns = d.client.conns ++ [Client.fresh token true])
    (lines : d'.lines = d.lines ++ [⟨d.serve.sessions.length, [], []⟩])
    (sessions : d'.serve.sessions = d.serve.sessions ++ [⟨Server.fresh, none⟩]) :
    Lined setup d' (tokens ++ [token]) := by
  refine ⟨by simp [conns, lined.owned], by simp [lines, conns, lined.lines], ?_, ?_, ?_⟩
  · rw [lines, List.map_append, List.nodup_append]
    refine ⟨lined.apart, by simp, ?_⟩
    intro old member new added
    obtain ⟨line, there, rfl⟩ := List.mem_map.mp member
    have inside := lined.inside line there
    simp only [List.map_cons, List.map_nil, List.mem_singleton] at added
    omega
  · rw [lines, sessions, List.length_append]
    exact forall_append (fun line member => (lined.inside line member).trans_le (Nat.le_add_right _ _)) (by simp)
  · rintro j token' c line session ⟨owns, client, here, there⟩
    rw [conns] at client
    rw [lines] at here
    rw [sessions] at there
    rcases append_cases here with ⟨rfl, rfl⟩ | here
    · rw [lined.lines, List.getElem?_concat_length, Option.some.injEq] at client
      rw [lined.lines, ← lined.owned, List.getElem?_concat_length, Option.some.injEq] at owns
      rw [List.getElem?_concat_length, Option.some.injEq] at there
      subst client owns there
      refine ⟨.init rfl, ?_⟩
      intro uuid held
      cases held
    · have inside := (List.getElem?_eq_some_iff.mp here).1
      rw [List.getElem?_append_left (lined.lines ▸ inside)] at client
      rw [List.getElem?_append_left (lined.owned.symm ▸ lined.lines ▸ inside)] at owns
      rw [List.getElem?_append_left (lined.inside line (List.mem_of_getElem? here))] at there
      exact lined.runs j token' c line session ⟨owns, client, here, there⟩

end Lined

/-! ### Steps -/

/-- A session presents the token of the client at the other end. -/
private theorem presenting_hello {c : Server} (run : serverSystem.Reachable c) :
    ∀ token, c.reader = .presenting token → c.dispatched = [.hello token] := by
  refine run.invariant (p := fun c => ∀ token, c.reader = .presenting token → c.dispatched = [.hello token]) ?_ ?_
  · rintro c rfl token now
    cases now
  · intro before action after prior valid _ taken token now
    have none := (ServerInvariant.server_valid prior).admitted.hello
    cases server_effect taken with
    | endpoint effect =>
      rw [(EndpointAccounts.endpoint_ids effect).2]
      exact valid token now
    | hello waiting =>
      cases now
      simp [ServerSteps.received, none waiting]
    | ignored | writerExit | writerStop => exact valid token now
    | routing running | closed running | skipped running => simp [ServerSteps.received, running] at now
    | _ => cases now

theorem presents {capacity : Nat} {token presented : String} {m : Mux}
    (run : (muxSystem capacity token true).Reachable m)
    (presenting : m.server.reader = .presenting presented) : presented = token := by
  obtain ⟨upload, download, wires⟩ := wires run
  have front := (ClientInvariant.client_valid (client_reach run)).started.order.put_isPrefix
  rw [wires.sent, presenting_hello (server_reach run) presented presenting] at front
  obtain ⟨rest, whole⟩ := front
  exact Frame.hello.inj (List.cons.inj whole).1

section Steps
variable {token : String} {c c' : Client} {line : Line} {session : Session}

/-- A step of the client's end. -/
private theorem Runs.client {move : ClientAction} {upload download : List Message}
    (runs : Runs setup token c line session)
    (stepped : c.step move = some c') (delivered : Mux.deliver move.consumes line.download = some download)
    (transmitted : Mux.transmit setup.capacity line.upload (c.emits move) = some upload) :
    Runs setup token c' { line with upload, download } session := by
  have taken : (muxSystem setup.capacity token true).step (joined c line session) (.client move) =
      some (joined c' { line with upload, download } session) := by
    simp [muxSystem, Mux.step, joined, delivered, transmitted, stepped]
  exact ⟨runs.run.step trivial taken, runs.admitted⟩

/-- A step of the server's end. -/
private theorem Runs.server {move : ServerAction} {server : Server} {upload download : List Message}
    (runs : Runs setup token c line session) (stepped : session.server.step move = some server)
    (delivered : Mux.deliver move.consumes line.upload = some upload)
    (transmitted : Mux.transmit setup.capacity line.download (session.server.emits move) = some download) :
    (muxSystem setup.capacity token true).Reachable (joined c { line with upload, download } { session with server }) := by
  have taken : (muxSystem setup.capacity token true).step (joined c line session) (.server move) =
      some (joined c { line with upload, download } { session with server }) := by
    simp [muxSystem, Mux.step, joined, delivered, transmitted, stepped]
  exact runs.run.step trivial taken

end Steps

/-- A connection moves without reading or writing. -/
private theorem Lined.silent {conn : Nat} {move : ClientAction} {client : Resilient} {asking : Option Nat}
    (lined : Lined setup d tokens) (moved : ConnStep d.client conn move client.conns)
    (consumes : move.consumes = [])
    (emits : ∀ c : Client, c.emits move = []) : Lined setup { d with client, asking } tokens := by
  generalize after : client.conns = conns at moved
  obtain ⟨found, stepped⟩ := moved
  have inside := (List.getElem?_eq_some_iff.mp found).1
  obtain ⟨token, c, session, pair⟩ := lined.pair (List.getElem?_eq_getElem (lined.lines.symm ▸ inside))
  cases found.symm.trans pair.made
  have runs := (lined.runs _ _ _ _ _ pair).client stepped (by rw [consumes]; rfl) (by rw [emits]; rfl)
  exact lined.moved pair runs rfl after (set_self pair.here).symm (set_self pair.there).symm

/-- A session takes a step of its own. -/
private theorem Lined.sessionMoved {serve : Serve} {j : Nat} {session session' : Session}
    (lined : Lined setup d tokens)
    (found : d.serve.sessions[j]? = some session) (sessions : serve.sessions = d.serve.sessions.set j session')
    (runs : ∀ conn token c line, Pair d tokens conn token c line session → Runs setup token c line session') :
    Lined setup { d with serve } tokens := by
  by_cases own : ∃ line ∈ d.lines, line.session = j
  · obtain ⟨line, member, rfl⟩ := own
    obtain ⟨conn, here⟩ := List.getElem?_of_mem member
    obtain ⟨token, c, session₂, pair⟩ := lined.pair here
    cases found.symm.trans pair.there
    exact lined.moved pair (runs _ _ _ _ pair) rfl (set_self pair.made).symm (set_self pair.here).symm sessions
  · refine lined.elsewhere rfl rfl (by simp [sessions]) ?_
    intro line member
    rw [sessions]
    exact set_other (fun same => own ⟨line, member, same⟩) _

/-- The server's step on a `/control` connection, on a session of another client, or a
verdict on a token. -/
private theorem Lined.served {action : ServeAction} {serve : Serve} (lined : Lined setup d tokens)
    (effect : ServeEffect setup.crates setup.users d.serve action serve)
    (foreign : ∀ j move, action = .session j move → ∀ line ∈ d.lines, line.session ≠ j) :
    Lined setup { d with serve } tokens := by
  cases effect with
  | unrouted | control | stop | issued | controlled => exact lined.elsewhere rfl rfl le_rfl fun _ _ => rfl
  | mux =>
    refine lined.elsewhere rfl rfl (by simp) ?_
    intro line member
    exact List.getElem?_append_left (lined.inside line member)
  | @admitted j session presented uuid server found presenting parsed _ stepped =>
    refine lined.sessionMoved found rfl ?_
    intro conn token c line pair
    have runs := lined.runs _ _ _ _ _ pair
    have own : presented = token := presents runs.run presenting
    refine ⟨runs.server stepped rfl rfl, ?_⟩
    rintro _ ⟨⟩
    exact own ▸ parsed
  | rejected found stepped =>
    refine lined.sessionMoved found rfl ?_
    intro conn token c line pair
    have runs := lined.runs _ _ _ _ _ pair
    exact ⟨runs.server stepped rfl rfl, runs.admitted⟩
  | @session j session move server found _ stepped =>
    refine lined.elsewhere rfl rfl (by simp) ?_
    intro line member
    exact set_other (foreign j move rfl line member) _

/-- A step keeps every line a run of its own; only `dial` brings a new one, for the token in
the keeper's hand. -/
theorem Lined.step {action : DeploymentAction} (lined : Lined setup d tokens)
    (effect : DeploymentEffect setup d action d') :
    action ≠ .dial ∧ Lined setup d' tokens ∨
      ∃ token, action = .dial ∧ d.client.keeper = .connecting token ∧ Lined setup d' (tokens ++ [token]) := by
  cases effect with
  | alone taken own unwired =>
    refine .inl ⟨by simp, ?_⟩
    rcases unwired_move (resilient_effect taken) own unwired with same | ⟨conn, move, moved, consumes, emits⟩
    · exact lined.elsewhere same rfl le_rfl fun _ _ => rfl
    · exact lined.silent moved consumes emits
  | @wired action client conn move c line upload download taken own wired there here delivered transmitted =>
    refine .inl ⟨by simp, ?_⟩
    have moved := wired_move (resilient_effect taken) wired
    generalize after : client.conns = conns at moved
    obtain ⟨found, stepped⟩ := moved
    cases there.symm.trans found
    obtain ⟨token, c₂, session, pair⟩ := lined.pair here
    cases there.symm.trans pair.made
    have runs := (lined.runs _ _ _ _ _ pair).client stepped delivered transmitted
    exact lined.moved pair runs rfl after rfl (set_self pair.there).symm
  | served taken foreign => exact .inl ⟨by simp, lined.served (serve_effect taken) foreign⟩
  | @session j move serve conn session line upload download taken there here own delivered transmitted =>
    refine .inl ⟨by simp, ?_⟩
    subst own
    obtain ⟨token, c, session₂, pair⟩ := lined.pair here
    cases there.symm.trans pair.there
    have runs := lined.runs _ _ _ _ _ pair
    cases serve_effect taken with
    | session found _ stepped =>
      cases there.symm.trans found
      exact lined.moved pair
        ⟨runs.server stepped delivered transmitted, runs.admitted⟩ rfl (set_self pair.made).symm rfl rfl
  | ask now taken =>
    refine .inl ⟨by simp, ?_⟩
    have effect := serve_effect taken
    generalize named : ServeAction.connect "/control" = action at effect
    have asked := lined.served effect (by rintro j move rfl; cases named)
    exact asked.elsewhere rfl rfl le_rfl fun _ _ => rfl
  | @obtain i control token client asking there answered taken =>
    refine .inl ⟨by simp, lined.elsewhere ?_ rfl le_rfl fun _ _ => rfl⟩
    have obtained : d.client.keeperStep (.obtained token) = some client := taken
    cases keeper_effect obtained with
    | obtained => rfl
    | took _ _ why => simp at why
    | empty _ _ which => simp at which
  | @dial client serve taken accepted =>
    have dialled : d.client.keeperStep .connected = some client := taken
    have sessions : (d.serve.step setup.crates setup.users (.connect "/mux")) =
        if d.serve.listening then
          some { d.serve with sessions := d.serve.sessions ++ [⟨Server.fresh, none⟩] }
        else none := by
      rfl
    rw [sessions] at accepted
    split at accepted
    · cases accepted
      cases keeper_effect dialled with
      | connected now => exact .inr ⟨_, rfl, now, lined.dialled rfl rfl rfl⟩
      | took _ _ why => simp at why
      | empty _ _ which => simp at which
    · cases accepted

/-- In every reachable state of the two programs. -/
theorem lined (run : (deploymentSystem setup).Reachable d) : ∃ tokens, Lined setup d tokens := by
  refine run.invariant (p := fun d => ∃ tokens, Lined setup d tokens) ?_ ?_
  · rintro d rfl
    refine ⟨[], rfl, rfl, List.nodup_nil, by simp [Deployment.fresh], ?_⟩
    rintro conn token c line session ⟨owns, -⟩
    cases owns
  · rintro before action after - ⟨tokens, lined⟩ - taken
    rcases lined.step (deployment_effect taken) with ⟨-, lined⟩ | ⟨token, -, -, lined⟩
    · exact ⟨_, lined⟩
    · exact ⟨_, lined⟩

end EchoProxy.Proofs.Lines
