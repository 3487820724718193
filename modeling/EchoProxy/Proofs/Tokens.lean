import EchoProxy.Proofs.Deployment
import EchoProxy.Proofs.Handshake

/-! The tokens of the client: each is the answer to one `/control` connection of its own,
so its connections never compete for one, and each is still in the store when its HELLO is
read unless another client has spent it. -/

namespace EchoProxy.Proofs.Tokens
open EchoProxy Transition ProxySteps ProxyInvariant Authentication Handshake DeploymentSteps Lines Places

/-! ### Answers on `/control` -/

/-- A text that is sent or about to be. -/
def Answers (c : Control) (text : String) : Prop := text ∈ c.sent ∨ ∃ closes, c.stage = .sending text closes

theorem firstMessage_sent {c : Control} {token : String}
    (answered : obtainTokenWithVersion c.firstMessage = some token) :
    ∃ text ∈ c.sent, obtainTokenWithVersion (some (.text text)) = some token := by
  obtain ⟨stage, sent⟩ := c
  cases sent with
  | cons text rest => exact ⟨text, by simp, answered⟩
  | nil => cases stage <;> simp [Control.firstMessage, obtainTokenWithVersion, ServerMessage.toText,
      List.isPrefixOf?] at answered

/-- Each token was issued on the connection that carries it; `owner` is the connection a
UUID was issued on. -/
def Owned (crates : Crates) (s : Serve) (owner : Uuid → Nat) : Prop :=
  ∀ (i : Nat) (c : Control) (text token : String), s.controls[i]? = some c → Answers c text →
    obtainTokenWithVersion (some (.text text)) = some token →
      ∃ uuid ∈ s.issued.map Grant.uuid, token = crates.formatUuid uuid ∧ owner uuid = i

section Serve
variable {crates : Crates} {users : List String} {s s' : Serve} {action : ServeAction} {owner : Uuid → Nat}

private theorem issued_grows (effect : ServeEffect crates users s action s') : s.issued <+: s'.issued := by
  cases effect with
  | issued => exact List.prefix_append _ _
  | _ => exact List.prefix_refl _

private theorem Owned.mono (owned : Owned crates s owner) (controls : s'.controls = s.controls)
    (grows : s.issued <+: s'.issued) :
    Owned crates s' owner := by
  intro i c text token found answers decoded
  rw [controls] at found
  obtain ⟨uuid, issued, own⟩ := owned i c text token found answers decoded
  exact ⟨uuid, (grows.map Grant.uuid).subset issued, own⟩

/-- What connection `i` carries after one of its own steps that hears nothing, it did before. -/
private theorem answers_before {c c' : Control} {own : ControlAction} {text : String}
    (effect : ControlEffect crates users c own c')
    (deaf : ∀ message uuid, own ≠ .incoming message uuid) (answers : Answers c' text) : Answers c text := by
  cases effect with
  | heard => exact absurd rfl (deaf _ _)
  | @sent sent closes sending =>
    rcases answers with member | ⟨closes', stage⟩
    · rcases List.mem_append.mp member with earlier | now
      · exact .inl earlier
      · rw [List.mem_singleton.mp now]
        exact .inr ⟨closes, sending⟩
    · cases closes <;> cases stage
  | @unsent _ closes =>
    rcases answers with member | ⟨closes', stage⟩
    · exact .inl member
    · cases closes <;> cases stage
  | closed | drop =>
    rcases answers with member | ⟨closes', stage⟩
    · exact .inl member
    · cases stage

/-- After its message it also carries the answer. -/
private theorem answers_heard {c : Control} {uuid : Uuid} {verdict : Verdict} {text : String}
    (answers : Answers { c with stage := afterVerdict crates uuid verdict } text) :
    Answers c text ∨ answer crates uuid verdict = some text := by
  rcases answers with member | ⟨closes, stage⟩
  · exact .inl (.inl member)
  · cases verdict with
    | close => cases stage
    | bye reason => cases stage; exact .inr rfl
    | issue version user => cases stage; exact .inr rfl

/-- A new connection carries nothing. -/
private theorem waiting_silent' (text : String) : ¬ Answers ⟨.waiting, []⟩ text := by
  rintro (member | ⟨closes, stage⟩)
  · cases member
  · cases stage

/-- Connection `i` moves on, and what it carries then it carried before or was issued on it. -/
private theorem Owned.set {owner' : Uuid → Nat} {i : Nat} {c c' : Control} (owned : Owned crates s owner)
    (found : s.controls[i]? = some c) (controls : s'.controls = s.controls.set i c')
    (grows : s.issued <+: s'.issued) (same : ∀ uuid ∈ s.issued.map Grant.uuid, owner' uuid = owner uuid)
    (carries : ∀ text token, Answers c' text → obtainTokenWithVersion (some (.text text)) = some token →
      Answers c text ∨ ∃ uuid ∈ s'.issued.map Grant.uuid, token = crates.formatUuid uuid ∧ owner' uuid = i) :
    Owned crates s' owner' := by
  have old {j : Nat} {c₂ : Control} {text token : String}
      (there : s.controls[j]? = some c₂) (answers : Answers c₂ text)
      (decoded : obtainTokenWithVersion (some (.text text)) = some token) :
      ∃ uuid ∈ s'.issued.map Grant.uuid, token = crates.formatUuid uuid ∧ owner' uuid = j := by
    obtain ⟨uuid, issued, spelled, mine⟩ := owned j c₂ text token there answers decoded
    exact ⟨uuid, (grows.map Grant.uuid).subset issued, spelled, (same uuid issued).trans mine⟩
  intro j c₂ text token there answers decoded
  rw [controls] at there
  rcases set_cases there with ⟨rfl, rfl⟩ | ⟨-, there⟩
  · rcases carries text token answers decoded with before | new
    · exact old found before decoded
    · exact new
  · exact old there answers decoded

/-- A step issues at most one token, on the connection whose message it hears. -/
private theorem Owned.step (owned : Owned crates s owner) (fresh : newV4Fresh crates users s action = true)
    (taken : s.step crates users action = some s') :
    ∃ owner', Owned crates s' owner' ∧ ∀ uuid ∈ s.issued.map Grant.uuid, owner' uuid = owner uuid := by
  have effect := serve_effect taken
  have grows := issued_grows effect
  rcases controls_step taken with ⟨i, own, c, c', rfl, found, moved, controls⟩ | same | added
  · by_cases hears : ∃ message uuid, own = .incoming message uuid
    · obtain ⟨message, uuid, rfl⟩ := hears
      obtain rfl : c' = { c with stage := afterVerdict crates uuid (judge crates users message) } := by
        cases moved
        rfl
      -- the answer to the message is a token only if one was issued
      have worth {text token : String} (answered : answer crates uuid (judge crates users message) = some text)
          (decoded : obtainTokenWithVersion (some (.text text)) = some token) :
          token = crates.formatUuid uuid ∧ ∃ version user, judge crates users message = .issue version user := by
        apply answer_token.mp
        rw [answered]
        exact decoded
      by_cases judged : ∃ version user, judge crates users message = .issue version user
      · obtain ⟨version, user, judged⟩ := judged
        have unused : uuid ∉ s.issued.map Grant.uuid := by simpa [newV4Fresh, judged] using fresh
        have issued : uuid ∈ s'.issued.map Grant.uuid := by
          cases effect with
          | issued => simp
          | controlled unissued => exact absurd judged (unissued _ _ _ _ rfl)
        have others : ∀ other ∈ s.issued.map Grant.uuid, Function.update owner uuid i other = owner other := by
          intro other old
          apply Function.update_of_ne
          rintro rfl
          exact unused old
        refine ⟨Function.update owner uuid i, owned.set found controls grows others ?_, others⟩
        intro text token answers decoded
        rcases answers_heard answers with before | answered
        · exact .inl before
        · exact .inr ⟨uuid, issued, (worth answered decoded).1, Function.update_self _ _ _⟩
      · refine ⟨owner, owned.set found controls grows (fun _ _ => rfl) ?_, fun _ _ => rfl⟩
        intro text token answers decoded
        rcases answers_heard answers with before | answered
        · exact .inl before
        · exact absurd (worth answered decoded).2 judged
    · refine ⟨owner, owned.set found controls grows (fun _ _ => rfl) ?_, fun _ _ => rfl⟩
      intro text token answers decoded
      exact .inl (answers_before moved (fun message uuid same => hears ⟨message, uuid, same⟩) answers)
  · exact ⟨owner, owned.mono same grows, fun _ _ => rfl⟩
  · refine ⟨owner, ?_, fun _ _ => rfl⟩
    intro j c₂ text token there answers decoded
    rw [added] at there
    rcases append_cases there with ⟨-, rfl⟩ | there
    · exact absurd answers (waiting_silent' text)
    · obtain ⟨uuid, issued, mine⟩ := owned j c₂ text token there answers decoded
      exact ⟨uuid, (grows.map Grant.uuid).subset issued, mine⟩

theorem controls_grow (taken : s.step crates users action = some s') :
    s.controls.length ≤ s'.controls.length := by
  rcases controls_step taken with ⟨i, own, c, c', -, -, -, controls⟩ | controls | controls <;> simp [controls]

end Serve

/-! ### The client's tokens -/

section Deployment
variable {setup : Setup} {d d' : EchoProxy.Deployment} {tokens : List String} {owner : Uuid → Nat} {uuids : List Uuid}

/-- `Uuid::new_v4` at the server returns a value it has not returned before. -/
def deploymentFresh (setup : Setup) (d : EchoProxy.Deployment) : DeploymentAction → Bool
  | .serve action => newV4Fresh setup.crates setup.users d.serve action
  | _ => true

/-- The tokens of the connections made, and the one in the keeper's hand, are of different
UUIDs, each issued on another `/control` connection. -/
structure Sourced (setup : Setup) (d : EchoProxy.Deployment) (tokens : List String) (owner : Uuid → Nat)
    (uuids : List Uuid) : Prop where
  owned : Owned setup.crates d.serve owner
  issued : ∀ uuid ∈ uuids, uuid ∈ d.serve.issued.map Grant.uuid
  asked : ∀ uuid ∈ uuids, owner uuid < d.serve.controls.length ∧ d.asking ≠ some (owner uuid)
  spelled : tokens ++ inHand d.client.keeper = uuids.map setup.crates.formatUuid
  apart : uuids.Nodup

/-- The server's step, with a new `/control` connection if the client asks for one. -/
private theorem Sourced.serve {action : ServeAction} {serve : Serve} {lines : List Line} {asking : Option Nat}
    (sourced : Sourced setup d tokens owner uuids)
    (fresh : newV4Fresh setup.crates setup.users d.serve action = true)
    (taken : d.serve.step setup.crates setup.users action = some serve)
    (asks : asking = d.asking ∨ asking = some d.serve.controls.length) :
    ∃ owner, Sourced setup { d with serve, lines, asking } tokens owner uuids := by
  obtain ⟨owner', owned, same⟩ := sourced.owned.step fresh taken
  have grows := issued_grows (serve_effect taken)
  refine ⟨owner', owned, ?_, ?_, sourced.spelled, sourced.apart⟩
  · intro uuid member
    exact (grows.map Grant.uuid).subset (sourced.issued uuid member)
  · intro uuid member
    rw [same uuid (sourced.issued uuid member)]
    obtain ⟨inside, other⟩ := sourced.asked uuid member
    refine ⟨inside.trans_le (controls_grow taken), ?_⟩
    rcases asks with rfl | rfl
    · exact other
    · intro equal
      exact absurd (Option.some.inj equal) inside.ne'

/-- A step of the client after which the keeper has the same token in hand, or none. -/
private theorem Sourced.client {client : Resilient} {lines : List Line} {asking : Option Nat}
    (sourced : Sourced setup d tokens owner uuids)
    (hand : inHand client.keeper = inHand d.client.keeper ∨ inHand client.keeper = [])
    (forgets : asking = d.asking ∨ asking = none) :
    ∃ uuids, Sourced setup { d with client, lines, asking } tokens owner uuids := by
  have asked : ∀ uuid ∈ uuids, owner uuid < d.serve.controls.length ∧ asking ≠ some (owner uuid) := by
    intro uuid member
    obtain ⟨inside, other⟩ := sourced.asked uuid member
    refine ⟨inside, ?_⟩
    rcases forgets with rfl | rfl
    · exact other
    · simp
  rcases hand with same | empty
  · exact ⟨uuids, sourced.owned, sourced.issued, asked, same ▸ sourced.spelled, sourced.apart⟩
  · refine ⟨uuids.take tokens.length, sourced.owned, fun uuid member =>
      sourced.issued uuid (List.mem_of_mem_take member),
      fun uuid member => asked uuid (List.mem_of_mem_take member), ?_,
      sourced.apart.sublist (List.take_sublist _ _)⟩
    rw [empty, List.append_nil, List.map_take, ← sourced.spelled, List.take_left]

/-- What a step of the client that needs no server does to the token in hand. -/
private theorem hand_kept {p p' : Resilient} {action : ResilientAction} (effect : ResilientEffect p action p')
    (own : joint action = false) : inHand p'.keeper = inHand p.keeper ∨ inHand p'.keeper = [] := by
  cases effect with
  | keeper effect =>
    cases effect with
    | obtained | connected => simp [joint] at own
    | @empty _ _ last => cases last <;> exact .inr rfl
    | @close _ last => cases last <;> exact .inr rfl
    | _ => exact .inr rfl
  | _ => exact .inl rfl

/-- The answer on the connection the keeper asked on is a token of a UUID it does not have. -/
private theorem Sourced.obtain {i : Nat} {control : Control} {token : String} {client : Resilient}
    (sourced : Sourced setup d tokens owner uuids) (asking : d.asking = some i)
    (there : d.serve.controls[i]? = some control)
    (answered : obtainTokenWithVersion control.firstMessage = some token) (before : inHand d.client.keeper = [])
    (after : inHand client.keeper = [token]) : ∃ uuids,
      Sourced setup { d with client, asking := none } tokens owner uuids := by
  obtain ⟨text, sent, decoded⟩ := firstMessage_sent answered
  obtain ⟨uuid, issued, rfl, mine⟩ := sourced.owned i control text token there (.inl sent) decoded
  have spelled := sourced.spelled
  rw [before, List.append_nil] at spelled
  refine ⟨uuids ++ [uuid], sourced.owned, forall_append sourced.issued issued, ?_, ?_, ?_⟩
  · refine forall_append (fun other member => ⟨(sourced.asked other member).1, by simp⟩) ⟨?_, by simp⟩
    exact mine ▸ (List.getElem?_eq_some_iff.mp there).1
  · rw [after, spelled, List.map_append, List.map_singleton]
  · refine List.nodup_append.mpr ⟨sourced.apart, by simp, ?_⟩
    rintro other member _ added rfl
    rw [List.mem_singleton.mp added] at member
    exact (sourced.asked uuid member).2 (asking.trans (congrArg some mine.symm))

private theorem sourced_step {action : DeploymentAction} (lined : Lined setup d tokens)
    (sourced : Sourced setup d tokens owner uuids)
    (fresh : deploymentFresh setup d action = true) (effect : DeploymentEffect setup d action d') :
    ∃ tokens owner uuids, Lined setup d' tokens ∧ Sourced setup d' tokens owner uuids := by
  have moves := lined.step effect
  cases effect with
  | alone taken own _ forgets =>
    obtain ⟨-, lined⟩ := moves.resolve_right (by simp)
    obtain ⟨uuids, sourced⟩ := sourced.client (hand_kept (resilient_effect taken) own) forgets
    exact ⟨tokens, owner, uuids, lined, sourced⟩
  | wired taken own =>
    obtain ⟨-, lined⟩ := moves.resolve_right (by simp)
    obtain ⟨uuids, sourced⟩ := sourced.client (hand_kept (resilient_effect taken) own) (.inl rfl)
    exact ⟨tokens, owner, uuids, lined, sourced⟩
  | served taken =>
    obtain ⟨-, lined⟩ := moves.resolve_right (by simp)
    obtain ⟨owner, sourced⟩ := sourced.serve fresh taken (.inl rfl)
    exact ⟨tokens, owner, uuids, lined, sourced⟩
  | session taken =>
    obtain ⟨-, lined⟩ := moves.resolve_right (by simp)
    obtain ⟨owner, sourced⟩ := sourced.serve rfl taken (.inl rfl)
    exact ⟨tokens, owner, uuids, lined, sourced⟩
  | ask now taken =>
    obtain ⟨-, lined⟩ := moves.resolve_right (by simp)
    obtain ⟨owner, sourced⟩ := sourced.serve rfl taken (.inr rfl)
    exact ⟨tokens, owner, uuids, lined, sourced⟩
  | @obtain i control token client asking there answered taken =>
    obtain ⟨-, lined⟩ := moves.resolve_right (by simp)
    have obtained : d.client.keeperStep (.obtained token) = some client := taken
    have hands : inHand d.client.keeper = [] ∧ inHand client.keeper = [token] := by
      cases keeper_effect obtained with
      | obtained now => simp [inHand, now]
      | took _ _ why => simp at why
      | empty _ _ which => simp at which
    obtain ⟨uuids, sourced⟩ := sourced.obtain asking there answered hands.1 hands.2
    exact ⟨tokens, owner, uuids, lined, sourced⟩
  | @dial client serve taken accepted =>
    obtain ⟨token, -, now, lined⟩ := moves.resolve_left (by simp)
    have connected : d.client.keeperStep .connected = some client := taken
    have empty : inHand client.keeper = [] := by
      cases keeper_effect connected with
      | connected => rfl
      | took _ _ why => simp at why
      | empty _ _ which => simp at which
    have served : ∃ owner, Sourced setup { d with serve } tokens owner uuids :=
      sourced.serve rfl accepted (.inl rfl)
    obtain ⟨owner, served⟩ := served
    refine ⟨tokens ++ [token], owner, uuids, lined, served.owned, served.issued, served.asked, ?_, served.apart⟩
    have spelled := sourced.spelled
    rw [now, inHand] at spelled
    rw [empty, List.append_nil, spelled]

theorem sourced (run : ((deploymentSystem setup).when (deploymentFresh setup)).Reachable d) :
    ∃ tokens owner uuids, Lined setup d tokens ∧ Sourced setup d tokens owner uuids := by
  refine run.invariant (p := fun d => ∃ tokens owner uuids, Lined setup d tokens ∧
    Sourced setup d tokens owner uuids) ?_ ?_
  · rintro d rfl
    refine ⟨[], fun _ => 0, [], ⟨rfl, rfl, List.nodup_nil, by simp [EchoProxy.Deployment.fresh], ?_⟩, ?_,
      by simp, by simp, rfl,
      List.nodup_nil⟩
    · rintro conn token c line session ⟨owns, -⟩
      cases owns
    · intro i c text token found
      cases found
  · rintro before action after - ⟨tokens, owner, uuids, lined, sourced⟩ - taken
    obtain ⟨fresh, taken⟩ := System.when_step.mp taken
    exact sourced_step lined sourced fresh (deployment_effect taken)

/-- The server of a deployment, with fresh UUIDs. -/
theorem server_fresh (run : ((deploymentSystem setup).when (deploymentFresh setup)).Reachable d) :
    ((serveSystem setup.crates setup.users).when (newV4Fresh setup.crates setup.users)).Reachable d.serve := by
  refine run.component EchoProxy.Deployment.serve (by rintro d rfl; rfl) ?_
  intro before action after _ taken
  obtain ⟨fresh, taken⟩ := System.when_step.mp taken
  cases deployment_effect taken with
  | alone | wired | obtain => exact .inl rfl
  | served stepped => exact .inr ⟨_, trivial, System.when_step.mpr ⟨fresh, stepped⟩⟩
  | @session j move _ _ _ _ _ _ stepped =>
      exact .inr ⟨.session j move, trivial, System.when_step.mpr ⟨fresh, stepped⟩⟩
  | ask _ stepped => exact .inr ⟨.connect "/control", trivial, System.when_step.mpr ⟨rfl, stepped⟩⟩
  | dial _ stepped => exact .inr ⟨.connect "/mux", trivial, System.when_step.mpr ⟨rfl, stepped⟩⟩

/-- What reading the HELLO of connection `conn` comes to. -/
structure Admission (setup : Setup) (d : EchoProxy.Deployment) (line : Line) (token : String) : Prop where
  /-- The token was issued, and is in the store unless a session of another client has it. -/
  unspent : ∃ uuid ∈ d.serve.issued.map Grant.uuid, setup.crates.parseUuid token = some uuid ∧
    (uuid ∈ d.serve.tokenStore ∨ ∃ j, Holds d.serve j uuid ∧ ∀ line ∈ d.lines, line.session ≠ j)
  /-- The server admits the session if no other client has it. -/
  admits : (∀ j uuid, setup.crates.parseUuid token = some uuid → Holds d.serve j uuid →
    ∃ line ∈ d.lines, line.session = j) →
    ∃ d' session', d.step setup (.serve (.present line.session)) = some d' ∧
      d'.serve.sessions[line.session]? = some session' ∧
      session'.server.reader = .running ∧ session'.uuid = setup.crates.parseUuid token

/-- The UUID of a connection's token. -/
private theorem Sourced.uuid {conn : Nat} {token : String} (sourced : Sourced setup d tokens owner uuids)
    (owns : tokens[conn]? = some token) :
    ∃ uuid, uuids[conn]? = some uuid ∧ token = setup.crates.formatUuid uuid := by
  have inside := (List.getElem?_eq_some_iff.mp owns).1
  have whole : (uuids.map setup.crates.formatUuid)[conn]? = some token := by
    rw [← sourced.spelled, List.getElem?_append_left inside, owns]
  rw [List.getElem?_map] at whole
  obtain ⟨uuid, there, rfl⟩ := Option.map_eq_some_iff.mp whole
  exact ⟨uuid, there, rfl⟩

/-- Two connections of the client never have tokens of one UUID. -/
private theorem Sourced.same {i j : Nat} {first second : String} {uuid : Uuid}
    (sourced : Sourced setup d tokens owner uuids)
    (reads : ∀ uuid, setup.crates.parseUuid (setup.crates.formatUuid uuid) = some uuid)
    (owns : tokens[i]? = some first)
    (owns' : tokens[j]? = some second) (parsed : setup.crates.parseUuid first = some uuid)
    (parsed' : setup.crates.parseUuid second = some uuid) : i = j := by
  obtain ⟨own, there, rfl⟩ := sourced.uuid owns
  obtain ⟨other, there', rfl⟩ := sourced.uuid owns'
  rw [reads] at parsed parsed'
  have inside := (List.getElem?_eq_some_iff.mp there).1
  apply (List.getElem?_inj inside sourced.apart).mp
  rw [there, there', parsed, parsed']

/-- A session that waits for the verdict on its token holds none. -/
private theorem presenting_holds {crates : Crates} {users : List String} {s : Serve}
    (run : (serveSystem crates users).Reachable s)
    {session : Session} {token : String} (member : session ∈ s.sessions)
    (presenting : session.server.reader = .presenting token) :
    session.uuid = none := by
  have known := sessions_known run session member
  have waiting := (ServerInvariant.server_valid known.run).admitted.waiting (.inr ⟨token, presenting⟩)
  by_contra some
  exact known.uuid.mpr some waiting.1

/-- A connection of the client that presents its token is admitted, whatever became of the
connections before it, unless another client has spent the token first. -/
theorem own_token_admitted (setup : Setup)
    (reads : ∀ uuid, setup.crates.parseUuid (setup.crates.formatUuid uuid) = some uuid)
    (d : EchoProxy.Deployment) (run : ((deploymentSystem setup).when (deploymentFresh setup)).Reachable d)
    (conn : Nat) (line : Line) (session : Session) (token : String) (here : d.lines[conn]? = some line)
    (there : d.serve.sessions[line.session]? = some session)
    (presenting : session.server.reader = .presenting token) :
    Admission setup d line token := by
  obtain ⟨tokens, owner, uuids, lined, sourced⟩ := sourced run
  have balanced := tokens_balanced (server_fresh run)
  obtain ⟨own, c, session', pair⟩ := lined.pair here
  cases there.symm.trans pair.there
  obtain rfl : token = own := presents (lined.runs _ _ _ _ _ pair).run presenting
  obtain ⟨uuid, place, spelled⟩ := sourced.uuid pair.owns
  have parsed : setup.crates.parseUuid token = some uuid := by rw [spelled, reads]
  have issued := sourced.issued uuid (List.mem_of_getElem? place)
  have foreign : ∀ j, Holds d.serve j uuid → ∀ line' ∈ d.lines, line'.session ≠ j := by
    rintro j ⟨holder, found, held⟩ line' member rfl
    obtain ⟨i, here'⟩ := List.getElem?_of_mem member
    obtain ⟨other, c', session', pair'⟩ := lined.pair here'
    cases found.symm.trans pair'.there
    have read := (lined.runs _ _ _ _ _ pair').admitted uuid held
    cases sourced.same reads pair.owns pair'.owns parsed read
    cases here.symm.trans here'
    cases there.symm.trans found
    have none := presenting_holds (server_fresh run).unguarded (List.mem_of_getElem? there) presenting
    simp [none] at held
  refine ⟨⟨uuid, issued, parsed, ?_⟩, ?_⟩
  · rcases (balanced.covers uuid).mp issued with stored | ⟨j, held⟩
    · exact .inl stored
    · exact .inr ⟨j, held, foreign j held⟩
  · intro honest
    have stored : uuid ∈ d.serve.tokenStore := by
      rcases (balanced.covers uuid).mp issued with stored | ⟨j, held⟩
      · exact stored
      · obtain ⟨line', member, same⟩ := honest j uuid parsed held
        exact absurd same (foreign j held line' member)
    have accepted : session.server.step .accept =
        some { session.server with reader := .running, writer := .receiving } := by
      simp [Server.step, presenting]
    have taken : d.serve.step setup.crates setup.users (.present line.session) = some { d.serve with
        tokenStore := d.serve.tokenStore.erase uuid
        sessions := d.serve.sessions.set line.session
          ⟨{ session.server with reader := .running, writer := .receiving }, some uuid⟩ } := by
      simp [Serve.step, there, Serve.present, presenting, parsed, stored, accepted]
    have stepped := congrArg (·.bind (d.serveStep setup (.present line.session))) taken
    exact ⟨_, _, stepped, set_found there _, rfl, parsed.symm⟩

end Deployment

/-! ### A run -/

private def helloUuid : Uuid := 0x6e1f4a32000040008000000000000001#128
private def helloToken : String := "6e1f4a32-0000-4000-8000-000000000001"

/-- The crates on the texts of the run below; every other UUID is spelled in its own way. -/
private def helloCrates : Crates where
  parseUuid text := if text = helloToken then some helloUuid else some (BitVec.ofNat 128 text.toList.length)
  formatUuid uuid := if uuid = helloUuid then helloToken else String.ofList (List.replicate uuid.toNat 'u')
  Version := Nat × Nat × Nat
  parseVersion text := if text = "0.2.0" then some (0, 2, 0) else none
  satisfies _ version := 0 < version.1 || 1 ≤ version.2.1

private theorem helloCrates_reads (uuid : Uuid) :
    helloCrates.parseUuid (helloCrates.formatUuid uuid) = some uuid := by
  by_cases own : uuid = helloUuid
  · simp [helloCrates, own]
  · have different : String.ofList (List.replicate uuid.toNat 'u') ≠ helloToken := by
      intro same
      have hyphen : '-' ∈ List.replicate uuid.toNat 'u' := by
        rw [← String.toList_ofList (l := List.replicate uuid.toNat 'u'), same]
        decide
      simp at hyphen
    simp [helloCrates, own, different]

private def helloSetup : Setup := ⟨1, helloCrates, ["alice"], "0.2.0", "alice", false⟩

/-- The keeper asks for a token, connects and sends it. -/
private def toPresent : List DeploymentAction := [
  .ask, .serve (.control 0 (.incoming (helloMessage "0.2.0" "alice") helloUuid)),
  .serve (.control 0 .sent), .obtain,
  .dial, .client (.keeper .greeted), .serve (.session 0 (.incoming (Frame.hello helloToken).message))]

theorem first_token_admitted : ∃ (d : EchoProxy.Deployment) (line : Line),
    d.lines = [line] ∧ Admission helloSetup d line helloToken := by
  have executed : (((deploymentSystem helloSetup).when (deploymentFresh helloSetup)).exec
      (.fresh false) toPresent).any (fun d =>
      decide (d.lines.map Line.session = [0] ∧
        d.serve.sessions.map (·.server.reader) = [.presenting helloToken])) = true := by
    decide +kernel
  obtain ⟨d, run, view⟩ := System.reached executed rfl
  obtain ⟨lines, sessions⟩ := of_decide_eq_true view
  obtain ⟨line, only, own⟩ := List.map_eq_singleton_iff.mp lines
  obtain ⟨session, served, presenting⟩ := List.map_eq_singleton_iff.mp sessions
  have here : d.lines[0]? = some line := by simp [only]
  have there : d.serve.sessions[line.session]? = some session := by simp [own, served]
  exact ⟨d, line, only,
    own_token_admitted helloSetup helloCrates_reads d run 0 line session helloToken here there presenting⟩

end EchoProxy.Proofs.Tokens
