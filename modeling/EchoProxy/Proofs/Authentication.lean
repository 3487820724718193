import EchoProxy.Lib.Ledger
import EchoProxy.Proofs.ServerInvariant
import EchoProxy.Serve

/-! Who gets a mux session. `process_control` issues a UUID to a listed user, a HELLO
takes it out of the token store, and only then is anything dialed. -/

namespace EchoProxy.Proofs.Authentication
open EchoProxy EndpointSteps ServerSteps Places

variable {crates : Crates} {users : List String} {s s' : Serve} {action : ServeAction}

/-! ### Steps of the server -/

/-- What the server does. -/
inductive ServeEffect (crates : Crates) (users : List String) (s : Serve) : ServeAction → Serve → Prop where
  | unrouted {path} : ServeEffect crates users s (.connect path) s
  | control {path} : ServeEffect crates users s (.connect path) { s with controls := s.controls ++ [⟨.waiting, []⟩] }
  | mux {path} : ServeEffect crates users s (.connect path) { s with sessions := s.sessions ++ [⟨Server.fresh, none⟩] }
  | stop : ServeEffect crates users s .stop { s with listening := false }
  | issued {i message uuid version user controls} (judged : judge crates users message = .issue version user) :
    ServeEffect crates users s (.control i (.incoming message uuid))
      { s with tokenStore := insert uuid s.tokenStore, issued := s.issued ++ [⟨uuid, version, user⟩], controls }
  | controlled {i action controls} (unissued : ∀ message uuid version user, action = .incoming message uuid →
      judge crates users message ≠ .issue version user) :
    ServeEffect crates users s (.control i action) { s with controls }
  | admitted {j session token uuid server} (found : s.sessions[j]? = some session)
      (presenting : session.server.reader = .presenting token) (parsed : crates.parseUuid token = some uuid)
      (stored : uuid ∈ s.tokenStore) (stepped : session.server.step .accept = some server) :
    ServeEffect crates users s (.present j)
      { s with tokenStore := s.tokenStore.erase uuid, sessions := s.sessions.set j ⟨server, some uuid⟩ }
  | rejected {j session server} (found : s.sessions[j]? = some session) (stepped : session.server.step .reject = some server) :
    ServeEffect crates users s (.present j) { s with sessions := s.sessions.set j { session with server } }
  | session {j session action server} (found : s.sessions[j]? = some session) (other : action.isVerdict = false)
      (stepped : session.server.step action = some server) :
    ServeEffect crates users s (.session j action) { s with sessions := s.sessions.set j { session with server } }

private theorem control_effect {i : Nat} {c : Control} {action : ControlAction} (taken : s.controlStep crates users i c action = some s') :
    ServeEffect crates users s (.control i action) s' := by
  unfold Serve.controlStep at taken
  split at taken
  · split at taken
    · split at taken
      · next judged =>
        cases taken
        refine .controlled ?_
        intro message uuid version user same
        cases same
        simp [judged]
      · next judged =>
        cases taken
        refine .controlled ?_
        intro message uuid version user same
        cases same
        simp [judged]
      · next judged => cases taken; exact .issued judged
    · cases taken
  · split at taken
    · cases taken; exact .controlled (by simp)
    · cases taken
  · split at taken
    · cases taken; exact .controlled (by simp)
    · cases taken
  · split at taken
    · cases taken; exact .controlled (by simp)
    · cases taken
  · split at taken
    · cases taken
    · cases taken; exact .controlled (by simp)

private theorem present_effect {j : Nat} {session : Session} (found : s.sessions[j]? = some session)
    (taken : s.present crates j session = some s') : ServeEffect crates users s (.present j) s' := by
  unfold Serve.present at taken
  split at taken
  · next presenting =>
    split at taken
    · obtain ⟨server, stepped, rfl⟩ := Option.map_eq_some_iff.mp taken
      exact .rejected found stepped
    · next parsed =>
      split at taken
      · next stored =>
        obtain ⟨server, stepped, rfl⟩ := Option.map_eq_some_iff.mp taken
        exact .admitted found presenting parsed stored stepped
      · obtain ⟨server, stepped, rfl⟩ := Option.map_eq_some_iff.mp taken
        exact .rejected found stepped
  · cases taken

theorem serve_effect (taken : s.step crates users action = some s') : ServeEffect crates users s action s' := by
  unfold Serve.step at taken
  split at taken
  · split at taken
    · split at taken
      · cases taken; exact .unrouted
      · cases taken; exact .control
      · cases taken; exact .mux
    · cases taken
  · split at taken
    · cases taken; exact .stop
    · cases taken
  · obtain ⟨c, -, taken⟩ := Option.bind_eq_some_iff.mp taken
    exact control_effect taken
  · obtain ⟨session, found, taken⟩ := Option.bind_eq_some_iff.mp taken
    exact present_effect found taken
  · split at taken
    · cases taken
    · next other =>
      obtain ⟨session, found, taken⟩ := Option.bind_eq_some_iff.mp taken
      obtain ⟨server, stepped, rfl⟩ := Option.map_eq_some_iff.mp taken
      exact .session found (by simpa using other) stepped

/-! ### One session -/

/-- The session got past HELLO: its writer loop, spawned right after the check, exists. -/
def PastHello (c : Server) : Prop := c.writer ≠ .unspawned

private theorem pastHello_step {c c' : Server} {action : ServerAction} (effect : ServerEffect c action c') :
    PastHello c' ↔ PastHello c ∨ action = .accept := by
  unfold PastHello
  cases effect with
  | endpoint effect =>
    cases effect with
    | pop now | put now | putFail now => simp [now]
    | _ => simp
  | accept => simp
  | writerExit _ _ now => simp [now]
  | writerStop now => simp [now]
  | connectOk => simp [Server.connected]
  | hello | routing | closed | skipped | opening | blocked => simp [received]
  | _ => simp

/-- What a session dials is allowed, and it dials nothing before it is past HELLO. -/
private theorem server_dials {c : Server} (run : serverSystem.Reachable c) :
    ∀ dest ∈ c.dialed, PastHello c ∧ isDestAllowed dest = true := by
  refine run.invariant (p := fun c => ∀ dest ∈ c.dialed, PastHello c ∧ isDestAllowed dest = true) ?_ ?_
  · rintro c rfl dest dialed
    simp [Server.fresh] at dialed
  · intro before action after prior valid _ taken
    have effect := server_effect taken
    have stays (past : PastHello before) : PastHello after := (pastHello_step effect).mpr (.inl past)
    have old : ∀ dest ∈ before.dialed, PastHello after ∧ isDestAllowed dest = true :=
      fun dest member => ⟨stays (valid dest member).1, (valid dest member).2⟩
    cases effect with
    | opening running _ _ allowed =>
      intro dest member
      rcases List.mem_append.mp member with earlier | new
      · exact old dest earlier
      · rw [List.mem_singleton.mp new]
        refine ⟨?_, allowed⟩
        apply stays
        intro unspawned
        have early := ServerInvariant.server_spawned prior unspawned
        simp [running] at early
    | _ => exact old

/-! ### The token store -/

/-- Session `j` took the UUID out of the store. -/
def Holds (s : Serve) (j : Nat) (uuid : Uuid) : Prop := ∃ session, s.sessions[j]? = some session ∧ session.uuid = some uuid

/-- `Uuid::new_v4` returns a value it has not returned before. -/
def newV4Fresh (crates : Crates) (users : List String) (s : Serve) : ServeAction → Bool
  | .control _ (.incoming message uuid) =>
    match judge crates users message with
    | .issue .. => uuid ∉ s.issued.map Grant.uuid
    | _ => true
  | _ => true

private theorem holds_set {sessions : List Session} {j i : Nat} {session session' : Session} {uuid : Uuid}
    (found : sessions[j]? = some session) (same : session'.uuid = session.uuid) :
    (∃ t, (sessions.set j session')[i]? = some t ∧ t.uuid = some uuid) ↔ ∃ t, sessions[i]? = some t ∧ t.uuid = some uuid := by
  by_cases own : i = j
  · subst own
    simp [set_found found, found, same]
  · simp only [set_other own]

private theorem holds_append {sessions : List Session} {i : Nat} {uuid : Uuid} :
    (∃ t, (sessions ++ [⟨Server.fresh, none⟩])[i]? = some t ∧ t.uuid = some uuid) ↔ ∃ t, sessions[i]? = some t ∧ t.uuid = some uuid := by
  constructor
  · intro held
    obtain ⟨t, found, own⟩ := held
    rcases append_cases found with ⟨-, rfl⟩ | found
    · cases own
    · exact ⟨t, found, own⟩
  · intro held
    obtain ⟨t, found, own⟩ := held
    exact ⟨t, append_found found _, own⟩

/-- A session holds a UUID exactly when it is past HELLO. -/
structure Known (session : Session) : Prop where
  run : serverSystem.Reachable session.server
  uuid : PastHello session.server ↔ session.uuid ≠ none

private theorem Known.fresh : Known ⟨Server.fresh, none⟩ := ⟨.init rfl, by simp [PastHello, Server.fresh, Endpoint.fresh]⟩

private theorem Known.step {session : Session} (known : Known session) {action : ServerAction} {server : Server}
    (stepped : session.server.step action = some server) (other : action ≠ .accept) : Known { session with server } := by
  have moved : serverSystem.step session.server action = some server := stepped
  refine ⟨known.run.step trivial moved, ?_⟩
  rw [pastHello_step (server_effect stepped)]
  simp [other, known.uuid]

theorem sessions_known (run : (serveSystem crates users).Reachable s) : ∀ session ∈ s.sessions, Known session := by
  refine run.invariant (p := fun s => ∀ session ∈ s.sessions, Known session) ?_ ?_
  · rintro s rfl session member
    simp [Serve.fresh] at member
  · intro before action after _ valid _ taken
    have at_ {j : Nat} {session : Session} (found : before.sessions[j]? = some session) : Known session :=
      valid session (List.mem_of_getElem? found)
    cases serve_effect taken with
    | unrouted | control | stop | issued | controlled => exact valid
    | mux => exact forall_append valid .fresh
    | admitted found _ _ _ stepped =>
      apply forall_set valid
      have moved : serverSystem.step _ .accept = some _ := stepped
      refine ⟨(at_ found).run.step trivial moved, ?_⟩
      rw [pastHello_step (server_effect stepped)]
      simp
    | rejected found stepped => exact forall_set valid ((at_ found).step stepped (by simp))
    | session found other stepped =>
      apply forall_set valid
      apply (at_ found).step stepped
      rintro rfl
      cases other

/-- Issued, unspent and spent tokens are accounted for. -/
theorem tokens_balanced (run : ((serveSystem crates users).when (newV4Fresh crates users)).Reachable s) :
    Ledger.Balanced (s.issued.map Grant.uuid) s.tokenStore (Holds s) := by
  refine run.invariant (p := fun s => Ledger.Balanced (s.issued.map Grant.uuid) s.tokenStore (Holds s)) ?_ ?_
  · rintro s rfl
    apply Ledger.Balanced.empty
    intro i token held
    obtain ⟨session, found, -⟩ := held
    simp [Serve.fresh] at found
  · intro before action after prior valid _ taken
    obtain ⟨fresh, taken⟩ := Transition.System.when_step.mp taken
    cases serve_effect taken with
    | unrouted | control | stop | controlled => exact valid
    | mux => exact valid.congr fun _ _ => holds_append
    | issued judged =>
      simp only [newV4Fresh, judged, decide_eq_true_eq] at fresh
      have issued := valid.issue fresh
      simp only [List.map_append, List.map_cons, List.map_nil]
      exact issued
    | @admitted j session token uuid server found presenting parsed stored stepped =>
      apply valid.redeem stored (j := j)
      intro i other
      by_cases own : i = j
      · subst own
        have unspent : session.uuid = none := by
          have known := sessions_known prior.unguarded session (List.mem_of_getElem? found)
          have waiting := (ServerInvariant.server_valid known.run).admitted.waiting (.inr ⟨token, presenting⟩)
          by_contra some
          exact known.uuid.mpr some waiting.1
        simp [Holds, set_found found, found, unspent, eq_comm]
      · simp [Holds, set_other own, own]
    | rejected found => exact valid.congr fun _ _ => holds_set found rfl
    | session found => exact valid.congr fun _ _ => holds_set found rfl

/-- The user of a grant is in the list and its version is supported. -/
def Granted (crates : Crates) (users : List String) (grant : Grant) : Prop :=
  grant.user ∈ users ∧ ∃ installed, crates.parseVersion grant.version = some installed ∧
    crates.satisfies supportedVersion installed = true

theorem judge_issue {message : ControlMessage} {version user : String} (judged : judge crates users message = .issue version user)
    (uuid : Uuid) : Granted crates users ⟨uuid, version, user⟩ := by
  unfold judge at judged
  split at judged
  · cases judged
  · split at judged
    · split at judged
      · split at judged
        · cases judged
        · next installed parsed =>
          split at judged
          · next supported =>
            split at judged
            · next listed =>
              cases judged
              exact ⟨listed, installed, parsed, supported⟩
            · cases judged
          · cases judged
      · cases judged
    · cases judged

theorem issued_granted (run : (serveSystem crates users).Reachable s) : ∀ grant ∈ s.issued, Granted crates users grant := by
  refine run.invariant (p := fun s => ∀ grant ∈ s.issued, Granted crates users grant) ?_ ?_
  · rintro s rfl grant member
    simp [Serve.fresh] at member
  · intro before action after _ valid _ taken
    cases serve_effect taken with
    | issued judged => exact forall_append valid (judge_issue judged _)
    | _ => exact valid

/-! ### Whole runs -/

structure Authenticated (crates : Crates) (users : List String) (s : Serve) : Prop where
  /-- A session past HELLO holds a UUID that was issued for a listed user. -/
  admitted : ∀ session ∈ s.sessions, PastHello session.server →
    ∃ grant ∈ s.issued, session.uuid = some grant.uuid ∧ Granted crates users grant
  /-- So does one that serves its peer. -/
  serving : ∀ session ∈ s.sessions, session.server.reader ≠ .hello → (∀ token, session.server.reader ≠ .presenting token) →
    session.server.reader ≠ .ended → session.server.reader ≠ .dropped → PastHello session.server
  /-- No two sessions hold the same UUID, however it was spelled. -/
  once : ∀ (i j : Nat) (first second : Session) (uuid : Uuid), s.sessions[i]? = some first → s.sessions[j]? = some second →
    first.uuid = some uuid → second.uuid = some uuid → i = j
  /-- Unspent tokens are issued and no session holds them. -/
  unspent : ∀ uuid ∈ s.tokenStore, uuid ∈ s.issued.map Grant.uuid ∧ ∀ session ∈ s.sessions, session.uuid ≠ some uuid
  dials : ∀ session ∈ s.sessions, ∀ dest ∈ session.server.dialed, PastHello session.server ∧ isDestAllowed dest = true

structure StepAuthenticated (crates : Crates) (users : List String) (s : Serve) (action : ServeAction) (s' : Serve) : Prop where
  /-- Getting past HELLO takes the UUID out of the store. -/
  spends : ∀ (j : Nat) (before after : Session), s.sessions[j]? = some before → s'.sessions[j]? = some after →
    ¬ PastHello before.server → PastHello after.server → action = .present j ∧ ∃ token uuid,
      before.server.reader = .presenting token ∧ crates.parseUuid token = some uuid ∧ uuid ∈ s.tokenStore ∧
        after.uuid = some uuid ∧ s'.tokenStore = s.tokenStore.erase uuid
  /-- Tokens are issued for messages that pass every check. -/
  issues : ∀ grant ∈ s'.issued, grant ∈ s.issued ∨ ∃ i message, action = .control i (.incoming message grant.uuid) ∧
    judge crates users message = .issue grant.version grant.user
  /-- A rejected message on `/control` leaves the store as it was. -/
  control : ∀ i message uuid, action = .control i (.incoming message uuid) →
    (∀ version user, judge crates users message ≠ .issue version user) → s'.tokenStore = s.tokenStore
  /-- A rejected HELLO leaves the store as it was. -/
  mux : ∀ (j : Nat) (after : Session), action = .present j → s'.sessions[j]? = some after → ¬ PastHello after.server →
    s'.tokenStore = s.tokenStore
  /-- Nothing else touches the store. -/
  others : s'.tokenStore = s.tokenStore ∨ (∃ i message uuid, action = .control i (.incoming message uuid)) ∨ ∃ j, action = .present j

theorem authenticated (run : ((serveSystem crates users).when (newV4Fresh crates users)).Reachable s) : Authenticated crates users s := by
  have known := sessions_known run.unguarded
  have balanced := tokens_balanced run
  refine ⟨?_, ?_, ?_, ?_, fun session member => server_dials (known session member).run⟩
  · intro session member past
    obtain ⟨uuid, own⟩ := Option.ne_none_iff_exists'.mp ((known session member).uuid.mp past)
    obtain ⟨j, found⟩ := List.getElem?_of_mem member
    have issued := (balanced.covers uuid).mpr (.inr ⟨j, session, found, own⟩)
    obtain ⟨grant, there, rfl⟩ := List.mem_map.mp issued
    exact ⟨grant, there, own, issued_granted run.unguarded grant there⟩
  · intro session member hello presenting ended dropped unspawned
    rcases ServerInvariant.server_spawned (known session member).run unspawned with now | ⟨token, now⟩ | now | now
    · exact hello now
    · exact presenting token now
    · exact ended now
    · exact dropped now
  · intro i j first second uuid found found' own own'
    exact balanced.once uuid i j ⟨first, found, own⟩ ⟨second, found', own'⟩
  · intro uuid stored
    refine ⟨(balanced.covers uuid).mpr (.inl stored), ?_⟩
    intro session member own
    obtain ⟨j, found⟩ := List.getElem?_of_mem member
    exact balanced.apart uuid j stored ⟨session, found, own⟩

private theorem unmoved {sessions : List Session} {i : Nat} {before after : Session} (found : sessions[i]? = some before)
    (found' : sessions[i]? = some after) (past : ¬ PastHello before.server) : ¬ PastHello after.server := by
  cases found.symm.trans found'
  exact past

private theorem set_unmoved {sessions : List Session} {i j : Nat} {session before after : Session} {server : Server}
    {action : ServerAction} (there : sessions[j]? = some session) (stepped : session.server.step action = some server)
    (other : action ≠ .accept) (found : sessions[i]? = some before)
    (found' : (sessions.set j { session with server })[i]? = some after) (past : ¬ PastHello before.server) :
    ¬ PastHello after.server := by
  rcases set_cases found' with ⟨rfl, rfl⟩ | ⟨-, found'⟩
  · cases there.symm.trans found
    rw [pastHello_step (server_effect stepped)]
    simp [past, other]
  · exact unmoved found found' past

theorem step_authenticated (effect : ServeEffect crates users s action s') : StepAuthenticated crates users s action s' := by
  cases effect with
  | unrouted | control | stop =>
    exact ⟨fun j before after found found' past past' => absurd past' (unmoved found found' past), fun grant member => .inl member,
      fun _ _ _ _ _ => rfl, fun _ _ _ _ _ => rfl, .inl rfl⟩
  | mux =>
    refine ⟨?_, fun grant member => .inl member, fun _ _ _ _ _ => rfl, fun _ _ _ _ _ => rfl, .inl rfl⟩
    intro j before after found found' past past'
    exact absurd past' (unmoved (append_found found _) found' past)
  | @issued i message uuid version user controls judged =>
    refine ⟨fun j before after found found' past past' => absurd past' (unmoved found found' past), ?_, ?_, by simp, ?_⟩
    · intro grant member
      rcases List.mem_append.mp member with old | new
      · exact .inl old
      · rw [List.mem_singleton.mp new]
        exact .inr ⟨i, message, rfl, judged⟩
    · intro i message uuid same unissued
      cases same
      exact absurd judged (unissued _ _)
    · exact .inr (.inl ⟨i, message, uuid, rfl⟩)
  | controlled =>
    exact ⟨fun j before after found found' past past' => absurd past' (unmoved found found' past), fun grant member => .inl member,
      fun _ _ _ _ _ => rfl, fun _ _ _ _ _ => rfl, .inl rfl⟩
  | @admitted j session token uuid server there presenting parsed stored stepped =>
    refine ⟨?_, fun grant member => .inl member, by simp, ?_, .inr (.inr ⟨j, rfl⟩)⟩
    · intro i before after found found' past past'
      rcases set_cases found' with ⟨rfl, rfl⟩ | ⟨-, found'⟩
      · cases there.symm.trans found
        exact ⟨rfl, token, uuid, presenting, parsed, stored, rfl, rfl⟩
      · exact absurd past' (unmoved found found' past)
    · intro i after same found' past
      cases same
      cases (set_found there _).symm.trans found'
      exact absurd ((pastHello_step (server_effect stepped)).mpr (.inr rfl)) past
  | rejected there stepped =>
    refine ⟨?_, fun grant member => .inl member, fun _ _ _ _ _ => rfl, fun _ _ _ _ _ => rfl, .inl rfl⟩
    intro i before after found found' past past'
    exact absurd past' (set_unmoved there stepped (by simp) found found' past)
  | session there other stepped =>
    refine ⟨?_, fun grant member => .inl member, fun _ _ _ _ _ => rfl, fun _ _ _ _ _ => rfl, .inl rfl⟩
    intro i before after found found' past past'
    refine absurd past' (set_unmoved there stepped ?_ found found' past)
    rintro rfl
    cases other

/-- Whatever the clients of `serve` send, in any interleaving: only tokens of listed users
let sessions through, each at most one. -/
theorem serve_authenticates (crates : Crates) (users : List String) (s : Serve)
    (run : ((serveSystem crates users).when (newV4Fresh crates users)).Reachable s) :
    Authenticated crates users s ∧ ∀ action s', s.step crates users action = some s' → StepAuthenticated crates users s action s' :=
  ⟨authenticated run, fun _ _ taken => step_authenticated (serve_effect taken)⟩

/-! ### One token, two spellings -/

private def token : Uuid := 0x5f1c0d1e000040008000000000000007#128

private def hyphenated : String := "5f1c0d1e-0000-4000-8000-000000000007"
private def plainHex : String := "5F1C0D1E000040008000000000000007"

/-- The crates on the texts of the run below. -/
private def crates0 : Crates where
  parseUuid text := if text = hyphenated ∨ text = plainHex then some token else none
  formatUuid _ := hyphenated
  Version := Nat × Nat × Nat
  parseVersion text := if text = "0.1.0" then some (0, 1, 0) else none
  satisfies _ version := 0 < version.1 || 1 ≤ version.2.1

private def spentOnce : List ServeAction := [.connect "/control", .control 0 (.incoming (.text "Hello:0.1.0:alice") token),
  .control 0 .sent, .connect "/mux", .connect "/mux",
  .session 0 (.incoming (Frame.hello hyphenated).message), .session 1 (.incoming (Frame.hello plainHex).message),
  .present 1, .present 0]

theorem one_of_two_authenticated : ∃ s : Serve, s.controls.map Control.sent = [["Hi:" ++ hyphenated]] ∧
    s.sessions.map (fun session => (session.server.reader, session.uuid)) = [(.ended, none), (.running, some token)] ∧
    s.tokenStore = ∅ ∧ Authenticated crates0 ["alice"] s := by
  have executed : (((serveSystem crates0 ["alice"]).when (newV4Fresh crates0 ["alice"])).exec Serve.fresh spentOnce).any (fun s =>
      decide (s.controls.map Control.sent = [["Hi:" ++ hyphenated]] ∧
        s.sessions.map (fun session => (session.server.reader, session.uuid)) = [(.ended, none), (.running, some token)] ∧
        s.tokenStore = ∅)) = true := by decide +kernel
  obtain ⟨s, run, view⟩ := Transition.System.reached executed rfl
  obtain ⟨sent, admitted, spent⟩ := of_decide_eq_true view
  exact ⟨s, sent, admitted, spent, (serve_authenticates crates0 ["alice"] s run).1⟩

end EchoProxy.Proofs.Authentication
