import EchoProxy.Handshake
import EchoProxy.Proofs.Authentication

/-! The grammar of the `/control` handshake: what the server takes for a well formed
message, and what the client learns from the answer. -/

namespace EchoProxy.Proofs.Handshake
open EchoProxy Authentication Places

variable {crates : Crates} {users : List String} {s s' : Serve} {i : Nat} {uuid : Uuid}

/-! ### The message -/

/-- The messages that are worth a token. -/
structure Admissible (crates : Crates) (users : List String) (message : ControlMessage) (version user : String) : Prop where
  form : message = helloMessage version user
  colonFree : ':' ∉ version.toList
  supported : ∃ installed, crates.parseVersion version = some installed ∧ crates.satisfies supportedVersion installed = true
  allowed : user ∈ users

private theorem hello_text (version user : String) : ("Hello:" ++ version ++ ":" ++ user).toList =
    "Hello".toList ++ ':' :: (version.toList ++ ':' :: user.toList) := by
  simp [String.toList_append]

/-- A colon-free version is read back, and the user after it, whatever colons it holds. -/
theorem hello_parts {version : String} (user : String) (colonFree : ':' ∉ version.toList) :
    (Text.splitn ':' 3 ("Hello:" ++ version ++ ":" ++ user).toList).map String.ofList = ["Hello", version, user] := by
  rw [hello_text, Text.splitn_append 1 _ _ (by decide), Text.splitn_append 0 _ _ colonFree]
  simp [Text.splitn]

private theorem hello_starts (version user : String) :
    "Hello:".toList.isPrefixOf ("Hello:" ++ version ++ ":" ++ user).toList = true := by
  simp [String.toList_append]

/-- Three parts come from two colons. -/
private theorem parts_hello {text first version user : String} (hello : "Hello:".toList.isPrefixOf text.toList = true)
    (parts : (Text.splitn ':' 3 text.toList).map String.ofList = [first, version, user]) :
    text = "Hello:" ++ version ++ ":" ++ user ∧ ':' ∉ version.toList := by
  obtain ⟨rest, whole⟩ := List.isPrefixOf_iff_prefix.mp hello
  have text_eq : text.toList = "Hello".toList ++ ':' :: rest := by
    rw [← whole]
    rfl
  rw [text_eq, Text.splitn_append 1 _ _ (by decide)] at parts
  by_cases colon : ':' ∈ rest
  · obtain ⟨before, after, rfl, absent⟩ := List.eq_append_cons_of_mem colon
    rw [Text.splitn_append 0 _ _ absent] at parts
    simp only [Text.splitn, List.map_cons, List.map_nil, List.cons.injEq, and_true] at parts
    obtain ⟨-, rfl, rfl⟩ := parts
    refine ⟨?_, by simpa using absent⟩
    rw [← String.toList_inj, text_eq, hello_text]
    simp
  · rw [Text.splitn_whole 1 _ colon] at parts
    simp at parts

/-- `process_control` decides by the grammar. -/
theorem judge_issue_iff {message : ControlMessage} {version user : String} :
    judge crates users message = .issue version user ↔ Admissible crates users message version user := by
  constructor
  · intro judged
    obtain ⟨listed, supported⟩ := judge_issue judged 0#128
    unfold judge at judged
    split at judged
    · cases judged
    · next text =>
      split at judged
      · next hello =>
        split at judged
        · next first version' user' parts =>
          obtain ⟨whole, colonFree⟩ := parts_hello hello parts
          have same : version' = version ∧ user' = user := by
            split at judged
            · cases judged
            · split at judged
              · split at judged
                · cases judged
                  exact ⟨rfl, rfl⟩
                · cases judged
              · cases judged
          obtain ⟨rfl, rfl⟩ := same
          exact ⟨congrArg ControlMessage.text whole, colonFree, supported, listed⟩
        · cases judged
      · cases judged
  · intro ⟨form, colonFree, ⟨installed, parsed, satisfied⟩, allowed⟩
    rw [form]
    simp only [helloMessage, judge, hello_starts, hello_parts user colonFree, parsed, satisfied, allowed, if_true]

/-! ### One connection -/

/-- Where the verdict takes the connection. -/
def afterVerdict (crates : Crates) (uuid : Uuid) : Verdict → ControlStage
  | .close => .closing
  | .bye reason => .sending reason true
  | .issue _ _ => .sending ("Hi:" ++ crates.formatUuid uuid) false

/-- What `process_control` does on its connection. -/
inductive ControlEffect (crates : Crates) (users : List String) (c : Control) : ControlAction → Control → Prop where
  | heard {message uuid} (waiting : c.stage = .waiting) :
    ControlEffect crates users c (.incoming message uuid) { c with stage := afterVerdict crates uuid (judge crates users message) }
  | sent {text closes} (sending : c.stage = .sending text closes) :
    ControlEffect crates users c .sent ⟨if closes then .closing else .ended, c.sent ++ [text]⟩
  | unsent {text closes} (sending : c.stage = .sending text closes) :
    ControlEffect crates users c .unsent { c with stage := if closes then .closing else .ended }
  | closed (closing : c.stage = .closing) : ControlEffect crates users c .closed { c with stage := .ended }
  | drop : ControlEffect crates users c .drop { c with stage := .ended }

theorem control_effect {c : Control} {action : ControlAction} (taken : s.controlStep crates users i c action = some s') :
    ∃ c', ControlEffect crates users c action c' ∧ s'.controls = s.controls.set i c' := by
  unfold Serve.controlStep at taken
  split at taken
  · split at taken
    · next waiting =>
      refine ⟨_, .heard waiting, ?_⟩
      split at taken
      · next judged => cases taken; simp [judged, afterVerdict]
      · next judged => cases taken; simp [judged, afterVerdict]
      · next judged => cases taken; simp [judged, afterVerdict]
    · cases taken
  · split at taken
    · next sending => cases taken; exact ⟨_, .sent sending, rfl⟩
    · cases taken
  · split at taken
    · next sending => cases taken; exact ⟨_, .unsent sending, rfl⟩
    · cases taken
  · split at taken
    · next closing => cases taken; exact ⟨_, .closed closing, rfl⟩
    · cases taken
  · split at taken
    · cases taken
    · cases taken; exact ⟨_, .drop, rfl⟩

/-- A step changes one connection in its own way, or at most brings a new one. -/
theorem controls_step {action : ServeAction} (taken : s.step crates users action = some s') :
    (∃ i own c c', action = .control i own ∧ s.controls[i]? = some c ∧ ControlEffect crates users c own c' ∧
      s'.controls = s.controls.set i c') ∨
    s'.controls = s.controls ∨ s'.controls = s.controls ++ [⟨.waiting, []⟩] := by
  by_cases control : ∃ i own, action = .control i own
  · obtain ⟨i, own, rfl⟩ := control
    obtain ⟨c, found, moved⟩ := Option.bind_eq_some_iff.mp taken
    obtain ⟨c', effect, controls⟩ := control_effect moved
    exact .inl ⟨i, own, c, c', rfl, found, effect, controls⟩
  · right
    cases serve_effect taken with
    | control => exact .inr rfl
    | issued | controlled => exact absurd ⟨_, _, rfl⟩ control
    | _ => exact .inl rfl

/-- Nothing is sent before the first message was heard. -/
theorem waiting_silent (run : (serveSystem crates users).Reachable s) :
    ∀ c ∈ s.controls, c.stage = .waiting → c.sent = [] := by
  refine run.invariant (p := fun s => ∀ c ∈ s.controls, c.stage = .waiting → c.sent = []) ?_ ?_
  · intro s fresh c member
    cases fresh
    cases member
  · intro before action after _ silent _ taken
    rcases controls_step taken with ⟨i, own, c, c', -, found, effect, controls⟩ | controls | controls
    · rw [controls]
      refine forall_set silent ?_
      cases effect with
      | @heard message uuid waiting =>
        intro _
        exact silent c (List.mem_of_getElem? found) waiting
      | @sent text closes => cases closes <;> simp
      | @unsent text closes => cases closes <;> simp
      | closed | drop => simp
    · rw [controls]
      exact silent
    · rw [controls]
      exact forall_append silent fun _ => rfl

/-! ### The answer -/

/-- The text that answers the message, if one does. -/
def answer (crates : Crates) (uuid : Uuid) : Verdict → Option String
  | .close => none
  | .bye reason => some reason
  | .issue _ _ => some ("Hi:" ++ crates.formatUuid uuid)

/-- The connection is giving the answer, or gave it. -/
def Answering (reply : Option String) (c : Control) : Prop :=
  (∃ text closes, reply = some text ∧ c.stage = .sending text closes ∧ c.sent = []) ∨
    c.sent = reply.toList ∧ (c.stage = .closing ∨ c.stage = .ended)

theorem heard_answering {message : ControlMessage} {c : Control} (silent : c.sent = []) :
    Answering (answer crates uuid (judge crates users message))
      { c with stage := afterVerdict crates uuid (judge crates users message) } := by
  cases judge crates users message with
  | close => exact .inr ⟨silent, .inl rfl⟩
  | bye reason => exact .inl ⟨_, _, rfl, rfl, silent⟩
  | issue version user => exact .inl ⟨_, _, rfl, rfl, silent⟩

/-- An unbroken connection goes on with its answer. -/
private theorem answering_step {reply : Option String} {c c' : Control} {action : ControlAction}
    (effect : ControlEffect crates users c action c') (unbroken : ServeAction.breaks i (.control i action) = false)
    (answering : Answering reply c) : Answering reply c' := by
  cases effect with
  | heard waiting =>
    rcases answering with ⟨text, closes, -, stage, -⟩ | ⟨-, stage⟩
    · rw [waiting] at stage
      cases stage
    · rw [waiting] at stage
      rcases stage with stage | stage <;> cases stage
  | @sent text closes sending =>
    rcases answering with ⟨_, _, reply_eq, stage, silent⟩ | ⟨-, stage⟩
    · rw [sending] at stage
      cases stage
      refine .inr ⟨by simp [silent, reply_eq], ?_⟩
      cases closes <;> simp
    · rw [sending] at stage
      rcases stage with stage | stage <;> cases stage
  | unsent | drop => simp [ServeAction.breaks] at unbroken
  | closed closing =>
    rcases answering with ⟨text, closes, -, stage, -⟩ | ⟨sent, -⟩
    · rw [closing] at stage
      cases stage
    · exact .inr ⟨sent, .inr rfl⟩

/-- The client's first message: the answer, or the close frame. -/
def answerMessage (reply : Option String) : ServerMessage := reply.elim (.close none) .text

/-- An unbroken connection has delivered its answer or can go on. -/
private theorem answering_message (crates : Crates) (users : List String) {reply : Option String} {c : Control}
    (found : s.controls[i]? = some c) (answering : Answering reply c) :
    c.firstMessage = some (answerMessage reply) ∨
      c.firstMessage = none ∧ ∃ own ∈ [ControlAction.sent, .closed], (s.step crates users (.control i own)).isSome = true := by
  obtain ⟨stage, sent⟩ := c
  rcases answering with ⟨text, closes, -, rfl, rfl⟩ | ⟨rfl, through⟩
  · exact .inr ⟨rfl, .sent, by simp, by simp [Serve.step, found, Serve.controlStep]⟩
  · cases reply with
    | some text => exact .inl rfl
    | none =>
      rcases through with rfl | rfl
      · exact .inr ⟨rfl, .closed, by simp, by simp [Serve.step, found, Serve.controlStep]⟩
      · exact .inl rfl

private theorem judge_bye {message : ControlMessage} {reason : String} (judged : judge crates users message = .bye reason) :
    reason ∈ [byeFormat, byeVersion, byeUser] := by
  unfold judge at judged
  split at judged
  · cases judged
  · split at judged
    · split at judged
      · split at judged
        · cases judged; simp
        · split at judged
          · split at judged
            · cases judged
            · cases judged; simp
          · cases judged; simp
      · cases judged
    · cases judged

private theorem bye_refused : ∀ reason ∈ [byeFormat, byeVersion, byeUser],
    obtainTokenWithVersion (some (.text reason)) = none := by decide +kernel

private theorem hi_token (token : String) : obtainTokenWithVersion (some (.text ("Hi:" ++ token))) = some token := by
  simp [obtainTokenWithVersion, ServerMessage.toText, String.toList_append, List.isPrefixOf?]

/-- The client reads a token off the answer to a message that was worth one, and off no other. -/
theorem answer_token {message : ControlMessage} {token : String} :
    obtainTokenWithVersion (some (answerMessage (answer crates uuid (judge crates users message)))) = some token ↔
      token = crates.formatUuid uuid ∧ ∃ version user, judge crates users message = .issue version user := by
  cases judged : judge crates users message with
  | close => simp [answer, answerMessage, obtainTokenWithVersion, ServerMessage.toText, List.isPrefixOf?]
  | bye reason => simp [answer, answerMessage, bye_refused reason (judge_bye judged)]
  | issue version user =>
    simp only [answer, answerMessage, Option.elim, hi_token, Option.some.injEq]
    constructor
    · intro same
      exact ⟨same.symm, version, user, rfl⟩
    · intro ⟨same, _⟩
      exact same.symm

/-! ### The handshake -/

/-- What the server's registers hold after the message. -/
structure Registered (crates : Crates) (users : List String) (s : Serve) (message : ControlMessage) (uuid : Uuid) (s' : Serve) :
    Prop where
  issues : ∀ version user, Admissible crates users message version user →
    s'.issued = s.issued ++ [⟨uuid, version, user⟩] ∧ s'.tokenStore = insert uuid s.tokenStore
  refuses : (∀ version user, ¬ Admissible crates users message version user) →
    s'.issued = s.issued ∧ s'.tokenStore = s.tokenStore

private theorem registered {message : ControlMessage} (heard : s.step crates users (.control i (.incoming message uuid)) = some s') :
    Registered crates users s message uuid s' := by
  cases serve_effect heard with
  | issued judged =>
    constructor
    · intro version user admissible
      cases judged.symm.trans (judge_issue_iff.mpr admissible)
      exact ⟨rfl, rfl⟩
    · intro inadmissible
      exact absurd (judge_issue_iff.mp judged) (inadmissible _ _)
  | controlled unissued =>
    constructor
    · intro version user admissible
      exact absurd (judge_issue_iff.mpr admissible) (unissued _ _ _ _ rfl)
    · intro _
      exact ⟨rfl, rfl⟩

private theorem registered_worth {message : ControlMessage} (registers : Registered crates users s message uuid s') :
    (∃ version user, judge crates users message = .issue version user) ↔
      ∃ version user, s'.issued = s.issued ++ [⟨uuid, version, user⟩] := by
  constructor
  · intro ⟨version, user, judged⟩
    exact ⟨version, user, (registers.issues version user (judge_issue_iff.mp judged)).1⟩
  · intro ⟨version, user, issued⟩
    by_contra none
    simp only [not_exists] at none
    have same := (registers.refuses fun version user admissible => none version user (judge_issue_iff.mpr admissible)).1
    simp [same] at issued

/-- A run in which connection `i` holds. -/
abbrev unbroken (crates : Crates) (users : List String) (i : Nat) : Transition.System Serve ServeAction :=
  (serveSystem crates users).when fun _ action => !action.breaks i

private theorem answered {message : ControlMessage} {actions : List ServeAction} {s'' : Serve}
    (run : (serveSystem crates users).Reachable s) (heard : s.step crates users (.control i (.incoming message uuid)) = some s')
    (later : (unbroken crates users i).exec s' actions = some s'') :
    ∃ c, s''.controls[i]? = some c ∧ Answering (answer crates uuid (judge crates users message)) c := by
  refine Transition.System.exec_preserves (p := fun s => ∃ c, s.controls[i]? = some c ∧
    Answering (answer crates uuid (judge crates users message)) c) ?_ later ?_
  · intro before action after ⟨c, found, answering⟩ taken
    obtain ⟨kept, taken⟩ := Transition.System.when_step.mp taken
    rcases controls_step taken with ⟨j, own, c₀, c', rfl, found₀, effect, controls⟩ | controls | controls
    · rw [controls]
      by_cases same : j = i
      · subst same
        cases found₀.symm.trans found
        exact ⟨c', set_found found c', answering_step effect (by simpa using kept) answering⟩
      · exact ⟨c, by rw [List.getElem?_set_ne same, found], answering⟩
    · exact ⟨c, controls ▸ found, answering⟩
    · exact ⟨c, controls ▸ append_found found _, answering⟩
  · obtain ⟨c, found, moved⟩ := Option.bind_eq_some_iff.mp heard
    obtain ⟨c', effect, controls⟩ := control_effect moved
    cases effect with
    | heard waiting =>
      have silent := waiting_silent run c (List.mem_of_getElem? found) waiting
      exact ⟨_, controls ▸ set_found found _, heard_answering silent⟩

/-- The grammar of `/control` on both sides. A token is issued for the admissible messages and
no others, a colon-free version is decoded to itself and the user, and over a connection that
holds the client's call comes back with a token exactly when it was issued. -/
theorem control_grammar (crates : Crates) (users : List String) (s s' : Serve) (i : Nat) (message : ControlMessage) (uuid : Uuid)
    (run : (serveSystem crates users).Reachable s) (heard : s.step crates users (.control i (.incoming message uuid)) = some s') :
    Registered crates users s message uuid s' ∧
    (∀ version user, ':' ∉ version.toList → ∃ text, helloMessage version user = .text text ∧
      (Text.splitn ':' 3 text.toList).map String.ofList = ["Hello", version, user]) ∧
    ∀ actions s'', (unbroken crates users i).exec s' actions = some s'' → ∃ c, s''.controls[i]? = some c ∧
      (c.firstMessage = none → ∃ own ∈ [ControlAction.sent, .closed], (s''.step crates users (.control i own)).isSome = true) ∧
      (c.firstMessage ≠ none → ∀ token, obtainTokenWithVersion c.firstMessage = some token ↔
        token = crates.formatUuid uuid ∧ ∃ version user, s'.issued = s.issued ++ [⟨uuid, version, user⟩]) := by
  have registers := registered heard
  refine ⟨registers, fun version user colonFree => ⟨_, rfl, hello_parts user colonFree⟩, ?_⟩
  intro actions s'' later
  obtain ⟨c, found, answering⟩ := answered run heard later
  refine ⟨c, found, ?_, ?_⟩
  · intro nothing
    rcases answering_message crates users found answering with first | ⟨-, more⟩
    · rw [nothing] at first
      cases first
    · exact more
  · intro something token
    rcases answering_message crates users found answering with first | ⟨nothing, -⟩
    · rw [first, answer_token, registered_worth registers]
    · exact absurd nothing something

private def issuedUuid : Uuid := 0x2b5c0d1e000040008000000000000009#128

/-- The crates on the texts of the run below. -/
private def handshakeCrates : Crates where
  parseUuid text := if text = "2b5c0d1e-0000-4000-8000-000000000009" then some issuedUuid else none
  formatUuid _ := "2b5c0d1e-0000-4000-8000-000000000009"
  Version := Nat × Nat × Nat
  parseVersion text := if text = "0.2.0" then some (0, 2, 0) else none
  satisfies _ version := 0 < version.1 || 1 ≤ version.2.1

private def connected : Serve := { Serve.fresh with controls := [⟨.waiting, []⟩] }

/-- A user name with a colon in it, from its HELLO to the client's token. -/
theorem colon_user_admitted : ∃ s' s'' : Serve,
    connected.step handshakeCrates ["team:alice"] (.control 0 (.incoming (helloMessage "0.2.0" "team:alice") issuedUuid)) = some s' ∧
    (unbroken handshakeCrates ["team:alice"] 0).exec s' [.control 0 .sent] = some s'' ∧
    s'.issued = [⟨issuedUuid, "0.2.0", "team:alice"⟩] ∧ ∃ c, s''.controls[0]? = some c ∧
      obtainTokenWithVersion c.firstMessage = some "2b5c0d1e-0000-4000-8000-000000000009" := by
  have executed : ((connected.step handshakeCrates ["team:alice"]
      (.control 0 (.incoming (helloMessage "0.2.0" "team:alice") issuedUuid))).bind fun s' =>
        ((unbroken handshakeCrates ["team:alice"] 0).exec s' [.control 0 .sent]).map fun s'' =>
          s''.controls.all fun c => c.firstMessage ≠ none) = some true := by decide +kernel
  obtain ⟨s', heard, rest⟩ := Option.bind_eq_some_iff.mp executed
  obtain ⟨s'', later, through⟩ := Option.map_eq_some_iff.mp rest
  have accepted : (serveSystem handshakeCrates ["team:alice"]).step Serve.fresh (.connect "/control") = some connected := rfl
  have run : (serveSystem handshakeCrates ["team:alice"]).Reachable connected :=
    Transition.System.Reach.step (.init rfl) trivial accepted
  obtain ⟨registers, -, client⟩ := control_grammar handshakeCrates ["team:alice"] connected s' 0 _ issuedUuid run heard
  have admissible : Admissible handshakeCrates ["team:alice"] (helloMessage "0.2.0" "team:alice") "0.2.0" "team:alice" :=
    ⟨rfl, by decide, ⟨(0, 2, 0), rfl, rfl⟩, by simp⟩
  have issued := (registers.issues _ _ admissible).1
  obtain ⟨c, found, -, learns⟩ := client _ s'' later
  have delivered : c.firstMessage ≠ none := by
    simpa using List.all_eq_true.mp through c (List.mem_of_getElem? found)
  exact ⟨s', s'', heard, later, issued, c, found, (learns delivered _).mpr ⟨rfl, _, _, issued⟩⟩

end EchoProxy.Proofs.Handshake
