import EchoProxy.Proofs.ProxyInvariant
import EchoProxy.Reception

/-! What a local client of the resilient proxy is told of its tunnel. A handler has one
reply for each outcome; the HTTP one has none for an OPEN it cannot send. -/

namespace EchoProxy.Proofs.Replies
open EchoProxy StreamFlow HandlerFlow EndpointSteps ClientSteps ProxySteps Places

/-! ### Replies -/

def failureReply (tunnel : Tunnel) : Bytes := tunnel.listener.unavailable

/-- A plain HTTP request has no reply of the proxy's own once its tunnel is open. -/
def successReply : Tunnel → Bytes
  | .viaMux request | .viaMuxWithTimeout request => if request.isConnect then connectionEstablished else []
  | .socksViaMuxWithTimeout _ => socks5Reply socks5RepSuccess

/-- What a handler replies when its tunnel is not open. -/
def reply (tunnel : Tunnel) : Outcome → Bytes
  | .unsendable => tunnel.spec.unopened
  | _ => tunnel.spec.refused

theorem greeting_success (h : Handler) : greeting h = successReply h.tunnel := by
  obtain ⟨tunnel, stage, ack⟩ := h
  cases tunnel with
  | viaMux request | viaMuxWithTimeout request =>
    cases connects : request.isConnect <;>
      simp [greeting, Handler.spec, Tunnel.spec, handleViaMux, handleViaMuxWithTimeout, successReply, connects]
  | socksViaMuxWithTimeout host => rfl

theorem reply_failure (tunnel : Tunnel) (outcome : Outcome) :
    reply tunnel outcome = failureReply tunnel ↔ ¬(tunnel.listener = .http ∧ outcome = .unsendable) := by
  cases tunnel with
  | viaMux request | viaMuxWithTimeout request =>
    cases outcome with
    | unsendable =>
      refine iff_of_false ?_ (not_not.mpr ⟨rfl, rfl⟩)
      change [] ≠ badGateway
      decide +kernel
    | _ => exact iff_of_true rfl (by simp)
  | socksViaMuxWithTimeout host => cases outcome <;> exact iff_of_true rfl (by simp [Tunnel.listener])

/-! ### Handlers -/

/-- A handler whose tunnel is not open has its reply ahead of it, is writing it, or has
written it and returned. -/
def Answering (reply : Bytes) (s : Stream Handler) : Prop :=
  s.task = .absent ∧ (s.phase = .front ∧ s.front.stage = .leaving reply ∧ s.socket.written = [] ∨
    s.phase = .front ∧ (∃ rest, s.front.stage = .replying rest ∧ s.socket.written ++ rest = reply) ∨
    s.phase = .done ∧ s.socket.written = reply)

/-- OPEN_ACK was true: the success reply is on its way, the relay has started, or the first
DATA frame could not be sent. -/
def Granted (s : Stream Handler) : Prop :=
  s.task ≠ .absent ∨ s.phase = .front ∧ (∃ bytes, s.front.stage = .greeting bytes ∨ s.front.stage = .forwarding bytes) ∨
    (s.phase = .front ∧ s.front.stage = .leaving [] ∨ s.phase = .done) ∧ s.socket.written = [] ∧ greeting s.front = []

def Undecided (s : Stream Handler) : Prop :=
  s.phase = .front ∧ (s.front.stage = .start ∨ s.front.stage = .registered ∨ s.front.stage = .opening ∨ s.front.stage = .awaiting)

def Told (s : Stream Handler) : Option Outcome → Prop
  | none => Undecided s
  | some .granted => Granted s
  | some outcome => Answering (reply s.front.tunnel outcome) s

/-- Nothing outside the handler changes what it has told its client before the relay. -/
theorem Effect.idle {s s' : Stream Handler} {move} (effect : Effect s move s') (idle : s.task = .absent)
    (still : s.phase = .front ∨ s.phase = .done) : s'.phase = s.phase ∧ s'.socket.written = s.socket.written := by
  cases effect with
  | read now | readEnd now | readError now | sentData now | sentClose now | unsentData now | unsentClose now
  | unregister now => simp [now] at still
  | recv waiting | finish waiting => simp [waiting] at idle
  | write writing | writeError writing => simp [writing] at idle
  | _ => exact ⟨rfl, rfl⟩

theorem Answering.step {s s' : Stream Handler} {move} {reply : Bytes} (effect : Effect s move s') (answering : Answering reply s) :
    Answering reply s' := by
  obtain ⟨idle, stands⟩ := answering
  have still : s.phase = .front ∨ s.phase = .done := by
    rcases stands with ⟨front, -⟩ | ⟨front, -⟩ | ⟨ended, -⟩
    · exact .inl front
    · exact .inl front
    · exact .inr ended
  obtain ⟨phase, written⟩ := Effect.idle effect idle still
  unfold Answering
  rw [effect.absent, phase, written, effect.same.2]
  exact ⟨idle, stands⟩

private theorem Granted.step {s s' : Stream Handler} {move} (effect : Effect s move s') (granted : Granted s) : Granted s' := by
  by_cases idle : s.task = .absent
  · have still : s.phase = .front ∨ s.phase = .done := by
      rcases granted with running | ⟨front, -⟩ | ⟨⟨front, -⟩ | ended, -⟩
      · exact absurd idle running
      · exact .inl front
      · exact .inl front
      · exact .inr ended
    obtain ⟨phase, written⟩ := Effect.idle effect idle still
    unfold Granted at granted ⊢
    rw [Ne, effect.absent, phase, written, effect.same.2]
    exact granted
  · exact .inl fun absent => idle (effect.absent.mp absent)

theorem Told.step {s s' : Stream Handler} {move} {outcome : Option Outcome} (effect : Effect s move s') (told : Told s outcome) :
    Told s' outcome := by
  match outcome, told with
  | none, told =>
    unfold Told Undecided at told ⊢
    rw [effect.stays, effect.same.2]
    exact told
  | some .granted, told => exact Granted.step effect told
  | some .unsendable, told | some .refused, told | some .missing, told | some .lost, told =>
    unfold Told
    rw [effect.same.2]
    exact Answering.step effect told

/-- The outcome a move of the handler decides. -/
def decided (s : Stream Handler) : HandlerMove → Option Outcome
  | .unopened => some .unsendable
  | .acked => s.front.ack.map fun ok => if ok then .granted else .refused
  | .timeout => some .missing
  | .lost => some .lost
  | _ => none

/-- Before OPEN_ACK nothing has come of the tunnel. -/
private theorem Told.undecided {s : Stream Handler} {outcome : Option Outcome} (told : Told s outcome) (front : s.phase = .front)
    (idle : s.task = .absent) (early : s.front.stage = .start ∨ s.front.stage = .registered ∨ s.front.stage = .opening ∨
      s.front.stage = .awaiting) : outcome = none := by
  match outcome, told with
  | none, _ => rfl
  | some .granted, told =>
    rcases told with running | ⟨-, bytes, now | now⟩ | ⟨⟨-, now⟩ | ended, -⟩
    · exact absurd idle running
    · simp [now] at early
    · simp [now] at early
    · simp [now] at early
    · simp [front] at ended
  | some .unsendable, told | some .refused, told | some .missing, told | some .lost, told =>
    obtain ⟨-, ⟨-, now, -⟩ | ⟨-, rest, now, -⟩ | ⟨ended, -⟩⟩ := told
    · simp [now] at early
    · simp [now] at early
    · simp [front] at ended

/-- A handler that greets or forwards was granted its tunnel. -/
private theorem Told.grants {s : Stream Handler} {outcome : Option Outcome} (told : Told s outcome) (front : s.phase = .front)
    {bytes : Bytes} (stage : s.front.stage = .greeting bytes ∨ s.front.stage = .forwarding bytes) : outcome = some .granted := by
  match outcome, told with
  | none, told => rcases stage with now | now <;> simp [Told, Undecided, now] at told
  | some .granted, _ => rfl
  | some .unsendable, told | some .refused, told | some .missing, told | some .lost, told =>
    obtain ⟨-, ⟨-, now, -⟩ | ⟨-, rest, now, -⟩ | ⟨ended, -⟩⟩ := told
    · simp [now] at stage
    · simp [now] at stage
    · simp [front] at ended

private theorem Answering.write {reply : Bytes} {s s' : Stream Handler} {move} (effect : HandlerEffect s move s')
    (works : move ≠ .replyError) (answering : Answering reply s) (leaving : move = .left ∨ ∃ count, move = .reply count) :
    Answering reply s' := by
  obtain ⟨idle, stands⟩ := answering
  cases effect with
  | left front stage more =>
    rcases stands with ⟨-, now, written⟩ | ⟨-, rest, now, -⟩ | ⟨ended, -⟩
    · cases stage.symm.trans now
      exact ⟨idle, .inr (.inl ⟨front, _, rfl, by simp [Stream.setStage, written]⟩)⟩
    · simp [stage] at now
    · simp [front] at ended
  | leftSilently front stage =>
    rcases stands with ⟨-, now, written⟩ | ⟨-, rest, now, -⟩ | ⟨ended, -⟩
    · cases stage.symm.trans now
      exact ⟨idle, .inr (.inr ⟨rfl, written⟩)⟩
    · simp [stage] at now
    · simp [front] at ended
  | @reply count rest front stage =>
    rcases stands with ⟨-, now, -⟩ | ⟨-, left, now, whole⟩ | ⟨ended, -⟩
    · simp [stage] at now
    · cases stage.symm.trans now
      exact ⟨idle, .inr (.inl ⟨front, _, rfl, by simp [whole]⟩)⟩
    · simp [front] at ended
  | @replied count rest front stage _ _ last =>
    rcases stands with ⟨-, now, -⟩ | ⟨-, left, now, whole⟩ | ⟨ended, -⟩
    · simp [stage] at now
    · cases stage.symm.trans now
      refine ⟨idle, .inr (.inr ⟨rfl, ?_⟩)⟩
      have all : rest.take count = rest := by rw [← List.append_nil (rest.take count), ← last, List.take_append_drop]
      rw [← whole, all]
    · simp [front] at ended
  | replyError => exact absurd rfl works
  | refused _ _ _ which => rcases which with rfl | rfl | rfl <;> simp at leaving
  | _ => simp at leaving

private theorem Granted.leaves {s s' : Stream Handler} {move} (effect : HandlerEffect s move s') (idle : s.task = .absent)
    (granted : Granted s) (leaving : move = .left ∨ ∃ count, move = .reply count) : Granted s' := by
  cases effect with
  | leftSilently front stage =>
    rcases granted with running | ⟨-, bytes, now | now⟩ | ⟨-, silent⟩
    · exact absurd idle running
    · simp [stage] at now
    · simp [stage] at now
    · exact .inr (.inr ⟨.inr rfl, silent⟩)
  | left front stage more =>
    rcases granted with running | ⟨-, bytes, now | now⟩ | ⟨⟨-, now⟩ | ended, -⟩
    · exact absurd idle running
    · simp [stage] at now
    · simp [stage] at now
    · exact absurd (Stage.leaving.inj (stage.symm.trans now)) more
    · simp [front] at ended
  | reply front stage | replied front stage =>
    rcases granted with running | ⟨-, bytes, now | now⟩ | ⟨⟨-, now⟩ | ended, -⟩
    · exact absurd idle running
    · simp [stage] at now
    · simp [stage] at now
    · simp [stage] at now
    · simp [front] at ended
  | refused _ _ _ which => rcases which with rfl | rfl | rfl <;> simp at leaving
  | _ => simp at leaving

private theorem Told.leaves {s s' : Stream Handler} {move} {outcome : Option Outcome} (effect : HandlerEffect s move s')
    (idle : s.task = .absent) (works : move ≠ .replyError) (told : Told s outcome)
    (leaving : move = .left ∨ ∃ count, move = .reply count) : Told s' outcome := by
  have tunnel := effect.same.2.1
  match outcome, told with
  | none, told =>
    obtain ⟨-, stage⟩ := told
    cases effect with
    | left _ now | leftSilently _ now | reply _ now | replied _ now => simp [now] at stage
    | refused _ _ _ which => rcases which with rfl | rfl | rfl <;> simp at leaving
    | _ => simp at leaving
  | some .granted, told => exact Granted.leaves effect idle told leaving
  | some .unsendable, told | some .refused, told | some .missing, told | some .lost, told =>
    unfold Told
    rw [tunnel]
    exact Answering.write effect works told leaving

theorem Told.handlerStep {s s' : Stream Handler} {move} {outcome : Option Outcome} (handled : Handled s)
    (effect : HandlerEffect s move s') (works : move ≠ .greetError ∧ move ≠ .replyError) (told : Told s outcome) :
    Told s' ((decided s move).or outcome) := by
  have idle (front : s.phase = .front) : s.task = .absent := handled.inbound.front front
  cases effect with
  | ack =>
    cases outcome with
    | none => exact told
    | some outcome => cases outcome <;> exact told
  | registered front stage =>
    cases told.undecided front (idle front) (.inl stage)
    exact ⟨front, .inr (.inl rfl)⟩
  | inserted front stage =>
    cases told.undecided front (idle front) (.inr (.inl stage))
    exact ⟨front, .inr (.inr (.inl rfl))⟩
  | opened front stage =>
    cases told.undecided front (idle front) (.inr (.inr (.inl stage)))
    exact ⟨front, .inr (.inr (.inr rfl))⟩
  | unopened front stage =>
    have before := (handled.front front).1
    rw [stage] at before
    exact ⟨idle front, .inl ⟨front, rfl, before.2⟩⟩
  | granted front stage ack next =>
    have found : decided s .acked = some .granted := by simp [decided, ack]
    rw [found, Option.some_or]
    rcases next with ⟨-, rfl⟩ | ⟨-, rfl⟩
    · exact .inr (.inl ⟨front, _, .inl rfl⟩)
    · exact .inr (.inl ⟨front, _, .inr rfl⟩)
  | @refused move front stage ack which answered =>
    have before := (handled.front front).1
    rw [stage] at before
    have answering : Answering s.front.tunnel.spec.refused (s.setStage (.leaving s.front.spec.refused)) :=
      ⟨idle front, .inl ⟨front, rfl, before.2⟩⟩
    rcases which with rfl | rfl | rfl
    · have found : decided s .acked = some .refused := by simp [decided, answered rfl]
      rw [found, Option.some_or]
      exact answering
    · exact answering
    · exact answering
  | greet front stage =>
    cases told.grants front (.inl stage)
    exact .inr (.inl ⟨front, _, .inl rfl⟩)
  | greeted front stage =>
    cases told.grants front (.inl stage)
    exact .inl (by simp [Stream.relay])
  | greetError => exact absurd rfl works.1
  | forwarded front stage =>
    cases told.grants front (.inr stage)
    exact .inl (by simp [Stream.relay])
  | unforwarded front stage =>
    cases told.grants front (.inr stage)
    have before := (handled.front front).1
    rw [stage] at before
    obtain ⟨-, -, opened, written⟩ := before
    have silent : greeting s.front = [] := by simp [greeting, opened]
    exact .inr (.inr ⟨.inl ⟨front, rfl⟩, written, silent⟩)
  | left front stage more => exact told.leaves (.left front stage more) (idle front) (by simp) (.inl rfl)
  | leftSilently front stage => exact told.leaves (.leftSilently front stage) (idle front) (by simp) (.inl rfl)
  | reply front stage writable some more =>
    exact told.leaves (.reply front stage writable some more) (idle front) (by simp) (.inr ⟨_, rfl⟩)
  | replied front stage writable some last =>
    exact told.leaves (.replied front stage writable some last) (idle front) (by simp) (.inr ⟨_, rfl⟩)
  | replyError => exact absurd rfl works.2

/-! ### Connections -/

/-- A write of a handler to its local socket fails. -/
def fails : HandlerAction → Bool
  | .stream .greetError | .stream .replyError => true
  | _ => false

/-- The handlers stand by what is on record about their tunnels. -/
structure Accounted (streams : List (Stream Handler)) (outcomes : Nat → Option Outcome) : Prop where
  told : ∀ (k : Nat) (s : Stream Handler), streams[k]? = some s → Told s (outcomes k)
  fresh : ∀ k, streams.length ≤ k → outcomes k = none

def noted (outcomes : Nat → Option Outcome) : Option (Nat × Outcome) → Nat → Option Outcome
  | some (k, outcome) => Function.update outcomes k (some outcome)
  | none => outcomes

namespace Accounted
variable {streams : List (Stream Handler)} {outcomes : Nat → Option Outcome} {k : Nat} {s s' : Stream Handler}

private theorem shared {move} (valid : Accounted streams outcomes) (found : streams[k]? = some s) (effect : Effect s move s') :
    Accounted (streams.set k s') outcomes := by
  refine ⟨?_, by simpa using valid.fresh⟩
  intro j t there
  rcases set_cases there with ⟨rfl, rfl⟩ | ⟨-, there⟩
  · exact (valid.told _ s found).step effect
  · exact valid.told j t there

private theorem handler {move} (valid : Accounted streams outcomes) (handled : ∀ s ∈ streams, Handled s)
    (found : streams[k]? = some s) (effect : HandlerEffect s move s') (works : move ≠ .greetError ∧ move ≠ .replyError) :
    Accounted (streams.set k s') (noted outcomes ((decided s move).map (k, ·))) := by
  have told := (valid.told k s found).handlerStep (handled s (List.mem_of_getElem? found)) effect works
  have inside := (List.getElem?_eq_some_iff.mp found).1
  cases which : decided s move with
  | none =>
    rw [which, Option.none_or] at told
    refine ⟨?_, by simpa [noted] using valid.fresh⟩
    intro j t there
    rcases set_cases there with ⟨rfl, rfl⟩ | ⟨-, there⟩
    · exact told
    · exact valid.told j t there
  | some outcome =>
    rw [which, Option.some_or] at told
    refine ⟨?_, ?_⟩
    · intro j t there
      rcases set_cases there with ⟨rfl, rfl⟩ | ⟨different, there⟩
      · simpa [noted] using told
      · simpa [noted, different] using valid.told j t there
    · intro j outside
      rw [List.length_set] at outside
      have different : j ≠ k := by omega
      simpa [noted, different] using valid.fresh j outside

theorem append (valid : Accounted streams outcomes) (new : Undecided s) : Accounted (streams ++ [s]) outcomes := by
  refine ⟨?_, ?_⟩
  · intro j t there
    rcases append_cases there with ⟨rfl, rfl⟩ | there
    · rw [valid.fresh _ le_rfl]
      exact new
    · exact valid.told j t there
  · intro j outside
    rw [List.length_append] at outside
    exact valid.fresh j (by omega)

theorem step {c c' : Client} {action : ClientAction} (valid : Accounted c.streams outcomes) (handled : ∀ s ∈ c.streams, Handled s)
    (effect : ClientEffect c action c') (works : ∀ k move, action = .handler k move → fails move = false) :
    Accounted c'.streams (noted outcomes (c.decides action)) := by
  cases effect with
  | endpoint effect =>
    cases effect with
    | pop | put | putFail => exact valid
    | stream found _ stepped | sent found _ _ stepped | unsent found _ _ stepped | finish found _ stepped
    | route _ found stepped | unregister found stepped => exact valid.shared found stepped
  | routing _ _ _ _ found stepped => exact valid.shared found stepped
  | accept => exact valid.append ⟨rfl, .inl rfl⟩
  | register found stepped | insertAck found stepped | leave found stepped | ackLost found _ stepped
  | acked _ _ _ _ found stepped => exact valid.handler handled found stepped (by simp)
  | @sent k frame frames s s' move found _ accepts which stepped =>
    have nothing : c.decides (.handler k .send) = none := by simp [Client.decides, found, accepts.receiver]
    rw [nothing]
    rcases which with rfl | rfl
    · exact valid.handler handled found stepped (by simp)
    · exact valid.handler handled found stepped (by simp)
  | @unsent k frame s s' move found _ closed which stepped =>
    have same : c.decides (.handler k .send) = (decided s move).map (k, ·) := by
      rcases which with rfl | rfl
      · cases stepped with
        | unopened _ stage => simp [Client.decides, found, stage, closed, decided]
        | refused _ _ _ which => simp at which
      · cases stepped with
        | unforwarded _ stage => simp [Client.decides, found, stage, decided]
        | refused _ _ _ which => simp at which
    rw [same]
    exact valid.handler handled found stepped (by rcases which with rfl | rfl <;> simp)
  | @handler k s s' move found isLocal stepped =>
    have quiet := works k _ rfl
    have same : c.decides (.handler k (.stream move)) = (decided s move).map (k, ·) := by
      cases move with
      | acked => simp [Client.decides, decided, found, Function.comp_def]
      | timeout | greet | greetError | reply | replyError => rfl
      | _ => cases isLocal
    rw [same]
    exact valid.handler handled found stepped (by constructor <;> rintro rfl <;> cases quiet)
  | readerCloseAll | readerClear | writerExit | writerStop | release | releaseClear | releaseCloseAll | connect | connectFail
  | ignored | broken | closed | skipped => exact valid

end Accounted

/-! ### The resilient proxy -/

variable {socks : Bool} {r r' : Reception}

/-- Writes to the local sockets succeed. -/
def writes : ReceptionAction → Bool
  | .proxy (.handler _ (.handler action)) => !fails action
  | .reply _ .greetError | .reply _ .replyError => false
  | _ => true

/-- A step of a handler that was turned away, or of its socket. -/
theorem aside {i : Nat} {isLocal : Bool} {change : Stream Handler → Option (Stream Handler)}
    (taken : (if isLocal then r.modify i change else none) = some r') :
    isLocal = true ∧ r.modify i change = some r' ∧ r'.proxy = r.proxy ∧ r'.outcomes = r.outcomes := by
  rw [Option.ite_none_right_eq_some] at taken
  obtain ⟨isLocal, modified⟩ := taken
  refine ⟨isLocal, modified, ?_⟩
  obtain ⟨⟨h, s⟩, -, modified⟩ := Option.bind_eq_some_iff.mp modified
  obtain ⟨s', -, rfl⟩ := Option.map_eq_some_iff.mp modified
  exact ⟨rfl, rfl⟩

theorem proxy_reachable {allowed} (run : (receptionSystem socks).Reach allowed r) : (resilientSystem socks).Reachable r.proxy := by
  refine run.component Reception.proxy ?_ ?_
  · rintro r rfl
    rfl
  · intro before action after _ taken
    cases action with
    | proxy action =>
      obtain ⟨proxy, stepped, rfl⟩ := Option.map_eq_some_iff.mp taken
      exact .inr ⟨action, trivial, stepped⟩
    | reply i move => exact .inl (aside taken).2.2.1
    | socket i move => exact .inl (aside taken).2.2.1

theorem conn_handled {p : Resilient} (run : (resilientSystem socks).Reachable p) {conn : Nat} {c : Client}
    (there : p.conns[conn]? = some c) : ∀ s ∈ c.streams, Handled s := by
  obtain ⟨tokens, dialled⟩ := ProxyInvariant.dialled run
  have inside : conn < tokens.length := by
    rw [dialled.length]
    exact (List.getElem?_eq_some_iff.mp there).1
  have client := dialled.runs conn tokens[conn] c (List.getElem?_eq_getElem inside) there
  exact (ClientInvariant.client_valid client).streams.handled

/-- The handlers of every connection stand by what is on record about their tunnels. -/
structure AllAccounted (conns : List Client) (outcomes : Nat → Nat → Option Outcome) : Prop where
  each : ∀ (conn : Nat) (c : Client), conns[conn]? = some c → Accounted c.streams (outcomes conn)
  fresh : ∀ conn, conns.length ≤ conn → outcomes conn = fun _ => none

private theorem record_own (outcomes : Nat → Nat → Option Outcome) (conn : Nat) (decided : Option (Nat × Outcome)) :
    Reception.record outcomes conn decided conn = noted (outcomes conn) decided := by
  cases decided with
  | none => rfl
  | some pair =>
    funext j
    simp [Reception.record, noted, Function.update_apply]

private theorem record_other (outcomes : Nat → Nat → Option Outcome) {conn other : Nat} (decided : Option (Nat × Outcome))
    (different : other ≠ conn) : Reception.record outcomes conn decided other = outcomes other := by
  cases decided with
  | none => rfl
  | some pair =>
    funext j
    simp [Reception.record, different]

private theorem AllAccounted.moved {p : Resilient} {outcomes : Nat → Nat → Option Outcome} {conn : Nat} {move : ClientAction}
    {conns : List Client} (valid : AllAccounted p.conns outcomes) (run : (resilientSystem socks).Reachable p)
    (moved : ConnStep p conn move conns) (works : ∀ k action, move = .handler k action → fails action = false) :
    AllAccounted conns (Reception.record outcomes conn (p.conns[conn]?.bind (·.decides move))) := by
  obtain ⟨there, stepped⟩ := moved
  rw [there, Option.bind_some]
  have inside := (List.getElem?_eq_some_iff.mp there).1
  refine ⟨?_, ?_⟩
  · intro other c found
    rcases set_cases found with ⟨rfl, rfl⟩ | ⟨different, found⟩
    · rw [record_own]
      exact (valid.each _ _ there).step (conn_handled run there) (client_effect stepped) works
    · rw [record_other outcomes _ different]
      exact valid.each other c found
  · intro other outside
    rw [List.length_set] at outside
    rw [record_other outcomes _ (by omega)]
    exact valid.fresh other outside

/-- A step that is not one of a handler decides nothing. -/
private theorem AllAccounted.unmoved {p : Resilient} {outcomes : Nat → Nat → Option Outcome} {conn : Nat} {move : ClientAction}
    {conns : List Client} (valid : AllAccounted p.conns outcomes) (run : (resilientSystem socks).Reachable p)
    (moved : ConnStep p conn move conns) (other : ∀ k action, move ≠ .handler k action) : AllAccounted conns outcomes := by
  have after := valid.moved run moved fun k action same => absurd same (other k action)
  have nothing : p.conns[conn]?.bind (·.decides move) = none := by
    cases p.conns[conn]? with
    | none => rfl
    | some c =>
      cases move with
      | handler k action => exact absurd rfl (other k action)
      | _ => rfl
  rwa [nothing] at after

private theorem AllAccounted.step {action : ResilientAction} {p' : Resilient} (valid : AllAccounted r.proxy.conns r.outcomes)
    (run : (resilientSystem socks).Reachable r.proxy) (effect : ResilientEffect r.proxy action p')
    (works : writes (.proxy action) = true) : AllAccounted p'.conns (r.recorded action) := by
  cases effect with
  | accept | departed | unavailable => exact valid
  | halted which => rcases which with rfl | ⟨listener, rfl⟩ <;> exact valid
  | tunnelled _ _ _ moved => exact valid.unmoved run moved (by simp)
  | @loop conn action conns moved =>
    refine valid.unmoved run moved ?_
    cases action <;> simp [LoopAction.on]
  | @handler h id listener conn k action conns found moved =>
    have same : r.recorded (.handler h action) =
        Reception.record r.outcomes conn (r.proxy.conns[conn]?.bind (·.decides (action.on k))) := by
      simp only [Reception.recorded, found]
    rw [same]
    refine valid.moved run moved ?_
    intro j inner own
    cases action with
    | handler inner' =>
      cases own
      simpa [writes] using works
    | _ => cases own
  | keeper effect =>
    change AllAccounted p'.conns r.outcomes
    cases effect with
    | obtained | unobtained | slept | unconnected | empty | stopped => exact valid
    | connected =>
      refine ⟨?_, ?_⟩
      · intro conn c found
        rcases append_cases found with ⟨rfl, rfl⟩ | found
        · refine ⟨fun k s there => by simp [Client.fresh, Endpoint.fresh] at there, fun k _ => ?_⟩
          rw [valid.fresh _ le_rfl]
        · exact valid.each conn c found
      · intro conn outside
        rw [List.length_append] at outside
        exact valid.fresh conn (by omega)
    | greeted _ moved | ungreeted _ moved | took _ _ _ moved | clear _ moved | close _ moved =>
      exact valid.unmoved run moved (by simp)

/-! ### Handlers without a connection -/

/-- The handlers that found the slot empty, each with its reply. -/
structure Turned (r : Reception) : Prop where
  answering : ∀ h s, (h, s) ∈ r.turned → Answering (failureReply s.front.tunnel) s
  away : ∀ (h : Nat) id listener, r.proxy.listeners.accepted[h]? = some ⟨id, listener, .unavailable⟩ → ∃ s, (h, s) ∈ r.turned

theorem turnedAway_answering (id : StreamId) (tunnel : Tunnel) : Answering (failureReply tunnel) (turnedAway id tunnel) := by
  have some : tunnel.listener.unavailable ≠ [] := by
    cases tunnel.listener with
    | http => change badGateway ≠ []; decide +kernel
    | socks5 => simp [Listener.unavailable, socks5Reply]
  rw [turnedAway, Stream.finishReply, if_neg some]
  exact ⟨rfl, .inr (.inl ⟨rfl, _, rfl, rfl⟩)⟩

/-- All it can do by itself is to write. -/
private theorem Answering.replies {reply : Bytes} {s s' : Stream Handler} {move} (effect : HandlerEffect s move s')
    (isLocal : move.isLocal = true) (works : move ≠ .replyError) (answering : Answering reply s) : Answering reply s' := by
  by_cases leaving : move = .left ∨ ∃ count, move = .reply count
  · exact Answering.write effect works answering leaving
  · obtain ⟨-, stands⟩ := answering
    cases effect with
    | granted front stage | refused front stage | greet front stage | greeted front stage | greetError front stage =>
      rcases stands with ⟨-, now, -⟩ | ⟨-, rest, now, -⟩ | ⟨ended, -⟩
      · simp [stage] at now
      · simp [stage] at now
      · simp [front] at ended
    | reply | replied => exact absurd (.inr ⟨_, rfl⟩) leaving
    | replyError => exact absurd rfl works
    | _ => cases isLocal

private theorem Turned.modify {i : Nat} {change : Stream Handler → Option (Stream Handler)} (valid : Turned r)
    (modified : r.modify i change = some r')
    (kept : ∀ s s', change s = some s' → Answering (failureReply s.front.tunnel) s → Answering (failureReply s'.front.tunnel) s') :
    Turned r' := by
  obtain ⟨⟨h, s⟩, found, modified⟩ := Option.bind_eq_some_iff.mp modified
  obtain ⟨s', changed, rfl⟩ := Option.map_eq_some_iff.mp modified
  refine ⟨?_, ?_⟩
  · intro h' t member
    rcases List.mem_or_eq_of_mem_set member with old | same
    · exact valid.answering h' t old
    · cases same
      exact kept s s' changed (valid.answering h s (List.mem_of_getElem? found))
  · intro h' id listener away
    obtain ⟨t, member⟩ := valid.away h' id listener away
    obtain ⟨j, there⟩ := List.getElem?_of_mem member
    by_cases own : j = i
    · subst own
      cases found.symm.trans there
      exact ⟨s', List.mem_of_getElem? (set_found found _)⟩
    · exact ⟨t, List.mem_of_getElem? ((set_other own _).trans there)⟩

/-- A handler that is settled was parsing; the others stand as before. -/
theorem settled {l : Listeners} {h j : Nat} {standing : Standing} {connection : LocalConnection}
    (found : (l.settle h standing).accepted[j]? = some connection) :
    j = h ∧ connection.standing = standing ∨ l.accepted[j]? = some connection := by
  rw [Listeners.settle, List.getElem?_modify] at found
  split at found
  · next same =>
    obtain ⟨old, -, rfl⟩ := Option.map_eq_some_iff.mp found
    exact .inl ⟨same.symm, rfl⟩
  · exact .inr (by simpa using found)

private theorem settled_unavailable {l : Listeners} {h j : Nat} {standing : Standing} {id : StreamId} {listener : Listener}
    (other : standing ≠ .unavailable) (found : (l.settle h standing).accepted[j]? = some ⟨id, listener, .unavailable⟩) :
    l.accepted[j]? = some ⟨id, listener, .unavailable⟩ := by
  rcases settled found with ⟨-, same⟩ | found
  · exact absurd same.symm other
  · exact found

private theorem Turned.proxy {action : ResilientAction} {p' : Resilient} (valid : Turned r) (effect : ResilientEffect r.proxy action p') :
    Turned ⟨p', r.turned ++ r.turns action, r.recorded action⟩ := by
  have quiet (none : r.turns action = []) (listeners : ∀ (h : Nat) id listener,
      p'.listeners.accepted[h]? = some ⟨id, listener, .unavailable⟩ →
        r.proxy.listeners.accepted[h]? = some ⟨id, listener, .unavailable⟩) :
      Turned ⟨p', r.turned ++ r.turns action, r.recorded action⟩ := by
    rw [none, List.append_nil]
    exact ⟨valid.answering, fun h id listener away => valid.away h id listener (listeners h id listener away)⟩
  cases effect with
  | accept =>
    refine quiet rfl fun h id listener found => ?_
    rcases append_cases found with ⟨-, same⟩ | found
    · cases same
    · exact found
  | halted which =>
    rcases which with rfl | ⟨listener, rfl⟩ <;> exact quiet rfl fun h id listener found => found
  | departed => exact quiet rfl fun h id listener found => settled_unavailable (by simp) found
  | tunnelled _ slot =>
    exact quiet (by simp [Reception.turns, slot]) fun h id listener found => settled_unavailable (by simp) found
  | @unavailable h id listener tunnel found slot =>
    have turns : r.turns (.snapshot h tunnel) = [(h, turnedAway id tunnel)] := by simp [Reception.turns, slot, found]
    rw [turns]
    refine ⟨?_, ?_⟩
    · intro h' s member
      rcases List.mem_append.mp member with old | new
      · exact valid.answering h' s old
      · cases List.mem_singleton.mp new
        have tunnelled : (turnedAway id tunnel).front.tunnel = tunnel := by
          unfold turnedAway Stream.finishReply
          split <;> rfl
        rw [tunnelled]
        exact turnedAway_answering id tunnel
    · intro h' id' listener' there
      rcases settled there with ⟨rfl, -⟩ | there
      · exact ⟨_, List.mem_append_right _ (List.mem_singleton.mpr rfl)⟩
      · obtain ⟨s, member⟩ := valid.away h' id' listener' there
        exact ⟨s, List.mem_append_left _ member⟩
  | handler | loop => exact quiet rfl fun h id listener found => found
  | keeper effect =>
    refine quiet rfl fun h id listener found => ?_
    cases effect <;> exact found

theorem reception_accounted (run : (receptionSystem socks).Reach (fun action => writes action = true) r) :
    AllAccounted r.proxy.conns r.outcomes ∧ Turned r := by
  refine run.invariant (p := fun r => AllAccounted r.proxy.conns r.outcomes ∧ Turned r) ?_ ?_
  · rintro r rfl
    refine ⟨⟨?_, fun _ _ => rfl⟩, ⟨?_, ?_⟩⟩ <;> simp [Reception.fresh, Resilient.fresh, Listeners.fresh]
  · intro before action after prior valid works taken
    obtain ⟨accounted, turned⟩ := valid
    cases action with
    | proxy action =>
      obtain ⟨proxy, stepped, rfl⟩ := Option.map_eq_some_iff.mp taken
      have effect := resilient_effect stepped
      exact ⟨accounted.step (proxy_reachable prior) effect works, turned.proxy effect⟩
    | reply i move =>
      obtain ⟨isLocal, modified, proxy, outcomes⟩ := aside taken
      rw [proxy, outcomes]
      refine ⟨accounted, turned.modify modified ?_⟩
      intro s s' stepped answering
      have effect := handlerStep_effect stepped
      rw [effect.same.2.1]
      exact Answering.replies effect isLocal (by rintro rfl; cases works) answering
    | socket i move =>
      obtain ⟨isLocal, modified, proxy, outcomes⟩ := aside taken
      rw [proxy, outcomes]
      refine ⟨accounted, turned.modify modified ?_⟩
      intro s s' stepped answering
      have effect := StreamFlow.step_effect stepped
      rw [effect.same.2]
      exact Answering.step effect answering

/-! ### What the local clients are told -/

/-- The client has been told what came of its tunnel: by one failure reply, or by the
success reply ahead of what came through. -/
def Answered (s : Stream Handler) : Outcome → Prop
  | .granted => ∃ relayed, s.socket.written = successReply s.front.tunnel ++ relayed ∧ relayed <+: s.inflow.flatten
  | _ => s.socket.written = failureReply s.front.tunnel

theorem Granted.answered {s : Stream Handler} (handled : Handled s) (granted : Granted s) (ended : s.phase = .done) :
    Answered s .granted := by
  rcases granted with running | ⟨front, -⟩ | ⟨-, written, silent⟩
  · obtain ⟨relayed, written, front⟩ := handled.inbound.relayed running
    exact ⟨relayed, by rw [written, greeting_success], front⟩
  · simp [ended] at front
  · exact ⟨[], by rw [written, ← greeting_success, silent]; rfl, List.nil_prefix⟩

theorem Answering.answered {s : Stream Handler} {bytes : Bytes} (answering : Answering bytes s) (ended : s.phase = .done) :
    s.socket.written = bytes := by
  obtain ⟨-, ⟨front, -⟩ | ⟨front, -⟩ | ⟨-, written⟩⟩ := answering
  · simp [ended] at front
  · simp [ended] at front
  · exact written

theorem Told.answered {s : Stream Handler} {outcome : Outcome} (handled : Handled s) (told : Told s (some outcome))
    (ended : s.phase = .done) : Answered s outcome ↔ ¬(s.front.tunnel.listener = .http ∧ outcome = .unsendable) := by
  cases outcome with
  | granted => exact iff_of_true (Granted.answered handled told ended) (by simp)
  | unsendable | refused | missing | lost =>
    rw [Answered, Answering.answered told ended]
    · exact reply_failure _ _
    · simp

/-- Every handler tells its client what came of its tunnel, and nothing before, except the
HTTP handler that cannot send its OPEN. -/
theorem tunnels_answered (socks : Bool) (r : Reception)
    (run : (receptionSystem socks).Reach (fun action => writes action = true) r) :
    (∀ (conn : Nat) (c : Client) (k : Nat) (s : Stream Handler), r.proxy.conns[conn]? = some c → c.streams[k]? = some s →
      (r.outcomes conn k = none → s.phase = .front ∧ s.socket.written = []) ∧
      (s.phase = .done → ∃ outcome, r.outcomes conn k = some outcome ∧
        (Answered s outcome ↔ ¬(s.front.tunnel.listener = .http ∧ outcome = .unsendable)))) ∧
    (∀ (h : Nat) id listener, r.proxy.listeners.accepted[h]? = some ⟨id, listener, .unavailable⟩ → ∃ s, (h, s) ∈ r.turned) ∧
    ∀ h s, (h, s) ∈ r.turned → s.phase = .done → s.socket.written = failureReply s.front.tunnel := by
  obtain ⟨accounted, turned⟩ := reception_accounted run
  refine ⟨?_, turned.away, fun h s member ended => (turned.answering h s member).answered ended⟩
  intro conn c k s there found
  have handled := conn_handled (proxy_reachable run) there s (List.mem_of_getElem? found)
  have told := (accounted.each conn c there).told k s found
  constructor
  · intro none
    rw [none] at told
    obtain ⟨front, early⟩ := told
    have stage := (handled.front front).1
    rcases early with now | now | now | now <;> rw [now] at stage <;> exact ⟨front, stage.2⟩
  · intro ended
    cases outcome : r.outcomes conn k with
    | none =>
      rw [outcome] at told
      simp [Told, Undecided, ended] at told
    | some outcome' =>
      rw [outcome] at told
      exact ⟨outcome', rfl, told.answered handled ended⟩

/-- A handler turned away before there is a connection, and then two tunnels on one that
breaks between the OPEN of the first and that of the second. -/
private def breaking (second : Tunnel) : List ReceptionAction :=
  [.proxy (.accept .http), .proxy (.snapshot 0 (.viaMuxWithTimeout ⟨"1.1.1.1:80", true, "", []⟩)), .reply 0 (.reply 47),
    .proxy (.keeper (.obtained "t")), .proxy (.keeper .connected), .proxy (.keeper .greeted),
    .proxy (.accept .socks5), .proxy (.snapshot 1 (.socksViaMuxWithTimeout "1.1.1.1:80")),
    .proxy (.accept second.listener), .proxy (.snapshot 2 second),
    .proxy (.handler 1 (.handler .register)), .proxy (.handler 1 (.handler .insertAck)), .proxy (.handler 1 (.handler .send)),
    .proxy (.loop 0 .pop), .proxy (.loop 0 .putFail), .proxy (.loop 0 .writerStop),
    .proxy (.handler 2 (.handler .register)), .proxy (.handler 2 (.handler .insertAck)), .proxy (.handler 2 (.handler .send)),
    .proxy (.handler 2 (.handler .leave))]

private theorem breaking_writes (second : Tunnel) : ∀ action ∈ breaking second, writes action = true := by
  intro action member
  simp only [breaking, List.mem_cons, List.not_mem_nil, or_false] at member
  rcases member with rfl | rfl | rfl | rfl | rfl | rfl | rfl | rfl | rfl | rfl | rfl | rfl | rfl | rfl | rfl | rfl | rfl | rfl |
    rfl | rfl <;> rfl

/-- What there is of the two tunnels. -/
private def shape (r : Reception) : List (List (Tunnel × Phase × Bytes)) :=
  r.proxy.conns.map fun c => c.streams.map fun s => (s.front.tunnel, s.phase, s.socket.written)

private theorem shape_second {first : Tunnel × Phase × Bytes} {tunnel : Tunnel} {phase : Phase} {written : Bytes}
    (shaped : shape r = [[first, (tunnel, phase, written)]]) :
    ∃ c s, r.proxy.conns[0]? = some c ∧ c.streams[1]? = some s ∧ s.front.tunnel = tunnel ∧ s.phase = phase ∧
      s.socket.written = written := by
  have conn := congrArg (·[0]?) shaped
  simp only [shape, List.getElem?_map, List.getElem?_cons_zero] at conn
  obtain ⟨c, there, streams⟩ := Option.map_eq_some_iff.mp conn
  have stream := congrArg (·[1]?) streams
  simp only [List.getElem?_map, List.getElem?_cons_succ, List.getElem?_cons_zero] at stream
  obtain ⟨s, found, same⟩ := Option.map_eq_some_iff.mp stream
  simp only [Prod.mk.injEq] at same
  exact ⟨c, s, there, found, same⟩

private theorem breaking_reaches {second : Tunnel} {last : List ReceptionAction} {test : Reception → Bool}
    (executed : ((receptionSystem true).exec (Reception.fresh true) (breaking second ++ last)).any test = true)
    (works : ∀ action ∈ last, writes action = true) :
    ∃ r, (receptionSystem true).Reach (fun action => writes action = true) r ∧ test r = true := by
  obtain ⟨r, ran, passed⟩ := (Option.any_eq_true _ _).mp executed
  refine ⟨r, ?_, passed⟩
  apply Transition.System.Reach.exec (.init rfl) ?_ ran
  intro action member
  rcases List.mem_append.mp member with there | there
  · exact breaking_writes second action there
  · exact works action there

/-- Of the SOCKS5 handler both the empty slot and the broken connection get a reply. -/
theorem socks_answered : ∃ (r : Reception) (c : Client) (s : Stream Handler), r.turned.map (·.2.socket.written) = [badGateway] ∧
    r.proxy.conns[0]? = some c ∧ c.streams[1]? = some s ∧ r.outcomes 0 1 = some .unsendable ∧ Answered s .unsendable := by
  let second : Tunnel := .socksViaMuxWithTimeout "1.1.1.1:81"
  have executed : ((receptionSystem true).exec (Reception.fresh true)
      (breaking second ++ [.proxy (.handler 2 (.handler (.stream (.reply 10))))])).any (fun r =>
        decide (shape r = [[(.socksViaMuxWithTimeout "1.1.1.1:80", .front, []),
          (second, .done, socks5Reply socks5RepGeneralFailure)]] ∧ r.outcomes 0 1 = some .unsendable ∧
            r.turned.map (·.2.socket.written) = [badGateway])) = true := by decide +kernel
  obtain ⟨r, run, view⟩ := breaking_reaches executed (by simp [writes, fails])
  obtain ⟨shaped, outcome, turned⟩ := of_decide_eq_true view
  obtain ⟨c, s, there, found, tunnel, ended, -⟩ := shape_second shaped
  obtain ⟨which, recorded, answered⟩ := ((tunnels_answered true r run).1 0 c 1 s there found).2 ended
  cases outcome.symm.trans recorded
  exact ⟨r, c, s, turned, there, found, outcome, answered.mpr (by simp [tunnel, second, Tunnel.listener])⟩

/-- The HTTP handler whose OPEN cannot be sent returns without a word. -/
theorem http_unanswered : ¬∀ (socks : Bool) (r : Reception) (conn : Nat) (c : Client) (k : Nat) (s : Stream Handler)
    (outcome : Outcome), (receptionSystem socks).Reach (fun action => writes action = true) r → r.proxy.conns[conn]? = some c →
      c.streams[k]? = some s → s.phase = .done → r.outcomes conn k = some outcome → Answered s outcome := by
  intro answered
  let second : Tunnel := .viaMuxWithTimeout ⟨"1.1.1.1:81", true, "", []⟩
  have executed : ((receptionSystem true).exec (Reception.fresh true) (breaking second ++ [])).any (fun r =>
      decide (shape r = [[(.socksViaMuxWithTimeout "1.1.1.1:80", .front, []), (second, .done, [])]] ∧
        r.outcomes 0 1 = some .unsendable)) = true := by decide +kernel
  obtain ⟨r, run, view⟩ := breaking_reaches executed (by simp)
  obtain ⟨shaped, outcome⟩ := of_decide_eq_true view
  obtain ⟨c, s, there, found, tunnel, ended, silent⟩ := shape_second shaped
  have told := answered true r 0 c 1 s .unsendable run there found ended outcome
  rw [Answered, silent, tunnel] at told
  · revert told
    decide +kernel
  · simp

end EchoProxy.Proofs.Replies
