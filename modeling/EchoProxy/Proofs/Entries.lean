import EchoProxy.Proofs.Registration

/-! What a connection still lists of a stream that is over: nothing in the registry, and
in `pending_acks` nothing unless the handler gave up on its OPEN_ACK. -/

namespace EchoProxy.Proofs.Entries
open EchoProxy StreamFlow HandlerFlow EndpointSteps EndpointAccounts ClientSteps FrameSequences Places Registration

/-! ### `pending_acks` -/

/-- A handler gives up on its OPEN_ACK, by a failed OPEN or at the deadline, only after
its sender has left `pending_acks`. -/
def retires (c : Client) : ClientAction → Bool
  | .handler k .send => c.frames.receiver || c.streams[k]?.all fun s => s.front.stage ≠ .opening ∨ c.pendingAcks s.id ≠ some k
  | .handler k (.stream .timeout) => c.streams[k]?.all fun s => c.pendingAcks s.id ≠ some k
  | _ => true

/-- The handler is between storing its sender and its OPEN_ACK. -/
def Asking (s : Stream Handler) : Prop :=
  s.phase = .front ∧ (s.front.stage = .opening ∨ s.front.stage = .awaiting) ∧ s.front.ack = none

/-- `pending_acks` is keyed as the registry is. -/
def AllAsking (c : Client) : Prop := Enlisted Asking c.pendingAcks c.streams

private theorem Asking.step {s s' : Stream Handler} {move} (effect : Effect s move s') (asking : Asking s) : Asking s' := by
  unfold Asking at asking ⊢
  rw [effect.stays, effect.same.2]
  exact asking

/-- Until its OPEN_ACK is there a handler can only send its OPEN. -/
private theorem Asking.handlerStep {s s' : Stream Handler} {move} (effect : HandlerEffect s move s')
    (other : (∀ ok, move ≠ .ack ok) ∧ move ≠ .unopened ∧ move ≠ .lost ∧ move ≠ .timeout) (asking : Asking s) : Asking s' := by
  obtain ⟨front, stage, ack⟩ := asking
  cases effect with
  | @ack ok => exact absurd rfl (other.1 ok)
  | opened => exact ⟨front, .inr rfl, ack⟩
  | unopened => exact absurd rfl other.2.1
  | granted _ _ granted => simp [ack] at granted
  | refused _ _ _ which answered =>
    rcases which with rfl | rfl | rfl
    · simp [ack] at answered
    · exact absurd rfl other.2.2.1
    · exact absurd rfl other.2.2.2
  | registered _ now | inserted _ now | greet _ now | greeted _ now | greetError _ now | forwarded _ now | unforwarded _ now
  | left _ now | leftSilently _ now | reply _ now | replied _ now | replyError _ now => simp [now] at stage

private theorem allAsking_step {token : String} {c c' : Client} {action} (client : ClientInvariant.Valid token c)
    (unasked : Unasked c) (effect : ClientEffect c action c') (meets : retires c action = true) (valid : AllAsking c) :
    AllAsking c' := by
  have handler {k : Nat} {s s' : Stream Handler} {move} (found : c.streams[k]? = some s) (stepped : HandlerEffect s move s')
      (other : (∀ ok, move ≠ .ack ok) ∧ move ≠ .unopened ∧ move ≠ .lost ∧ move ≠ .timeout) :
      Enlisted Asking c.pendingAcks (c.streams.set k s') :=
    valid.set found stepped.same.1 (Asking.handlerStep stepped other)
  cases effect with
  | endpoint effect =>
    cases effect with
    | pop | put | putFail => exact valid
    | stream found _ stepped | sent found _ _ stepped | unsent found _ _ stepped | finish found _ stepped
    | route _ found stepped | unregister found stepped => exact valid.set found stepped.same.1 (Asking.step stepped)
  | routing _ _ _ _ found stepped => exact valid.set found stepped.same.1 (Asking.step stepped)
  | accept =>
    intro j t there pending
    rcases append_cases there with ⟨rfl, rfl⟩ | there
    · obtain ⟨_, there, -⟩ := client.acks.pending _ _ pending
      simp at there
    · exact valid j t there pending
  | register found stepped | leave found stepped => exact handler found stepped (by simp)
  | insertAck found stepped =>
    refine Enlisted.register valid ?_
    cases stepped with
    | inserted front registered => exact ⟨front, .inl rfl, (unasked _ _ found ⟨front, .inr registered⟩).1⟩
    | refused _ _ _ which => simp at which
  | sent found _ _ which stepped => exact handler found stepped (by rcases which with rfl | rfl <;> simp)
  | @unsent k frame s s' move found _ closed which stepped =>
    rcases which with rfl | rfl
    · have gone : c.pendingAcks s.id ≠ some k := by
        cases stepped with
        | unopened _ stage => simpa [retires, closed, found, stage] using meets
        | refused _ _ _ which => simp at which
      exact valid.unlisted gone stepped.same.1
    · exact handler found stepped (by simp)
  | ackLost found gone stepped => exact valid.unlisted gone stepped.same.1
  | @handler k s s' move found isLocal stepped =>
    by_cases late : move = .timeout
    · subst late
      exact valid.unlisted (by simpa [retires, found] using meets) stepped.same.1
    · exact handler found stepped ⟨fun ok => handlerLocal_ne isLocal rfl, handlerLocal_ne isLocal rfl,
        handlerLocal_ne isLocal rfl, late⟩
  | acked _ _ _ pending found stepped =>
    obtain ⟨_, there, own⟩ := client.acks.pending _ _ pending
    cases found.symm.trans there
    subst own
    exact Enlisted.retire valid stepped.same.1
  | readerClear | releaseClear => exact Enlisted.closeAll
  | _ => exact valid

theorem all_asking {token : String} {resilient : Bool} {c : Client}
    (run : ((clientSystem token resilient).when retires).Reachable c) : AllAsking c := by
  refine run.invariant (p := AllAsking) ?_ ?_
  · rintro c rfl
    exact .closeAll
  · intro before action after prior valid _ taken
    obtain ⟨meets, taken⟩ := Transition.System.when_step.mp taken
    exact allAsking_step (ClientInvariant.client_valid prior.unguarded) (client_unasked prior.unguarded)
      (client_effect taken) meets valid

/-- As long as no handler gives up on an OPEN_ACK whose sender is stored, a handler that
has returned has left nothing in `pending_acks`. -/
theorem pending_acks_retired (token : String) (resilient : Bool) (c : Client)
    (run : ((clientSystem token resilient).when retires).Reachable c) (distinct : Distinct c.streams) :
    ∀ s ∈ c.streams, s.phase = .done → c.pendingAcks s.id = none := by
  intro s member returned
  cases pending : c.pendingAcks s.id with
  | none => rfl
  | some k =>
    obtain ⟨place, found⟩ := List.getElem?_of_mem member
    obtain ⟨t, there, own⟩ := (ClientInvariant.client_valid run.unguarded).acks.pending _ _ pending
    have here := distinct.same there found own
    subst here
    have front := (all_asking run _ s found pending).1
    simp [returned] at front

/-- A SOCKS5 handler that has sent its OPEN. -/
private def asked : List ClientAction :=
  [.connect, .accept 1 (.socksViaMuxWithTimeout "1.1.1.1:80"), .handler 0 .register, .handler 0 .insertAck, .handler 0 .send]

/-- It waits in vain until the deadline and answers for itself. -/
private def unanswered : List ClientAction := [.handler 0 (.stream .timeout), .handler 0 .leave, .handler 0 (.stream (.reply 10))]

private theorem one_returned {c : Client} (shape : c.streams.map (fun s => (s.id, s.phase)) = [(1, .done)]) :
    Distinct c.streams ∧ ∃ s ∈ c.streams, s.id = 1 ∧ s.phase = .done := by
  have ids : c.streams.map Stream.id = [1] := by simpa [Function.comp_def] using congrArg (List.map Prod.fst) shape
  refine ⟨by simp [Distinct, ids], ?_⟩
  have there : (1, .done) ∈ c.streams.map fun s => (s.id, s.phase) := by simp [shape]
  obtain ⟨s, member, same⟩ := List.mem_map.mp there
  exact ⟨s, member, Prod.mk.inj same⟩

/-- The deadline passes after `MuxConn::close` has cleared `pending_acks`. -/
theorem cleared_then_returned : ∃ c : Client, (∃ s ∈ c.streams, s.id = 1 ∧ s.phase = .done) ∧ c.pendingAcks 1 = none := by
  have executed : (((clientSystem "t" true).when retires).exec (Client.fresh "t" true)
      (asked ++ [.release, .releaseClear] ++ unanswered)).any (fun c =>
        decide (c.streams.map (fun s => (s.id, s.phase)) = [(1, .done)])) = true := by decide +kernel
  obtain ⟨c, run, view⟩ := Transition.System.reached executed rfl
  obtain ⟨distinct, s, member, id, returned⟩ := one_returned (of_decide_eq_true view)
  have gone := pending_acks_retired "t" true c run distinct s member returned
  exact ⟨c, ⟨s, member, id, returned⟩, id ▸ gone⟩

/-- The deadline passes on a connection that is up. -/
theorem deadline_leaks : ¬∀ (token : String) (resilient : Bool) (c : Client), (clientSystem token resilient).Reachable c →
    Distinct c.streams → ∀ s ∈ c.streams, s.phase = .done → c.pendingAcks s.id = none := by
  intro retired
  have executed : ((clientSystem "t" true).exec (Client.fresh "t" true) (asked ++ unanswered)).any (fun c =>
      decide (c.streams.map (fun s => (s.id, s.phase)) = [(1, .done)] ∧ c.pendingAcks 1 = some 0)) = true := by decide +kernel
  obtain ⟨c, run, view⟩ := Transition.System.reached executed rfl
  obtain ⟨shape, kept⟩ := of_decide_eq_true view
  obtain ⟨distinct, s, member, id, returned⟩ := one_returned shape
  have gone := retired "t" true c run distinct s member returned
  rw [id, kept] at gone
  cases gone

/-! ### The registry -/

/-- Every key is the id of a stream whose task has not ended. -/
def KeysLive {φ : Type} (registry : StreamRegistry) (streams : List (Stream φ)) : Prop :=
  ∀ id k, registry id = some k → ∃ s, streams[k]? = some s ∧ s.id = id ∧ s.phase ≠ .done

private theorem keysLive {φ : Type} {live : Prop} {registry : StreamRegistry} {routing : Option Nat} {streams : List (Stream φ)}
    (wired : Wired live registry routing streams) (unfinished : Enlisted Unfinished registry streams) :
    KeysLive registry streams := by
  intro id k registered
  obtain ⟨s, found, rfl⟩ := wired.registered id k registered
  exact ⟨s, found, rfl, unfinished k s found registered⟩

/-- With distinct ids, the stream whose task has ended is not registered, nor is an id
without a stream. -/
theorem KeysLive.ended {φ : Type} {registry : StreamRegistry} {streams : List (Stream φ)} (live : KeysLive registry streams)
    (distinct : Distinct streams) : (∀ s ∈ streams, s.phase = .done → registry s.id = none) ∧
      ∀ id, id ∉ streams.map Stream.id → registry id = none := by
  constructor
  · intro s member ended
    cases registered : registry s.id with
    | none => rfl
    | some k =>
      obtain ⟨t, found, own, running⟩ := live _ k registered
      obtain ⟨j, there⟩ := List.getElem?_of_mem member
      have same := distinct.same found there own
      subst same
      cases found.symm.trans there
      exact absurd ended running
  · intro id absent
    cases registered : registry id with
    | none => rfl
    | some k =>
      obtain ⟨t, found, own, -⟩ := live id k registered
      exact absurd (List.mem_map.mpr ⟨t, List.mem_of_getElem? found, own⟩) absent

/-- On both ends every key of the registry is the id of a live stream: on the client of a
handler that has not returned, on the server, unless the session future was dropped, of
one in `handle_open` or in its relay task. -/
theorem registries_live (token : String) (resilient : Bool) (c : Client) (server : Server)
    (run : (clientSystem token resilient).Reachable c) (distinct : Distinct c.streams)
    (served : serverSystem.Reachable server) (opens : (openIds server.dispatched).Nodup) (kept : server.reader ≠ .dropped) :
    (KeysLive c.registry c.streams ∧ (∀ s ∈ c.streams, s.phase = .done → c.registry s.id = none) ∧
      ∀ id, id ∉ c.streams.map Stream.id → c.registry id = none) ∧
    (KeysLive server.registry server.streams ∧ (∀ s ∈ server.streams, s.phase = .done → server.registry s.id = none) ∧
      ∀ id, id ∉ server.streams.map Stream.id → server.registry id = none) := by
  have client : KeysLive c.registry c.streams := by
    apply keysLive (ClientInvariant.client_valid run).wired
    intro k s found registered
    exact (client_unreleased run k s found registered).1
  have valid := ServerInvariant.server_valid served
  obtain ⟨done, settled⟩ := valid.opens.settled
  have session : KeysLive server.registry server.streams := keysLive valid.routes.wired (server_unfinished served kept)
  exact ⟨⟨client, client.ended distinct⟩, session, session.ended (settled.distinct opens)⟩

/-- A handler with its OPEN under way, and a session that has refused one of two OPENs. -/
theorem live_keys : ∃ (c : Client) (server : Server), c.registry 1 = some 0 ∧ server.registry 1 = some 0 ∧
    KeysLive c.registry c.streams ∧ KeysLive server.registry server.streams ∧ server.registry 2 = none := by
  have asking : ((clientSystem "t" true).exec (Client.fresh "t" true) asked).any (fun c =>
      decide (c.streams.map Stream.id = [1] ∧ c.registry 1 = some 0)) = true := by decide +kernel
  have serving : (serverSystem.exec Server.fresh [.incoming (Frame.hello "t").message, .accept,
      .incoming (Frame.openStream 1 "1.1.1.1:80").message, .connectOk, .answer,
      .incoming (Frame.openStream 2 "1.1.1.1:81").message, .connectFail, .answer]).any (fun c =>
        decide (c.streams.map Stream.id = [1] ∧ openIds c.dispatched = [1, 2] ∧ c.reader = .running ∧ c.registry 1 = some 0)) =
      true := by decide +kernel
  obtain ⟨c, run, view⟩ := Transition.System.reached asking rfl
  obtain ⟨ids, registered⟩ := of_decide_eq_true view
  obtain ⟨server, served, shape⟩ := Transition.System.reached serving rfl
  obtain ⟨held, opens, running, there⟩ := of_decide_eq_true shape
  obtain ⟨⟨client, -⟩, session, -, absent⟩ := registries_live "t" true c server run (by simp [Distinct, ids]) served
    (by simp [opens]) (by simp [running])
  exact ⟨c, server, registered, there, client, session, absent 2 (by simp [held])⟩

end EchoProxy.Proofs.Entries
