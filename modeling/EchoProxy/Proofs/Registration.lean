import EchoProxy.Proofs.Release
import EchoProxy.Proofs.Teardown

/-! Which streams the registry still holds: none that has left its relay, none whose
CLOSE was dispatched, and on a connection that was torn down none that an OPEN_ACK
can still reach. -/

namespace EchoProxy.Proofs.Registration
open EchoProxy StreamFlow HandlerFlow EndpointSteps EndpointAccounts ClientSteps ServerSteps FrameSequences Places MuxInvariant Integrity
  Release Teardown

/-- Every registered stream is of one kind. -/
def Enlisted {φ : Type} (kind : Stream φ → Prop) (registry : StreamRegistry) (streams : List (Stream φ)) : Prop :=
  ∀ (k : Nat) (s : Stream φ), streams[k]? = some s → registry s.id = some k → kind s

namespace Enlisted
variable {φ : Type} {kind : Stream φ → Prop} {registry : StreamRegistry} {streams : List (Stream φ)}

theorem set {k : Nat} {s s' : Stream φ} (valid : Enlisted kind registry streams) (found : streams[k]? = some s)
    (id : s'.id = s.id) (kept : kind s → kind s') : Enlisted kind registry (streams.set k s') := by
  intro j t there registered
  rcases set_cases there with ⟨rfl, rfl⟩ | ⟨-, there⟩
  · exact kept (valid _ s found (id ▸ registered))
  · exact valid j t there registered

theorem close (valid : Enlisted kind registry streams) (id : StreamId) : Enlisted kind (registry.close id) streams :=
  fun j t there registered => valid j t there (close_some.mp registered).2

theorem closeAll : Enlisted kind .new streams := fun _ _ _ registered => by simp [StreamRegistry.new] at registered

/-- The stream that changes gives up its sender. -/
theorem retire {k : Nat} {s s' : Stream φ} (valid : Enlisted kind registry streams) (id : s'.id = s.id) :
    Enlisted kind (registry.close s.id) (streams.set k s') := by
  intro j t there registered
  obtain ⟨other, registered⟩ := close_some.mp registered
  rcases set_cases there with ⟨-, rfl⟩ | ⟨-, there⟩
  · exact absurd id other
  · exact valid j t there registered

theorem register {k : Nat} {s s' : Stream φ} (valid : Enlisted kind registry streams) (new : kind s') :
    Enlisted kind (registry.register s.id k) (streams.set k s') := by
  intro j t there registered
  rcases set_cases there with ⟨-, rfl⟩ | ⟨different, there⟩
  · exact new
  · rcases register_some.mp registered with ⟨-, same⟩ | ⟨-, registered⟩
    · exact absurd same different
    · exact valid j t there registered

/-- The stream that changes has no sender there. -/
theorem unlisted {k : Nat} {s s' : Stream φ} (valid : Enlisted kind registry streams) (other : registry s.id ≠ some k)
    (id : s'.id = s.id) : Enlisted kind registry (streams.set k s') := by
  intro j t there registered
  rcases set_cases there with ⟨rfl, rfl⟩ | ⟨-, there⟩
  · exact absurd (id ▸ registered) other
  · exact valid j t there registered

theorem append {new : Stream φ} (valid : Enlisted kind registry streams) (fresh : kind new) :
    Enlisted kind registry (streams ++ [new]) := by
  intro j t there registered
  rcases append_cases there with ⟨-, rfl⟩ | there
  · exact fresh
  · exact valid j t there registered

theorem connect {new : Stream φ} {id : StreamId} (valid : Enlisted kind registry streams) (fresh : kind new) :
    Enlisted kind (registry.register id streams.length) (streams ++ [new]) := by
  intro j t there registered
  rcases append_cases there with ⟨-, rfl⟩ | there
  · exact fresh
  · rcases register_some.mp registered with ⟨-, rfl⟩ | ⟨-, registered⟩
    · simp at there
    · exact valid j t there registered

end Enlisted

/-- A step of one stream keeps its kind, unless the stream unregisters. -/
theorem endpoint_enlisted {φ : Type} {kind : Stream φ → Prop} {e e' : Endpoint φ} {action} (effect : EndpointEffect e action e')
    (kept : ∀ {s s' : Stream φ} {move}, Effect s move s' → move ≠ .unregister → kind s → kind s')
    (valid : Enlisted kind e.registry e.streams) : Enlisted kind e'.registry e'.streams := by
  cases effect with
  | pop | put | putFail => exact valid
  | stream found isLocal stepped => exact valid.set found stepped.same.1 (kept stepped (isLocal_ne isLocal rfl))
  | sent found _ _ stepped | unsent found _ _ stepped | finish found _ stepped | route _ found stepped =>
    exact valid.set found stepped.same.1 (kept stepped (by simp))
  | unregister found stepped => exact valid.retire stepped.same.1

/-! ### Streams that have left -/

/-- The relay loop has not unregistered the stream. -/
def Unfinished {φ : Type} (s : Stream φ) : Prop := s.phase ≠ .done

private theorem Unfinished.step {φ : Type} {s s' : Stream φ} {move} (effect : Effect s move s') (other : move ≠ .unregister)
    (live : Unfinished s) : Unfinished s' := by
  cases effect with
  | unregister => exact absurd rfl other
  | read | readEnd | readError | sentData | sentClose | unsentData | unsentClose => simp [Unfinished]
  | _ => exact live

/-- The handler has not given up its sender either. -/
def Unreleased (s : Stream Handler) : Prop := Unfinished s ∧ (s.phase = .front → ∀ rest, s.front.stage ≠ .replying rest)

private theorem Unreleased.step {s s' : Stream Handler} {move} (effect : Effect s move s') (other : move ≠ .unregister)
    (live : Unreleased s) : Unreleased s' := by
  refine ⟨live.1.step effect other, fun front => ?_⟩
  rw [effect.same.2]
  exact live.2 (effect.stays.mp front)

private theorem Unreleased.handlerStep {s s' : Stream Handler} {move} (effect : HandlerEffect s move s') (other : move ≠ .left)
    (live : Unreleased s) : Unreleased s' := by
  cases effect with
  | ack => exact live
  | left | leftSilently => exact absurd rfl other
  | reply front stage | replied front stage | replyError front stage => exact absurd stage (live.2 front _)
  | granted front _ _ next =>
    rcases next with ⟨-, rfl⟩ | ⟨-, rfl⟩ <;> simp [Unreleased, Unfinished, Stream.setStage, front]
  | greeted | forwarded => simp [Unreleased, Unfinished, Stream.relay]
  | registered front | inserted front | opened front | unopened front | refused front | greet front | greetError front
  | unforwarded front => simp [Unreleased, Unfinished, Stream.setStage, front]

theorem client_enlisted {c c' : Client} {action} (effect : ClientEffect c action c')
    (valid : Enlisted Unreleased c.registry c.streams) : Enlisted Unreleased c'.registry c'.streams := by
  cases effect with
  | endpoint effect => exact endpoint_enlisted effect Unreleased.step valid
  | accept => exact valid.append (by simp [Unreleased, Unfinished, Stream.fresh])
  | register found stepped =>
    refine valid.register ?_
    cases stepped with
    | registered front => simp [Unreleased, Unfinished, Stream.setStage, front]
    | refused _ _ _ which => simp at which
  | leave found stepped => exact valid.retire stepped.same.1
  | insertAck found stepped | acked _ _ _ _ found stepped | ackLost found _ stepped =>
    exact valid.set found stepped.same.1 (Unreleased.handlerStep stepped (by simp))
  | sent found _ _ which stepped | unsent found _ _ which stepped =>
    exact valid.set found stepped.same.1 (Unreleased.handlerStep stepped (by rcases which with rfl | rfl <;> simp))
  | handler found isLocal stepped =>
    exact valid.set found stepped.same.1 (Unreleased.handlerStep stepped (handlerLocal_ne isLocal rfl))
  | routing _ _ _ _ found stepped => exact valid.set found stepped.same.1 (Unreleased.step stepped (by simp))
  | closed => exact valid.close _
  | readerCloseAll | releaseCloseAll => exact .closeAll
  | writerStop =>
    simp only
    split
    · exact .closeAll
    · exact valid
  | _ => exact valid

theorem server_enlisted {c c' : Server} {action} (effect : ServerEffect c action c') (alive : c'.reader ≠ .dropped)
    (valid : Enlisted Unfinished c.registry c.streams) : Enlisted Unfinished c'.registry c'.streams := by
  cases effect with
  | endpoint effect => exact endpoint_enlisted effect Unfinished.step valid
  | connectOk => exact valid.connect (by simp [Unfinished, Stream.fresh])
  | routing _ _ _ _ found stepped => exact valid.set found stepped.same.1 (Unfinished.step stepped (by simp))
  | acked _ found | unacked _ found => exact valid.set found rfl fun _ => by simp [Unfinished, ServerSteps.acked, Stream.relay]
  | closed | connectFail => exact valid.close _
  | readerCloseAll | writerStop => exact .closeAll
  | dropped | droppedAcking => exact absurd rfl alive
  | _ => exact valid

theorem client_unreleased {token : String} {resilient : Bool} {allowed} {c : Client}
    (run : (clientSystem token resilient).Reach allowed c) : Enlisted Unreleased c.registry c.streams := by
  refine run.invariant (p := fun c => Enlisted Unreleased c.registry c.streams) ?_ ?_
  · rintro c rfl
    exact .closeAll
  · intro before action after _ valid _ taken
    exact client_enlisted (client_effect taken) valid

theorem server_unfinished {allowed} {c : Server} (run : serverSystem.Reach allowed c) (alive : c.reader ≠ .dropped) :
    Enlisted Unfinished c.registry c.streams := by
  refine run.invariant (p := fun c => c.reader ≠ .dropped → Enlisted Unfinished c.registry c.streams) ?_ ?_ alive
  · rintro c rfl -
    exact .closeAll
  · intro before action after _ valid _ taken alive
    have effect := server_effect taken
    exact server_enlisted effect alive (valid (undropped effect alive))

/-! ### Streams whose CLOSE was dispatched -/

/-- `fresh`: nothing has come in for a stream that has sent nothing. -/
theorem client_unclosed {token : String} {c c' : Client} {action} (client : ClientInvariant.Valid token c)
    (effect : ClientEffect c action c') (fresh : ∀ s ∈ c.streams, s.emitted = [] → .close s.id ∉ c.dispatched)
    (valid : Unclosed c.registry c.dispatched) : Unclosed c'.registry c'.dispatched := by
  cases effect with
  | endpoint effect =>
    rw [(endpoint_ids effect).2]
    cases effect with
    | unregister => exact valid.close _
    | _ => exact valid
  | register found stepped =>
    have member := List.mem_of_getElem? found
    refine valid.register (fresh _ member ?_)
    cases stepped with
    | registered front start =>
      have stage := ((client.streams.handled _ member).front front).1
      rw [start] at stage
      exact stage.1
    | refused _ _ _ which => simp at which
  | leave => exact valid.close _
  | closed => exact valid.closed _
  | acked | routing => exact valid.skip (by simp)
  | skipped _ _ _ unknown =>
    refine valid.skip ?_
    rcases unknown with ⟨other, ok, rfl, -⟩ | ⟨other, bytes, rfl, -⟩ | ⟨text, rfl⟩ | ⟨other, dest, rfl⟩ <;> simp
  | readerCloseAll | releaseCloseAll => exact .closeAll
  | writerStop =>
    simp only
    split
    · exact .closeAll
    · exact valid
  | _ => exact valid

theorem unclosed_client {capacity : Nat} {token : String} {resilient : Bool} {allowed : MuxAction → Prop} {m : Mux}
    (run : (muxSystem capacity token resilient).Reach allowed m) (distinct : Distinct m.client.streams) :
    Unclosed m.client.registry m.client.dispatched := by
  refine run.invariant (p := fun m => Distinct m.client.streams → Unclosed m.client.registry m.client.dispatched) ?_ ?_ distinct
  · rintro m rfl -
    exact .closeAll
  · intro before action after prior valid _ taken distinct
    cases mux_effect taken with
    | server => exact valid distinct
    | client stepped =>
      have client := ClientInvariant.client_valid (client_reach prior)
      have effect := client_effect stepped
      have earlier := ClientInvariant.Distinct.before effect distinct
      refine client_unclosed client effect (fun s member silent closed => ?_) (valid earlier)
      obtain ⟨k, found⟩ := List.getElem?_of_mem member
      have nothing := unopened_silent prior ((client.sources.attributed earlier k s found).trans silent)
      have inside : .close s.id ∈ ofId s.id before.client.dispatched := List.mem_filter.mpr ⟨closed, by simp [streamId]⟩
      simp [nothing] at inside

/-! ### A connection torn down -/

/-- The handler has not stored its OPEN_ACK sender. -/
def Early (s : Stream Handler) : Prop := s.phase = .front ∧ (s.front.stage = .start ∨ s.front.stage = .registered)

private theorem HandlerEffect.early {s s' : Stream Handler} {move} (effect : HandlerEffect s move s') (early : Early s') :
    Early s := by
  cases effect with
  | ack => exact early
  | registered front start => exact ⟨front, .inl start⟩
  | granted _ _ _ next => rcases next with ⟨-, rfl⟩ | ⟨-, rfl⟩ <;> simp [Early, Stream.setStage] at early
  | greeted | forwarded => simp [Early, Stream.relay] at early
  | leftSilently | replied | replyError => simp [Early, Stream.abandon] at early
  | _ => simp [Early, Stream.setStage] at early

/-- A handler that has not stored its OPEN_ACK sender has no answer. -/
def Unasked (c : Client) : Prop :=
  ∀ (k : Nat) (s : Stream Handler), c.streams[k]? = some s → Early s → s.front.ack = none ∧ c.pendingAcks s.id ≠ some k

private theorem Unasked.set {c c' : Client} {k : Nat} {s s' : Stream Handler} (valid : Unasked c) (found : c.streams[k]? = some s)
    (id : s'.id = s.id) (early : Early s' → Early s) (ack : s'.front.ack = s.front.ack)
    (streams : c'.streams = c.streams.set k s') (pending : c'.pendingAcks = c.pendingAcks) : Unasked c' := by
  intro j t there waits
  rw [pending]
  rw [streams] at there
  rcases set_cases there with ⟨rfl, rfl⟩ | ⟨-, there⟩
  · rw [ack, id]
    exact valid _ s found (early waits)
  · exact valid j t there waits

private theorem Unasked.shared {c c' : Client} {k : Nat} {s s' : Stream Handler} {move} (valid : Unasked c)
    (found : c.streams[k]? = some s) (stepped : Effect s move s') (streams : c'.streams = c.streams.set k s')
    (pending : c'.pendingAcks = c.pendingAcks) : Unasked c' := by
  refine valid.set found stepped.same.1 ?_ (by rw [stepped.same.2]) streams pending
  rw [Early, Early, stepped.stays, stepped.same.2]
  exact id

private theorem Unasked.handler {c c' : Client} {k : Nat} {s s' : Stream Handler} {move} (valid : Unasked c)
    (found : c.streams[k]? = some s) (stepped : HandlerEffect s move s') (other : ∀ ok, move ≠ .ack ok)
    (streams : c'.streams = c.streams.set k s') (pending : c'.pendingAcks = c.pendingAcks) : Unasked c' :=
  valid.set found stepped.same.1 (HandlerEffect.early stepped) (stepped.slot other) streams pending

private theorem unasked_step {token : String} {c c' : Client} {action} (client : ClientInvariant.Valid token c)
    (effect : ClientEffect c action c') (valid : Unasked c) : Unasked c' := by
  cases effect with
  | endpoint effect =>
    cases effect with
    | pop | put | putFail => exact valid
    | stream found _ stepped | sent found _ _ stepped | unsent found _ _ stepped | finish found _ stepped
    | route _ found stepped | unregister found stepped => exact valid.shared found stepped rfl rfl
  | routing _ _ _ _ found stepped => exact valid.shared found stepped rfl rfl
  | accept =>
    intro j t there early
    rcases append_cases there with ⟨rfl, rfl⟩ | there
    · refine ⟨rfl, fun pending => ?_⟩
      obtain ⟨_, there, -⟩ := client.acks.pending _ _ pending
      simp at there
    · exact valid j t there early
  | register found stepped | leave found stepped | ackLost found _ stepped =>
    exact valid.handler found stepped (by simp) rfl rfl
  | sent found _ _ which stepped | unsent found _ _ which stepped =>
    exact valid.handler found stepped (by rcases which with rfl | rfl <;> simp) rfl rfl
  | handler found isLocal stepped => exact valid.handler found stepped (fun ok => handlerLocal_ne isLocal rfl) rfl rfl
  | @insertAck k s s' found stepped =>
    intro j t there early
    rcases set_cases there with ⟨rfl, rfl⟩ | ⟨different, there⟩
    · cases stepped with
      | inserted => simp [Early, Stream.setStage] at early
      | refused _ _ _ which => simp at which
    · obtain ⟨ack, pending⟩ := valid j t there early
      refine ⟨ack, ?_⟩
      change Function.update c.pendingAcks s.id (some k) t.id ≠ some j
      rw [Function.update_apply]
      split
      · simpa using fun same => different same.symm
      · exact pending
  | @acked id ok k s s' _ _ _ _ pending found stepped =>
    intro j t there early
    rcases set_cases there with ⟨rfl, rfl⟩ | ⟨-, there⟩
    · obtain ⟨_, there, own⟩ := client.acks.pending _ _ pending
      cases found.symm.trans there
      exact absurd (own ▸ pending) (valid _ s found (HandlerEffect.early stepped early)).2
    · obtain ⟨ack, pending⟩ := valid j t there early
      refine ⟨ack, ?_⟩
      change Function.update c.pendingAcks id none t.id ≠ some j
      rw [Function.update_apply]
      split
      · simp
      · exact pending
  | readerClear | releaseClear => exact fun j t there early => ⟨(valid j t there early).1, by simp⟩
  | _ => exact valid

/-- The registry was cleared, by the reader or by `MuxConn::close`. -/
def Disconnected (c : Client) : Prop :=
  (c.reader = .clearing ∨ c.reader = .ended) ∨ c.resilient = true ∧ c.link = .released

private theorem late_step {c c' : Client} {action} (effect : ClientEffect c action c') (unasked : Unasked c) (emptied : Emptied c)
    (valid : Disconnected c → Enlisted (fun s => s.front.ack = none) c.registry c.streams) (gone : Disconnected c') :
    Enlisted (fun s => s.front.ack = none) c'.registry c'.streams := by
  cases effect with
  | endpoint effect =>
    exact endpoint_enlisted effect (fun stepped _ none => by rwa [stepped.same.2]) (valid gone)
  | routing _ _ _ _ found stepped => exact (valid gone).set found stepped.same.1 fun none => by rwa [stepped.same.2]
  | accept => exact (valid gone).append rfl
  | register found stepped =>
    refine (valid gone).register ?_
    cases stepped with
    | registered front start => exact (unasked _ _ found ⟨front, .inl start⟩).1
    | refused _ _ _ which => simp at which
  | leave found stepped => exact (valid gone).retire stepped.same.1
  | insertAck found stepped | ackLost found _ stepped =>
    exact (valid gone).set found stepped.same.1 fun none => by rwa [stepped.slot (by simp)]
  | sent found _ _ which stepped | unsent found _ _ which stepped =>
    exact (valid gone).set found stepped.same.1 fun none => by rwa [stepped.slot (by rcases which with rfl | rfl <;> simp)]
  | handler found isLocal stepped =>
    exact (valid gone).set found stepped.same.1 fun none => by rwa [stepped.slot fun _ => handlerLocal_ne isLocal rfl]
  | acked running _ _ pending =>
    rcases gone with (clearing | ended) | ⟨resilient, released⟩
    · simp [ClientSteps.received, running] at clearing
    · simp [ClientSteps.received, running] at ended
    · have cleared : isCleared c = true := by
        simp only [isCleared, decide_eq_true_eq]
        exact .inr ⟨resilient, .inr released⟩
      simp [emptied.cleared cleared] at pending
  | closed => exact (valid gone).close _
  | readerCloseAll | releaseCloseAll => exact .closeAll
  | readerClear clearing => exact valid (.inl (.inl clearing))
  | writerStop =>
    simp only
    split
    · exact .closeAll
    · exact valid gone
  | connect connecting | connectFail connecting =>
    intro k s found
    simp [(emptied.connecting ⟨_, connecting⟩).1] at found
  | broken => exact valid (.inr (by simpa [Disconnected] using gone))
  | release => exact valid (by simp_all [Disconnected])
  | releaseClear => exact valid (.inl (by simpa [Disconnected] using gone))
  | _ => exact valid gone

theorem client_unasked {token : String} {resilient : Bool} {allowed} {c : Client}
    (run : (clientSystem token resilient).Reach allowed c) : Unasked c := by
  refine run.invariant (p := Unasked) ?_ ?_
  · rintro c rfl k s found
    simp [Client.fresh, Endpoint.fresh] at found
  · intro before action after prior valid _ taken
    exact unasked_step (ClientInvariant.client_valid prior) (client_effect taken) valid

/-- As long as every handler stores its sender before `pending_acks` is cleared, a
stream registered on a connection that was torn down has no answer. -/
theorem torn_unanswered {token : String} {resilient : Bool} {c : Client}
    (run : ((clientSystem token resilient).when timely).Reachable c) (gone : Disconnected c) :
    Enlisted (fun s => s.front.ack = none) c.registry c.streams := by
  refine run.invariant (p := fun c => Disconnected c → Enlisted (fun s => s.front.ack = none) c.registry c.streams) ?_ ?_ gone
  · rintro c rfl -
    exact .closeAll
  · intro before action after prior valid _ taken gone
    exact late_step (client_effect (Transition.System.when_step.mp taken).2) (client_unasked prior.unguarded)
      (timely_emptied prior) valid gone

end EchoProxy.Proofs.Registration
