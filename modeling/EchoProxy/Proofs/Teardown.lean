import EchoProxy.Proofs.MuxInvariant

/-! The end of a connection: on the client no handler is left waiting for an
OPEN_ACK, on the server no stream is left registered. Both clear a map once, and
both miss what does not pass through that code. -/

namespace EchoProxy.Proofs.Teardown
open EchoProxy StreamFlow HandlerFlow EndpointSteps EndpointAccounts ClientSteps ServerSteps Places

/-! ### The client -/

/-- `run_client_reader` has finished, or `MuxConn::close` has run. -/
def Dead (c : Client) : Prop := c.reader = .ended ∨ c.resilient = true ∧ c.link = .released

/-- Handler `k` waits for an OPEN_ACK whose sender is in `pending_acks`. -/
def Waits (c : Client) (k : Nat) : Prop :=
  ∃ s, c.streams[k]? = some s ∧ s.phase = .front ∧ s.front.stage = .awaiting ∧ c.pendingAcks s.id = some k

/-- `pending_acks` was cleared by the reader or by `MuxConn::close`. -/
def isCleared (c : Client) : Bool := c.reader = .ended ∨ c.resilient ∧ (c.link = .closing ∨ c.link = .released)

/-- A handler stores its sender before `pending_acks` is cleared. -/
def timely (c : Client) : ClientAction → Bool
  | .handler _ .insertAck => !isCleared c
  | _ => true

/-- `connecting` is before the connection has any handler. -/
structure Emptied (c : Client) : Prop where
  connecting : (∃ token, c.link = .connecting token) → c.streams = [] ∧ c.pendingAcks = fun _ => none
  cleared : isCleared c = true → c.pendingAcks = fun _ => none

private theorem Emptied.quiet {c c' : Client} (valid : Emptied c) (link : c'.link = c.link) (reader : c'.reader = c.reader)
    (resilient : c'.resilient = c.resilient) (pending : c'.pendingAcks = c.pendingAcks)
    (streams : c.streams = [] → c'.streams = []) : Emptied c' := by
  refine ⟨fun early => ?_, fun now => ?_⟩
  · rw [link] at early
    obtain ⟨none, empty⟩ := valid.connecting early
    exact ⟨streams none, pending.trans empty⟩
  · apply pending.trans
    apply valid.cleared
    simpa [isCleared, link, reader, resilient] using now

private theorem Emptied.step {c c' : Client} {action : ClientAction} (valid : Emptied c) (early : timely c action = true)
    (effect : ClientEffect c action c') : Emptied c' := by
  cases effect with
  | connect connecting =>
    have empty := (valid.connecting ⟨_, connecting⟩).2
    exact ⟨by simp, fun _ => empty⟩
  | connectFail connecting =>
    have empty := (valid.connecting ⟨_, connecting⟩).2
    exact ⟨by simp, fun _ => empty⟩
  | accept attached => exact ⟨by simp [attached], valid.cleared⟩
  | insertAck found =>
    refine ⟨fun connecting => ?_, fun now => ?_⟩
    · simp [(valid.connecting connecting).1] at found
    · have before : isCleared c = false := by simpa [timely] using early
      have after : isCleared c = true := now
      simp [before] at after
  | acked running idle decoded pending found stepped =>
    refine ⟨fun connecting => ?_, fun now => ?_⟩
    · simp [(valid.connecting connecting).1] at found
    · simp [valid.cleared now] at pending
  | readerClear => exact ⟨fun connecting => ⟨(valid.connecting connecting).1, rfl⟩, fun _ => rfl⟩
  | releaseClear => exact ⟨by simp, fun _ => rfl⟩
  | broken running | readerCloseAll running =>
    refine ⟨valid.connecting, fun now => valid.cleared ?_⟩
    simp only [isCleared, decide_eq_true_eq, reduceCtorEq, false_or] at now ⊢
    exact .inr now
  | release attached =>
    refine ⟨by simp only; split <;> simp, fun now => valid.cleared ?_⟩
    simp only [isCleared, decide_eq_true_eq] at now ⊢
    rcases now with ended | ⟨resilient, link⟩
    · exact .inl ended
    · simp [resilient] at link
  | releaseCloseAll closing =>
    refine ⟨by simp, fun now => valid.cleared ?_⟩
    simp only [isCleared, decide_eq_true_eq] at now ⊢
    rcases now with ended | ⟨resilient, -⟩
    · exact .inl ended
    · exact .inr ⟨resilient, .inl closing⟩
  | endpoint effect =>
    refine valid.quiet rfl rfl rfl rfl fun none => ?_
    have ids := (endpoint_ids effect).1
    rw [none] at ids
    simpa using ids
  | register | sent | unsent | ackLost | leave | handler | routing => exact valid.quiet rfl rfl rfl rfl (by simp_all)
  | ignored | closed | skipped | writerExit | writerStop => exact valid.quiet rfl rfl rfl rfl id

theorem timely_emptied {token : String} {resilient : Bool} {c : Client}
    (run : ((clientSystem token resilient).when timely).Reachable c) : Emptied c := by
  refine run.invariant (p := Emptied) ?_ ?_
  · rintro c rfl
    exact ⟨fun _ => ⟨rfl, rfl⟩, fun _ => rfl⟩
  · intro before action after _ valid _ taken
    obtain ⟨early, taken⟩ := Transition.System.when_step.mp taken
    exact valid.step early (client_effect taken)

theorem dead_cleared {token : String} {resilient : Bool} {c : Client}
    (run : ((clientSystem token resilient).when timely).Reachable c) (dead : Dead c) : c.pendingAcks = fun _ => none := by
  apply (timely_emptied run).cleared
  simp only [isCleared, decide_eq_true_eq]
  exact dead.imp_right fun now => ⟨now.1, .inr now.2⟩

/-- As long as every handler stores its sender before the map is cleared, no
handler of a dead connection waits for one. -/
theorem dead_unblocks (token : String) (resilient : Bool) (c : Client)
    (run : ((clientSystem token resilient).when timely).Reachable c) (dead : Dead c) (k : Nat) : ¬ Waits c k := by
  rintro ⟨s, -, -, -, pending⟩
  simp [dead_cleared run dead] at pending

/-- A connection breaks while a handler waits. -/
theorem broken_unblocks : ∃ c, c.reader = .ended ∧ c.streams.map (·.front.stage) = [.awaiting] ∧ ¬ Waits c 0 := by
  have executed : (((clientSystem "t" false).when timely).exec (Client.fresh "t" false) [.connect,
      .accept 1 (.viaMux ⟨"1.1.1.1:80", true, "", []⟩), .handler 0 .register, .handler 0 .insertAck, .handler 0 .send,
      .incoming .other, .readerCloseAll, .readerClear]).any
      (fun c => decide (c.reader = .ended ∧ c.streams.map (·.front.stage) = [.awaiting])) = true := by decide +kernel
  obtain ⟨c, run, view⟩ := Transition.System.reached executed rfl
  obtain ⟨ended, awaiting⟩ := of_decide_eq_true view
  exact ⟨c, ended, awaiting, dead_unblocks "t" false c run (.inl ended) 0⟩

private def late (teardown : List ClientAction) : List ClientAction :=
  [.connect, .accept 1 (.viaMux ⟨"1.1.1.1:80", true, "", []⟩), .handler 0 .register] ++ teardown ++
    [.handler 0 .insertAck, .handler 0 .send]

private theorem late_waits (teardown : List ClientAction) {resilient : Bool}
    (executed : ((clientSystem "t" resilient).exec (Client.fresh "t" resilient) (late teardown)).any (fun c =>
      decide ((c.reader = .ended ∨ c.resilient = true ∧ c.link = .released) ∧
        c.streams.map (fun s => (s.id, s.phase, s.front.stage)) = [(1, .front, .awaiting)] ∧ c.pendingAcks 1 = some 0)) = true) :
    ∃ c, (clientSystem "t" resilient).Reachable c ∧ Dead c ∧ Waits c 0 := by
  obtain ⟨c, run, view⟩ := Transition.System.reached executed rfl
  obtain ⟨dead, shape, pending⟩ := of_decide_eq_true view
  refine ⟨c, run, dead, ?_⟩
  cases streams : c.streams with
  | nil => simp [streams] at shape
  | cons s rest =>
    simp only [streams, List.map_cons, List.cons.injEq, Prod.mk.injEq] at shape
    exact ⟨s, by simp [streams], shape.1.2.1, shape.1.2.2, by rw [shape.1.1]; exact pending⟩

/-- A handler that stores its sender after the teardown waits, on the plain client
after `run_client_reader` and on the resilient one after `MuxConn::close`. -/
theorem late_handler_waits : (∃ c, (clientSystem "t" false).Reachable c ∧ Dead c ∧ Waits c 0) ∧
    ∃ c, (clientSystem "t" true).Reachable c ∧ Dead c ∧ Waits c 0 :=
  ⟨late_waits [.incoming .other, .readerCloseAll, .readerClear] (by decide +kernel),
    late_waits [.release, .releaseClear, .releaseCloseAll] (by decide +kernel)⟩

/-! ### The server -/

/-- Streams stay, with the payloads that were routed to them. -/
private def Keeps (before after : List (Stream Opened)) : Prop :=
  ∀ (k : Nat) (s : Stream Opened), before[k]? = some s → ∃ s', after[k]? = some s' ∧ s'.inflow = s.inflow

private theorem Keeps.set {before after : List (Stream Opened)} {k : Nat} {s s' : Stream Opened} (keeps : Keeps before after)
    (found : after[k]? = some s) (inflow : s'.inflow = s.inflow) : Keeps before (after.set k s') := by
  intro j t there
  exact exists_set found (fun same => inflow.trans same) (keeps j t there)

private theorem endpoint_keeps {e e' : Endpoint Opened} {action} (effect : EndpointEffect e action e')
    {before : List (Stream Opened)} (keeps : Keeps before e.streams) : Keeps before e'.streams := by
  cases effect with
  | pop | put | putFail => exact keeps
  | stream found isLocal stepped =>
    exact keeps.set found (Effect.inflow stepped (fun _ => isLocal_ne isLocal rfl))
  | sent found _ _ stepped | unsent found _ _ stepped | finish found _ stepped | route _ found stepped
  | unregister found stepped => exact keeps.set found (Effect.inflow stepped (by simp))

private def oneStream : List ServerAction := [.incoming (Frame.hello "t").message, .accept,
  .incoming (Frame.openStream 1 "1.1.1.1:80").message, .connectOk, .answer]

end EchoProxy.Proofs.Teardown
