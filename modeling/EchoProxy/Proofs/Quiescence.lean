import EchoProxy.Proofs.Progress

/-! Whether a state is at rest can be decided: it is enough to try finitely many
steps, since a read or a write of any length is enabled only with one of a single
byte, and the reader takes nothing but the first message on the wire. -/

namespace EchoProxy.Proofs.Quiescence
open EchoProxy Progress

variable {φ : Type}

def streamTrials (k : Nat) : List EndpointAction :=
  [.send k, .unregister k, .finish k, .stream k .recv, .stream k (.write 1), .stream k (.read 1), .stream k .readEnd]

def endpointTrials (e : Endpoint φ) : List EndpointAction :=
  [.pop, .put, .route] ++ (List.range e.streams.length).flatMap streamTrials

def handlerTrials : List HandlerAction :=
  [.register, .insertAck, .send, .ackLost, .leave, .stream .acked, .stream (.greet 1), .stream (.reply 1)]

def clientTrials (m : Mux) : List ClientAction :=
  [.readerCloseAll, .readerClear, .writerExit, .writerStop, .releaseClear, .releaseCloseAll] ++
    m.download.head?.toList.map .incoming ++ (endpointTrials m.client.toEndpoint).map .endpoint ++
    (List.range m.client.streams.length).flatMap fun k => handlerTrials.map (.handler k)

def serverTrials (m : Mux) : List ServerAction :=
  [.accept, .reject, .answer, .readerCloseAll, .writerExit, .writerStop] ++ m.upload.head?.toList.map .incoming ++
    (endpointTrials m.server.toEndpoint).map .endpoint

def trials (m : Mux) : List MuxAction := (clientTrials m).map .client ++ (serverTrials m).map .server

/-! ### One endpoint -/

private theorem modify_absent {e : Endpoint φ} {k : Nat} (absent : e.streams.length ≤ k) (change : Stream φ → Option (Stream φ)) :
    e.modify k change = none := by
  simp [Endpoint.modify, List.getElem?_eq_none absent]

private theorem modify_covers {e : Endpoint φ} {k : Nat} {change trial : Stream φ → Option (Stream φ)}
    (disabled : e.modify k trial = none) (covers : ∀ s, trial s = none → change s = none) : e.modify k change = none := by
  simp only [Endpoint.modify, Option.bind_eq_none_iff, Option.map_eq_none_iff] at disabled ⊢
  exact fun s found => covers s (disabled s found)

private theorem write_covers (s : Stream φ) {count : Nat} (disabled : s.step (.write 1) = none) : s.step (.write count) = none := by
  cases task : s.task with
  | writing rest =>
    simp only [Stream.step, task, ite_eq_right_iff, reduceCtorEq, imp_false, not_and] at disabled ⊢
    intro writable some bounded
    exact disabled writable (by omega) (by omega)
  | _ => simp [Stream.step, task]

private theorem read_covers (s : Stream φ) {count : Nat} (disabled : s.step (.read 1) = none) : s.step (.read count) = none := by
  have one : 1 ≤ bufferSize := by decide
  simp only [Stream.step] at disabled ⊢
  by_cases guard : s.phase = .reading ∧ 0 < count ∧ count ≤ bufferSize ∧ count ≤ s.socket.incoming.length
  · rw [if_pos ⟨guard.1, Nat.one_pos, one, guard.2.1.trans_le guard.2.2.2⟩] at disabled
    cases disabled
  · rw [if_neg guard]

private theorem stream_trial {e : Endpoint φ} {k : Nat} (inside : k < e.streams.length) {trial : EndpointAction}
    (member : trial ∈ streamTrials k) : trial ∈ endpointTrials e := by
  refine List.mem_append_right _ (List.mem_flatMap.mpr ⟨k, ?_, member⟩)
  exact List.mem_range.mpr inside

/-- Every internal step of an endpoint is covered by a trial. -/
theorem endpoint_covers (e : Endpoint φ) {action : EndpointAction} (kind : action.isInternal = true) (other : action ≠ .put)
    (disabled : ∀ trial ∈ endpointTrials e, trial ≠ .put → e.step trial = none) : e.step action = none := by
  cases action with
  | pop | route => exact disabled _ (by simp [endpointTrials]) other
  | put => exact absurd rfl other
  | putFail => cases kind
  | send k | unregister k | finish k =>
    by_cases inside : k < e.streams.length
    · exact disabled _ (stream_trial inside (by simp [streamTrials])) other
    · simp [Endpoint.step, List.getElem?_eq_none (Nat.le_of_not_lt inside)]
  | stream k move =>
    by_cases inside : k < e.streams.length
    · have trial (move : Stream.Move) (member : .stream k move ∈ streamTrials k) : e.step (.stream k move) = none :=
        disabled _ (stream_trial inside member) (by simp)
      cases move with
      | recv => exact trial .recv (by simp [streamTrials])
      | readEnd => exact trial .readEnd (by simp [streamTrials])
      | read count => exact modify_covers (trial (.read 1) (by simp [streamTrials])) fun s => read_covers s
      | write count => exact modify_covers (trial (.write 1) (by simp [streamTrials])) fun s => write_covers s
      | _ => cases kind
    · simp [Endpoint.step, modify_absent (Nat.le_of_not_lt inside)]

/-! ### The pair -/

section Pair
variable {capacity : Nat} {m : Mux}

private theorem client_disabled (action : ClientAction) (consumes : action.consumes = []) (emits : m.client.emits action = []) :
    m.step capacity (.client action) = none ↔ m.client.step action = none := by
  simp [Mux.step, consumes, emits, Mux.deliver, Mux.transmit]

private theorem server_disabled (action : ServerAction) (consumes : action.consumes = []) (emits : m.server.emits action = []) :
    m.step capacity (.server action) = none ↔ m.server.step action = none := by
  simp [Mux.step, consumes, emits, Mux.deliver, Mux.transmit]

private theorem deliver_head {message : Message} {wire after : List Message}
    (delivered : Mux.deliver [message] wire = some after) : wire.head? = some message := by
  cases wire with
  | nil => cases delivered
  | cons head rest =>
    simp only [Mux.deliver] at delivered
    split at delivered
    · next same => simp [same]
    · cases delivered

private theorem writeReply_covers {s : Stream Handler} {rest : Bytes} {count : Nat} {next next' : Stream Handler → Stream Handler}
    (disabled : s.writeReply rest 1 next = none) : s.writeReply rest count next' = none := by
  unfold Stream.writeReply at disabled ⊢
  split
  · next guard =>
    rw [if_pos ⟨guard.1, by omega, by omega⟩] at disabled
    cases disabled
  · rfl

private theorem reply_covers (s : Stream Handler) {count : Nat} :
    (s.handlerStep (.greet 1) = none → s.handlerStep (.greet count) = none) ∧
      (s.handlerStep (.reply 1) = none → s.handlerStep (.reply count) = none) := by
  cases phase : s.phase with
  | front =>
    cases stage : s.front.stage with
    | greeting rest =>
      refine ⟨fun disabled => ?_, fun _ => by simp only [Stream.handlerStep, phase, stage]⟩
      simp only [Stream.handlerStep, phase, stage] at disabled ⊢
      exact writeReply_covers disabled
    | replying rest =>
      refine ⟨fun _ => by simp only [Stream.handlerStep, phase, stage], fun disabled => ?_⟩
      simp only [Stream.handlerStep, phase, stage] at disabled ⊢
      exact writeReply_covers disabled
    | _ => simp [Stream.handlerStep, phase, stage]
  | _ => simp [Stream.handlerStep, phase]

private theorem handler_covers {c : Client} {k : Nat} {s : Stream Handler} {action : HandlerAction} (kind : action.isInternal = true)
    (disabled : ∀ trial ∈ handlerTrials, c.handlerStep k s trial = none) : c.handlerStep k s action = none := by
  cases action with
  | register | insertAck | send | ackLost | leave => exact disabled _ (by simp [handlerTrials])
  | stream move =>
    cases move with
    | acked => exact disabled _ (by simp [handlerTrials])
    | greet count =>
      have trial := disabled (.stream (.greet 1)) (by simp [handlerTrials])
      simp only [Client.handlerStep, HandlerMove.isLocal, if_true, Client.modify, Option.map_eq_none_iff] at trial ⊢
      exact modify_covers trial fun s => (reply_covers s).1
    | reply count =>
      have trial := disabled (.stream (.reply 1)) (by simp [handlerTrials])
      simp only [Client.handlerStep, HandlerMove.isLocal, if_true, Client.modify, Option.map_eq_none_iff] at trial ⊢
      exact modify_covers trial fun s => (reply_covers s).2
    | _ => cases kind

theorem client_covers {action : ClientAction} (kind : action.isInternal = true)
    (disabled : ∀ trial ∈ clientTrials m, m.step capacity (.client trial) = none) : m.step capacity (.client action) = none := by
  cases action with
  | connect | connectFail | accept | release => cases kind
  | readerCloseAll | readerClear | writerExit | writerStop | releaseClear | releaseCloseAll =>
    exact disabled _ (by simp [clientTrials])
  | incoming message =>
    cases message with
    | ping | other => cases kind
    | binary data =>
      by_cases head : m.download.head? = some (.binary data)
      · exact disabled _ (by simp [clientTrials, head])
      · cases delivered : Mux.deliver [.binary data] m.download with
        | none => simp [Mux.step, ClientAction.consumes, Message.fromWire, delivered]
        | some after => exact absurd (deliver_head delivered) head
  | endpoint action =>
    by_cases put : action = .put
    · exact disabled _ (by simp [clientTrials, endpointTrials, put])
    · rw [client_disabled (.endpoint action) rfl (Quiet.put_only put)]
      have covered : m.client.toEndpoint.step action = none := by
        refine endpoint_covers _ kind put fun trial member other => ?_
        have each := disabled (.endpoint trial) (by simp [clientTrials, member])
        rw [client_disabled (.endpoint trial) rfl (Quiet.put_only other)] at each
        simpa [Client.step] using each
      simp [Client.step, covered]
  | handler k action =>
    rw [client_disabled (.handler k action) rfl rfl]
    cases found : m.client.streams[k]? with
    | none => simp [Client.step, found]
    | some s =>
      have inside := (List.getElem?_eq_some_iff.mp found).1
      have covered : m.client.handlerStep k s action = none := by
        refine handler_covers kind fun trial member => ?_
        have listed : ClientAction.handler k trial ∈ clientTrials m := by
          refine List.mem_append_right _ (List.mem_flatMap.mpr ⟨k, List.mem_range.mpr inside, ?_⟩)
          exact List.mem_map_of_mem member
        have each := disabled _ listed
        rw [client_disabled (.handler k trial) rfl rfl] at each
        simpa [Client.step, found] using each
      simp [Client.step, found, covered]

theorem server_covers {action : ServerAction} (kind : action.isInternal = true)
    (disabled : ∀ trial ∈ serverTrials m, m.step capacity (.server trial) = none) : m.step capacity (.server action) = none := by
  cases action with
  | connectOk | connectFail | drop => cases kind
  | accept | reject | answer | readerCloseAll | writerExit | writerStop => exact disabled _ (by simp [serverTrials])
  | incoming message =>
    cases message with
    | ping | other => cases kind
    | binary data =>
      by_cases head : m.upload.head? = some (.binary data)
      · exact disabled _ (by simp [serverTrials, head])
      · cases delivered : Mux.deliver [.binary data] m.upload with
        | none => simp [Mux.step, ServerAction.consumes, Message.fromWire, delivered]
        | some after => exact absurd (deliver_head delivered) head
  | endpoint action =>
    by_cases put : action = .put
    · exact disabled _ (by simp [serverTrials, endpointTrials, put])
    · rw [server_disabled (.endpoint action) rfl (Quiet.put_only put)]
      have covered : m.server.toEndpoint.step action = none := by
        refine endpoint_covers _ kind put fun trial member other => ?_
        have each := disabled (.endpoint trial) (by simp [serverTrials, member])
        rw [server_disabled (.endpoint trial) rfl (Quiet.put_only other)] at each
        simpa [Server.step] using each
      simp [Server.step, covered]

/-- A state where every trial fails is at rest. -/
theorem quiet_of_trials (disabled : (trials m).all (fun trial => (m.step capacity trial).isNone) = true) : Quiet capacity m := by
  have each : ∀ trial ∈ trials m, m.step capacity trial = none := by
    intro trial member
    simpa using List.all_eq_true.mp disabled trial member
  intro action kind
  cases action with
  | client action => exact client_covers kind fun trial member => each _ (by simp [trials, member])
  | server action => exact server_covers kind fun trial member => each _ (by simp [trials, member])

end Pair

/-- The connection is up and at rest. -/
def isResting (capacity : Nat) (m : Mux) : Bool :=
  (trials m).all (fun trial => (m.step capacity trial).isNone) && decide (
    (m.client.link = .attached ∧ m.client.reader = .running ∧ m.client.writer = .receiving) ∧
    (m.server.reader ≠ .closing ∧ m.server.reader ≠ .ended ∧ m.server.reader ≠ .dropped) ∧ m.server.writer = .receiving)

theorem resting_reached {capacity : Nat} {token : String} {resilient : Bool} {actions : List MuxAction} {test : Mux → Bool}
    (executed : ((muxSystem capacity token resilient).exec ⟨Client.fresh token resilient, Server.fresh, [], []⟩ actions).any
      (fun m => isResting capacity m && test m) = true) :
    ∃ m, (muxSystem capacity token resilient).Reachable m ∧ Connected m ∧ Quiet capacity m ∧ test m = true := by
  obtain ⟨m, run, view⟩ := Transition.System.reached executed rfl
  simp only [isResting, Bool.and_eq_true, decide_eq_true_eq] at view
  obtain ⟨⟨quiet, ⟨attached, reader, writer⟩, session, sessionWriter⟩, holds⟩ := view
  exact ⟨m, run, .resting attached reader writer session sessionWriter, quiet_of_trials (by simpa using quiet), holds⟩

end EchoProxy.Proofs.Quiescence
