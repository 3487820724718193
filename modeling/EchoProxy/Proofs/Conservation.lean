import EchoProxy.Proofs.Integrity

/-! While a connection is up nothing is lost: every byte read for a stream is
written at the other end or still on its way there, in order. -/

namespace EchoProxy.Proofs.Conservation
open EchoProxy StreamFlow HandlerFlow EndpointSteps EndpointAccounts ClientSteps ServerSteps FrameSequences MuxInvariant Places
  Protocol Integrity

/-! ### A connection that is up

The conditions are lost for good, so they say the same of every earlier state. -/

/-- The client has not let go of the connection and neither of its loops has ended. -/
structure ClientUp (c : Client) : Prop where
  link : (∃ token, c.link = .connecting token) ∨ c.link = .attached
  reader : c.reader = .unspawned ∨ c.reader = .running
  writer : c.writer ≠ .stopping ∧ c.writer ≠ .ended

/-- The session is not over and its writer loop has not ended. -/
structure ServerUp (c : Server) : Prop where
  reader : c.reader ≠ .closing ∧ c.reader ≠ .ended ∧ c.reader ≠ .dropped
  writer : c.writer ≠ .stopping ∧ c.writer ≠ .ended

theorem ClientUp.before {token : String} {c c' : Client} {action} (up : ClientUp c') (valid : ClientInvariant.Valid token c)
    (effect : ClientEffect c action c') : ClientUp c := by
  obtain ⟨link, reader, writer⟩ := up
  cases effect with
  | endpoint effect =>
    cases effect with
    | pop now | put now => exact ⟨link, reader, by simp [now]⟩
    | putFail => exact absurd rfl writer.1
    | _ => exact ⟨link, reader, writer⟩
  | connect now => exact ⟨.inl ⟨_, now⟩, .inl (valid.spawned.connecting ⟨_, now⟩), by simp [(valid.started.connecting _ now).2]⟩
  | release =>
    simp only at link
    split at link <;> simp at link
  | connectFail | releaseClear | releaseCloseAll => simp at link
  | broken | readerCloseAll | readerClear => simp at reader
  | writerExit => exact absurd rfl writer.1
  | writerStop => exact absurd rfl writer.2
  | _ => exact ⟨link, reader, writer⟩

theorem ServerUp.before {c c' : Server} {action} (up : ServerUp c') (valid : ServerInvariant.Valid c)
    (effect : ServerEffect c action c') : ServerUp c := by
  obtain ⟨reader, writer⟩ := up
  cases effect with
  | endpoint effect =>
    cases effect with
    | pop now | put now => exact ⟨reader, by simp [now]⟩
    | putFail => exact absurd rfl writer.1
    | _ => exact ⟨reader, writer⟩
  | accept now => exact ⟨by simp [now], by simp [(valid.admitted.waiting (.inr ⟨_, now⟩)).1]⟩
  | unwelcome | reject | readerCloseAll => exact absurd rfl reader.2.1
  | broken => exact absurd rfl reader.1
  | dropped | droppedAcking => exact absurd rfl reader.2.2
  | writerExit => exact absurd rfl writer.1
  | writerStop => exact absurd rfl writer.2
  | hello now | opening now | blocked now | connectFail now | refused now | unrefused now | acked now | unacked now
  | connectOk now => exact ⟨by simp [now], writer⟩
  | _ => exact ⟨reader, writer⟩

/-! ### Write tasks that have ended -/

/-- A write task ends only after it has obtained everything routed to it, and
nothing more can be. -/
def Finished {φ : Type} (registry : StreamRegistry) (streams : List (Stream φ)) : Prop :=
  ∀ (k : Nat) (s : Stream φ), streams[k]? = some s → s.task = .ended →
    registry s.id ≠ some k ∧ s.arriving = none ∧ s.channel.queue = [] ∧ s.inflow = s.channel.taken

namespace Finished
variable {φ : Type} {registry : StreamRegistry} {streams : List (Stream φ)}

theorem set {k : Nat} {s s' : Stream φ} (valid : Finished registry streams) (found : streams[k]? = some s)
    (id : s'.id = s.id) (same : s'.task = .ended → s.task = .ended ∧ s'.arriving = s.arriving ∧ s'.channel = s.channel ∧
      s'.inflow = s.inflow) : Finished registry (streams.set k s') := by
  intro j t there ended
  rcases set_cases there with ⟨rfl, rfl⟩ | ⟨-, there⟩
  · obtain ⟨before, arriving, channel, inflow⟩ := same ended
    rw [id, arriving, channel, inflow]
    exact valid _ s found before
  · exact valid j t there ended

theorem register {k : Nat} {s : Stream φ} (valid : Finished registry streams) (found : streams[k]? = some s)
    (running : s.task ≠ .ended) : Finished (registry.register s.id k) streams := by
  intro j t there ended
  refine ⟨fun registered => ?_, (valid j t there ended).2⟩
  rcases register_some.mp registered with ⟨-, rfl⟩ | ⟨-, registered⟩
  · cases found.symm.trans there
    exact running ended
  · exact (valid j t there ended).1 registered

theorem close (valid : Finished registry streams) (id : StreamId) : Finished (registry.close id) streams := by
  intro j t there ended
  exact ⟨fun registered => (valid j t there ended).1 (close_some.mp registered).2, (valid j t there ended).2⟩

theorem closeAll (valid : Finished registry streams) : Finished .new streams :=
  fun j t there ended => ⟨by simp [StreamRegistry.new], (valid j t there ended).2⟩

theorem append {new : Stream φ} (valid : Finished registry streams) (running : new.task ≠ .ended) :
    Finished registry (streams ++ [new]) := by
  intro j t there ended
  rcases append_cases there with ⟨-, rfl⟩ | there
  · exact absurd ended running
  · exact valid j t there ended

end Finished

/-- Only `finish` ends a write task, and an ended one is left alone but for a
`route` call. -/
private theorem effect_ended {φ : Type} {s s' : Stream φ} {move} (effect : Effect s move s') (finish : move ≠ .finish)
    (lookup : ∀ bytes, move ≠ .lookup bytes) (route : move ≠ .route) (ended : s'.task = .ended) :
    s.task = .ended ∧ s'.arriving = s.arriving ∧ s'.channel = s.channel ∧ s'.inflow = s.inflow := by
  cases effect with
  | finish => exact absurd rfl finish
  | @lookup bytes => exact absurd rfl (lookup bytes)
  | discarded | routed => exact absurd rfl route
  | recv | write => exact absurd ended (writeAll_running _).1
  | writeError => cases ended
  | _ => exact ⟨ended, rfl, rfl, rfl⟩

private theorem finished_lookup {φ : Type} {registry : StreamRegistry} {streams : List (Stream φ)} {k : Nat}
    {s s' : Stream φ} {bytes : Bytes} (valid : Finished registry streams) (found : streams[k]? = some s)
    (registered : registry s.id = some k) (stepped : Effect s (.lookup bytes) s') : Finished registry (streams.set k s') := by
  refine valid.set found stepped.same.1 fun ended => ?_
  cases stepped
  exact absurd registered (valid k s found ended).1

theorem endpoint_finished {φ : Type} {live : Prop} {e e' : Endpoint φ} {action} (effect : EndpointEffect e action e')
    (alive : live) (wired : Wired live e.registry e.routing e.streams) (accounts : ∀ s ∈ e.streams, ∃ greeting, Inbound greeting s)
    (valid : Finished e.registry e.streams) : Finished e'.registry e'.streams := by
  cases effect with
  | pop | put | putFail => exact valid
  | stream found isLocal stepped =>
    exact valid.set found stepped.same.1 (effect_ended stepped (isLocal_ne isLocal rfl)
      (fun _ => isLocal_ne isLocal rfl) (isLocal_ne isLocal rfl))
  | sent found _ _ stepped | unsent found _ _ stepped =>
    exact valid.set found stepped.same.1 (effect_ended stepped (by simp) (by simp) (by simp))
  | unregister found stepped =>
    exact (valid.set found stepped.same.1 (effect_ended stepped (by simp) (by simp) (by simp))).close _
  | route routing found stepped =>
    obtain ⟨_, there, held⟩ := wired.routes _ routing
    cases found.symm.trans there
    refine valid.set found stepped.same.1 fun ended => ?_
    have before : _ = WriteTask.ended := (by cases stepped <;> exact ended)
    exact absurd (valid _ _ found before).2.1 held
  | @finish k s s' found disconnected stepped =>
    intro j t there ended
    rcases set_cases there with ⟨rfl, rfl⟩ | ⟨-, there⟩
    · simp only [Endpoint.disconnected, decide_eq_true_eq] at disconnected
      have idle : s.arriving = none := by
        by_contra held
        exact disconnected.2 (wired.arriving alive _ s found held)
      obtain ⟨greeting, inbound⟩ := accounts s (List.mem_of_getElem? found)
      cases stepped with
      | finish waiting drained =>
        have received := inbound.queued (inbound.attended.mpr (.inr (.inl waiting)))
        simp only [idle, Channel.history, drained, Option.toList_none, List.append_nil] at received
        exact ⟨disconnected.1, idle, drained, received⟩
    · exact valid j t there ended

/-- The front has no write task to end. -/
private theorem handler_ended {s s' : Stream Handler} {move} (handled : Handled s) (stepped : HandlerEffect s move s')
    (ended : s'.task = .ended) :
    s.task = .ended ∧ s'.arriving = s.arriving ∧ s'.channel = s.channel ∧ s'.inflow = s.inflow := by
  cases stepped with
  | granted _ _ _ next => rcases next with ⟨-, rfl⟩ | ⟨-, rfl⟩ <;> exact ⟨ended, rfl, rfl, rfl⟩
  | greeted | forwarded => cases ended
  | leftSilently front | replied front | replyError front =>
    simp [Stream.abandon, handled.inbound.front front] at ended
  | _ => exact ⟨ended, rfl, rfl, rfl⟩

theorem client_finished {token : String} {c c' : Client} {action} (client : ClientInvariant.Valid token c)
    (effect : ClientEffect c action c') (valid : Finished c.registry c.streams) : Finished c'.registry c'.streams := by
  have handled {k : Nat} {s : Stream Handler} (found : c.streams[k]? = some s) : Handled s :=
    client.streams.handled s (List.mem_of_getElem? found)
  cases effect with
  | endpoint effect =>
    exact endpoint_finished effect trivial client.wired (fun s member => ⟨_, (client.streams.handled s member).inbound⟩) valid
  | accept => exact valid.append (by simp [Stream.fresh])
  | @register k s s' found stepped =>
    have idle : s.task = .absent := by
      cases stepped with
      | registered front => exact (handled found).inbound.front front
      | refused _ _ _ which => simp at which
    exact (valid.register found (by simp [idle])).set found stepped.same.1 (handler_ended (handled found) stepped)
  | insertAck found stepped => exact valid.set found stepped.same.1 (handler_ended (handled found) stepped)
  | leave found stepped => exact (valid.set found stepped.same.1 (handler_ended (handled found) stepped)).close _
  | sent found _ _ _ stepped | unsent found _ _ _ stepped | acked _ _ _ _ found stepped =>
    exact valid.set found stepped.same.1 (handler_ended (handled found) stepped)
  | ackLost found _ stepped | handler found _ stepped =>
    exact valid.set found stepped.same.1 (handler_ended (handled found) stepped)
  | routing _ _ _ registered found stepped =>
    exact finished_lookup valid found (client.wired.own registered found ▸ registered) stepped
  | closed => exact valid.close _
  | readerCloseAll | releaseCloseAll => exact valid.closeAll
  | writerStop =>
    simp only
    split
    · exact valid.closeAll
    · exact valid
  | _ => exact valid

theorem server_finished {c c' : Server} {action} (server : ServerInvariant.Valid c) (effect : ServerEffect c action c')
    (alive : c.reader ≠ .dropped) (valid : Finished c.registry c.streams) : Finished c'.registry c'.streams := by
  have relayed {k : Nat} {s : Stream Opened} (found : c.streams[k]? = some s) : ServerInvariant.Relayed s :=
    server.streams.relayed s (List.mem_of_getElem? found)
  cases effect with
  | endpoint effect =>
    exact endpoint_finished effect alive server.routes.wired
      (fun s member => ⟨_, (server.streams.relayed s member).inbound⟩) valid
  | routing _ _ _ registered found stepped =>
    exact finished_lookup valid found (server.routes.wired.own registered found ▸ registered) stepped
  | @connectOk id dest =>
    have opened : Finished c.registry (c.streams ++ [Stream.fresh id ⟨dest⟩]) := valid.append (by simp [Stream.fresh])
    exact opened.register (k := c.streams.length) (s := Stream.fresh id ⟨dest⟩) (by simp) (by simp [Stream.fresh])
  | connectFail | closed => exact valid.close _
  | acked _ found | unacked _ found =>
    exact valid.set found rfl fun ended => by simp [ServerSteps.acked, Stream.relay] at ended
  | droppedAcking acking found =>
    obtain ⟨_, there, front⟩ := server.streams.acking _ acking
    cases found.symm.trans there
    exact valid.set found rfl fun ended => by simp [Stream.abandon, (relayed found).inbound.front front] at ended
  | readerCloseAll | writerStop => exact valid.closeAll
  | _ => exact valid

/-! ### Streams that still listen -/

/-- A payload dispatched last was not preceded by the CLOSE of its id. -/
def ClosedLast (frames : List Frame) : Prop :=
  ∀ id before bytes, frames = before ++ [.data id bytes] → .close id ∉ before

private theorem closedLast_shape {id : StreamId} {head : Frame} {sent : List Bytes} {before : List Frame} {bytes : Bytes}
    (front : before ++ [.data id bytes] <+: head :: sent.map (.data id) ++ [.close id]) (other : head ≠ .close id) :
    .close id ∉ before := by
  obtain ⟨rest, whole⟩ := front
  intro member
  rcases List.eq_nil_or_concat rest with rfl | ⟨init, last, rfl⟩
  · rw [List.append_nil] at whole
    have same := (List.append_inj' whole rfl).2
    simp at same
  · rw [List.concat_eq_append, ← List.append_assoc] at whole
    have inside := (List.append_inj' whole rfl).1 ▸ List.mem_append_left _ (List.mem_append_left _ member)
    rcases List.mem_cons.mp inside with same | payload
    · exact other same.symm
    · obtain ⟨_, _, same⟩ := List.mem_map.mp payload
      cases same

private theorem closedLast_of {frames : List Frame}
    (shape : ∀ id bytes, .data id bytes ∈ frames →
      ∃ (head : Frame) (sent : List Bytes), ofId id frames <+: head :: sent.map (.data id) ++ [.close id] ∧
      head ≠ .close id) : ClosedLast frames := by
  rintro id before bytes rfl member
  obtain ⟨head, sent, front, other⟩ := shape id bytes (by simp)
  rw [ofId_append, ofId_single rfl] at front
  exact closedLast_shape front other (List.mem_filter.mpr ⟨member, by simp [streamId]⟩)

theorem server_closedLast {capacity : Nat} {token : String} {resilient : Bool} {allowed} {m : Mux}
    (run : (muxSystem capacity token resilient).Reach allowed m) (distinct : Distinct m.client.streams) :
    ClosedLast m.server.dispatched := by
  have client := ClientInvariant.client_valid (client_reach run)
  refine closedLast_of fun id bytes _ => ?_
  obtain ⟨dest, sent, shape⟩ := client_opens client distinct id
  exact ⟨_, sent, (dispatched_upstream run id).trans shape, by simp⟩

theorem client_closedLast {capacity : Nat} {token : String} {resilient : Bool} {allowed} {m : Mux}
    (run : (muxSystem capacity token resilient).Reach allowed m) (distinct : Distinct m.client.streams) :
    ClosedLast m.client.dispatched := by
  have server := ServerInvariant.server_valid (server_reach run)
  refine closedLast_of fun id bytes member => ?_
  rcases server_answers server (server_nodup run distinct) id with refused | ⟨sent, shape⟩
  · have only := ((dispatched_downstream run id).trans refused).subset (List.mem_filter.mpr ⟨member, by simp [streamId]⟩)
    simp at only
  · exact ⟨_, sent, (dispatched_downstream run id).trans shape, by simp⟩

/-- Everything dispatched for the stream is routed to it: its sender is registered,
or CLOSE has been dispatched after all its payloads. -/
def Fed {φ : Type} (registry : StreamRegistry) (dispatched : List Frame) (k : Nat) (s : Stream φ) : Prop :=
  registry s.id = some k ∨ .close s.id ∈ dispatched ∧ s.inflow = payloads s.id dispatched

namespace Fed
variable {φ : Type} {registry registry' : StreamRegistry} {dispatched dispatched' : List Frame} {k : Nat} {s s' : Stream φ}

theorem frame (fed : Fed registry dispatched k s) (id : s'.id = s.id) (inflow : s'.inflow = s.inflow)
    (sender : registry' s.id = registry s.id) (longer : dispatched <+: dispatched')
    (same : payloads s.id dispatched' = payloads s.id dispatched) : Fed registry' dispatched' k s' := by
  unfold Fed
  rw [id, inflow, sender, same]
  exact fed.imp_right fun closed => ⟨longer.subset closed.1, closed.2⟩

/-- CLOSE takes the sender of a stream that has been routed everything. -/
theorem close (fed : Fed registry dispatched k s) (all : registry s.id = some k → s.inflow = payloads s.id dispatched) :
    Fed (registry.close s.id) (dispatched ++ [.close s.id]) k s := by
  refine .inr ⟨by simp, ?_⟩
  rw [payloads_append]
  rcases fed with registered | ⟨-, inflow⟩
  · simp [all registered, payloads, payload]
  · simp [inflow, payloads, payload]

/-- A payload without a sender is none of this stream's. -/
theorem skip {frame : Frame} (fed : Fed registry dispatched k s) (last : ClosedLast (dispatched ++ [frame]))
    (unrouted : ∀ id, registry id ≠ none → payload id frame = none) : Fed registry (dispatched ++ [frame]) k s := by
  by_cases own : payload s.id frame = none
  · exact fed.frame rfl rfl rfl (List.prefix_append _ _) (by simp [payloads, own])
  · rcases fed with registered | ⟨closed, -⟩
    · exact absurd (unrouted s.id (by simp [registered])) own
    · cases frame with
      | data id bytes =>
        have same : id = s.id := by
          by_contra different
          simp [payload, different] at own
        subst same
        exact absurd closed (last _ _ bytes rfl)
      | _ => exact absurd rfl own

end Fed

/-- Every stream that listens is fed. -/
def AllFed {φ : Type} (listening : Stream φ → Prop) (registry : StreamRegistry) (dispatched : List Frame)
    (streams : List (Stream φ)) : Prop :=
  ∀ (k : Nat) (s : Stream φ), streams[k]? = some s → listening s → Fed registry dispatched k s

namespace AllFed
variable {φ : Type} {listening : Stream φ → Prop} {registry : StreamRegistry} {dispatched : List Frame}
  {streams : List (Stream φ)}

theorem set {k : Nat} {s s' : Stream φ} (fed : AllFed listening registry dispatched streams) (found : streams[k]? = some s)
    (id : s'.id = s.id) (inflow : s'.inflow = s.inflow) (before : listening s' → listening s) :
    AllFed listening registry dispatched (streams.set k s') := by
  intro j t there listens
  rcases set_cases there with ⟨rfl, rfl⟩ | ⟨-, there⟩
  · exact (fed _ s found (before listens)).frame id inflow rfl (List.prefix_refl _) rfl
  · exact fed j t there listens

/-- A stream that no longer listens gives up its sender. -/
theorem unregister {k : Nat} {s s' : Stream φ} (fed : AllFed listening registry dispatched streams)
    (distinct : Distinct streams) (found : streams[k]? = some s) (deaf : ¬ listening s') :
    AllFed listening (registry.close s.id) dispatched (streams.set k s') := by
  intro j t there listens
  rcases set_cases there with ⟨rfl, rfl⟩ | ⟨different, there⟩
  · exact absurd listens deaf
  · have other : t.id ≠ s.id := fun same => different (distinct.same there found same)
    exact (fed j t there listens).frame rfl rfl (Function.update_of_ne other ..) (List.prefix_refl _) rfl

theorem register {k : Nat} {s s' : Stream φ} (fed : AllFed listening registry dispatched streams)
    (distinct : Distinct streams) (found : streams[k]? = some s) (id : s'.id = s.id) :
    AllFed listening (registry.register s.id k) dispatched (streams.set k s') := by
  intro j t there listens
  rcases set_cases there with ⟨rfl, rfl⟩ | ⟨different, there⟩
  · exact .inl (by rw [id]; exact Function.update_self ..)
  · have other : t.id ≠ s.id := fun same => different (distinct.same there found same)
    exact (fed j t there listens).frame rfl rfl (Function.update_of_ne other ..) (List.prefix_refl _) rfl

theorem skip {frame : Frame} (fed : AllFed listening registry dispatched streams)
    (last : ClosedLast (dispatched ++ [frame])) (unrouted : ∀ id, registry id ≠ none → payload id frame = none) :
    AllFed listening registry (dispatched ++ [frame]) streams :=
  fun j t there listens => (fed j t there listens).skip last unrouted

theorem close (fed : AllFed listening registry dispatched streams) (delivered : Delivered registry streams dispatched)
    (id : StreamId) : AllFed listening (registry.close id) (dispatched ++ [.close id]) streams := by
  intro j t there listens
  have before := fed j t there listens
  by_cases own : id = t.id
  · subst own
    exact before.close (delivered j t there).2
  · refine before.frame rfl rfl (Function.update_of_ne (fun same => own same.symm) ..) (List.prefix_append _ _) ?_
    simp [payloads, payload]

theorem route {k : Nat} {id : StreamId} {bytes : Bytes} {s s' : Stream φ} (fed : AllFed listening registry dispatched streams)
    (distinct : Distinct streams) (found : streams[k]? = some s) (registered : registry id = some k) (own : s.id = id)
    (same : s'.id = s.id) : AllFed listening registry (dispatched ++ [.data id bytes]) (streams.set k s') := by
  intro j t there listens
  rcases set_cases there with ⟨rfl, rfl⟩ | ⟨different, there⟩
  · exact .inl (by rw [same, own]; exact registered)
  · have other : id ≠ t.id := fun alike => different (distinct.same there found (alike ▸ own.symm))
    exact (fed j t there listens).frame rfl rfl rfl (List.prefix_append _ _) (by simp [payloads, payload, other])

theorem endpoint {e e' : Endpoint φ} {action} (fed : AllFed listening e.registry e.dispatched e.streams)
    (before : ∀ {s s' : Stream φ} {move}, Effect s move s' → listening s' → listening s)
    (unregistered : ∀ {s s' : Stream φ}, Effect s .unregister s' → ¬ listening s') (effect : EndpointEffect e action e')
    (distinct : Distinct e.streams) : AllFed listening e'.registry e'.dispatched e'.streams := by
  cases effect with
  | pop | put | putFail => exact fed
  | stream found isLocal stepped =>
    exact fed.set found stepped.same.1 (Effect.inflow stepped (fun _ => isLocal_ne isLocal rfl)) (before stepped)
  | sent found _ _ stepped | unsent found _ _ stepped | finish found _ stepped | route _ found stepped =>
    exact fed.set found stepped.same.1 (Effect.inflow stepped (by simp)) (before stepped)
  | unregister found stepped => exact fed.unregister distinct found (unregistered stepped)

end AllFed

/-- The relay loop runs. -/
def Reading {φ : Type} (s : Stream φ) : Prop := s.phase = .reading ∨ ∃ bytes, s.phase = .sending bytes

theorem Effect.reading {φ : Type} {s s' : Stream φ} {move} (effect : Effect s move s') (reading : Reading s') : Reading s := by
  cases effect with
  | read now => exact .inl now
  | sentData now => exact .inr ⟨_, now⟩
  | readEnd | readError | sentClose | unsentData | unsentClose | unregister => simp [Reading] at reading
  | _ => exact reading

def ServerListening (s : Stream Opened) : Prop := s.phase = .front ∨ Reading s

/-- What a kind of stream at the server needs for all of that kind to be fed. -/
structure ServerKind (listening : Stream Opened → Prop) : Prop where
  front : ∀ {s}, s.phase = .front → listening s
  before : ∀ {s s' move}, Effect s move s' → listening s' → listening s
  unregistered : ∀ {s s'}, Effect s .unregister s' → ¬ listening s'

theorem serverListening_kind : ServerKind ServerListening where
  front := .inl
  before stepped := Or.imp stepped.stays.mp (Effect.reading stepped)
  unregistered stepped := by
    cases stepped
    simp [ServerListening, Reading]

theorem server_fed {listening : Stream Opened → Prop} {c c' : Server} {action} (kind : ServerKind listening)
    (server : ServerInvariant.Valid c) (effect : ServerEffect c action c')
    (up : ServerUp c') (nodup : (openIds c.dispatched).Nodup) (last : ClosedLast c'.dispatched)
    (delivered : Delivered c.registry c.streams c.dispatched)
    (fed : AllFed listening c.registry c.dispatched c.streams) :
    AllFed listening c'.registry c'.dispatched c'.streams := by
  obtain ⟨done, settled⟩ := server.opens.settled
  have fresh : (done ++ ServerInvariant.waiting c.reader).Nodup := settled.opens ▸ nodup
  have distinct := settled.distinct nodup
  have waiting_new {id : StreamId} {dest : String} {j : Nat} {t : Stream Opened} (now : c.reader = .connecting id dest)
      (there : c.streams[j]? = some t) : t.id ≠ id := by
    rw [now] at fresh
    have own := settled.ids.subset (List.mem_map_of_mem (List.mem_of_getElem? there))
    exact (List.nodup_append.mp fresh).2.2 _ own id (by simp [ServerInvariant.waiting])
  cases effect with
  | endpoint effect => exact fed.endpoint kind.before kind.unregistered effect distinct
  | hello | opening | blocked => exact fed.skip last fun _ _ => rfl
  | routing _ _ _ registered found stepped =>
    exact fed.route distinct found registered (server.routes.wired.own registered found) stepped.same.1
  | closed => exact fed.close delivered _
  | skipped _ _ _ unknown => exact fed.skip last (server_unrouted unknown)
  | connectFail now =>
    intro j t there listens
    refine (fed j t there listens).frame rfl rfl (Function.update_of_ne (waiting_new now there) ..) (List.prefix_refl _) rfl
  | @connectOk id dest now =>
    intro j t there listens
    rcases append_cases there with ⟨rfl, rfl⟩ | there
    · exact .inl (Function.update_self ..)
    · refine (fed j t there listens).frame rfl rfl (Function.update_of_ne (waiting_new now there) ..) (List.prefix_refl _) rfl
  | acked acking found | unacked acking found =>
    obtain ⟨_, there, front⟩ := server.streams.acking _ acking
    cases found.symm.trans there
    exact fed.set found rfl rfl fun _ => kind.front front
  | dropped | droppedAcking => exact absurd rfl up.reader.2.2
  | readerCloseAll => exact absurd rfl up.reader.2.1
  | writerStop => exact absurd rfl up.writer.2
  | _ => exact fed

/-- The handler is between `register` and `leave`. -/
def ClientListening (s : Stream Handler) : Prop :=
  s.phase = .front ∧ (s.front.stage ≠ .start ∧ (∀ reply, s.front.stage ≠ .leaving reply) ∧
    ∀ rest, s.front.stage ≠ .replying rest) ∨ Reading s

private theorem HandlerEffect.listening {s s' : Stream Handler} {move} (effect : HandlerEffect s move s')
    (other : move ≠ .registered) (listens : ClientListening s') : ClientListening s := by
  cases effect with
  | ack => exact listens
  | registered => exact absurd rfl other
  | inserted front stage | opened front stage | granted front stage | greet front stage | greeted front stage
  | forwarded front stage => exact .inl ⟨front, by simp [stage]⟩
  | unopened front | refused front | greetError front | unforwarded front | left front | reply front =>
    simp [ClientListening, Reading, Stream.setStage, front] at listens
  | leftSilently | replied | replyError => simp [ClientListening, Reading, Stream.abandon] at listens

/-- What a kind of handler needs for all of that kind to be fed. -/
structure ClientKind (listening : Stream Handler → Prop) : Prop where
  unaccepted : ∀ {id tunnel}, ¬ listening (Stream.fresh id ⟨tunnel, .start, none⟩)
  before : ∀ {s s' move}, Effect s move s' → listening s' → listening s
  handled : ∀ {s s' move}, HandlerEffect s move s' → move ≠ .registered → listening s' → listening s
  unregistered : ∀ {s s'}, Effect s .unregister s' → ¬ listening s'
  left : ∀ {s s'}, HandlerEffect s .left s' → ¬ listening s'

theorem clientListening_kind : ClientKind ClientListening where
  unaccepted := by simp [ClientListening, Reading, Stream.fresh]
  before stepped := by
    rw [ClientListening, ClientListening, stepped.stays, stepped.same.2]
    exact Or.imp_right (Effect.reading stepped)
  handled := HandlerEffect.listening
  unregistered stepped := by
    cases stepped
    simp [ClientListening, Reading]
  left stepped := by
    cases stepped with
    | left front => simp [ClientListening, Reading, Stream.setStage, front]
    | leftSilently => simp [ClientListening, Reading, Stream.abandon]
    | refused _ _ _ which => simp at which

theorem client_fed {listening : Stream Handler → Prop} {token : String} {c c' : Client} {action} (kind : ClientKind listening)
    (client : ClientInvariant.Valid token c)
    (effect : ClientEffect c action c') (up : ClientUp c') (distinct : Distinct c.streams) (last : ClosedLast c'.dispatched)
    (delivered : Delivered c.registry c.streams c.dispatched)
    (fed : AllFed listening c.registry c.dispatched c.streams) :
    AllFed listening c'.registry c'.dispatched c'.streams := by
  cases effect with
  | endpoint effect => exact fed.endpoint kind.before kind.unregistered effect distinct
  | accept =>
    intro j t there listens
    rcases append_cases there with ⟨rfl, rfl⟩ | there
    · exact absurd listens kind.unaccepted
    · exact fed j t there listens
  | register found stepped => exact fed.register distinct found stepped.same.1
  | leave found stepped => exact fed.unregister distinct found (kind.left stepped)
  | insertAck found stepped | ackLost found _ stepped =>
    exact fed.set found stepped.same.1 stepped.same.2.2.1 (kind.handled stepped (by simp))
  | sent found _ _ which stepped | unsent found _ _ which stepped =>
    exact fed.set found stepped.same.1 stepped.same.2.2.1
      (kind.handled stepped (by rcases which with rfl | rfl <;> simp))
  | handler found isLocal stepped =>
    exact fed.set found stepped.same.1 stepped.same.2.2.1
      (kind.handled stepped (handlerLocal_ne isLocal rfl))
  | acked _ _ _ _ found stepped =>
    exact (fed.skip last fun _ _ => rfl).set found stepped.same.1 stepped.same.2.2.1
      (kind.handled stepped (by simp))
  | routing _ _ _ registered found stepped =>
    exact fed.route distinct found registered (client.wired.own registered found) stepped.same.1
  | closed => exact fed.close delivered _
  | skipped _ _ _ unknown => exact fed.skip last (client_unrouted unknown)
  | readerCloseAll => simpa using up.reader
  | writerStop => exact absurd rfl up.writer.2
  | releaseCloseAll => simpa using up.link
  | _ => exact fed

/-! ### Runs -/

section Runs
variable {capacity : Nat} {token : String} {resilient : Bool} {allowed : MuxAction → Prop} {m : Mux}

theorem both_finished (run : (muxSystem capacity token resilient).Reach allowed m) :
    Finished m.client.registry m.client.streams ∧
      (m.server.reader ≠ .dropped → Finished m.server.registry m.server.streams) := by
  refine run.invariant (p := fun m => Finished m.client.registry m.client.streams ∧
    (m.server.reader ≠ .dropped → Finished m.server.registry m.server.streams)) ?_ ?_
  · rintro m rfl
    exact ⟨fun j t there => by simp [Client.fresh, Endpoint.fresh] at there,
      fun _ j t there => by simp [Server.fresh, Endpoint.fresh] at there⟩
  · intro before action after prior valid _ taken
    have client := ClientInvariant.client_valid (client_reach prior)
    have server := ServerInvariant.server_valid (server_reach prior)
    cases mux_effect taken with
    | client stepped => exact ⟨client_finished client (client_effect stepped) valid.1, valid.2⟩
    | server stepped =>
      refine ⟨valid.1, fun alive => ?_⟩
      have effect := server_effect stepped
      have earlier := undropped effect alive
      exact server_finished server effect earlier (valid.2 earlier)

theorem client_allFed {listening : Stream Handler → Prop} (kind : ClientKind listening)
    (run : (muxSystem capacity token resilient).Reach allowed m) (distinct : Distinct m.client.streams)
    (up : ClientUp m.client) : AllFed listening m.client.registry m.client.dispatched m.client.streams := by
  refine run.invariant (p := fun m => Distinct m.client.streams → ClientUp m.client →
    AllFed listening m.client.registry m.client.dispatched m.client.streams) ?_ ?_ distinct up
  · rintro m rfl - - j t there
    simp [Client.fresh, Endpoint.fresh] at there
  · intro before action after prior valid permitted taken distinct up
    have client := ClientInvariant.client_valid (client_reach prior)
    have last := client_closedLast (prior.step permitted taken) distinct
    cases mux_effect taken with
    | server => exact valid distinct up
    | client stepped =>
      have effect := client_effect stepped
      have earlier := ClientInvariant.Distinct.before effect distinct
      exact client_fed kind client effect up earlier last (both_delivered prior earlier).1
        (valid earlier (up.before client effect))

theorem server_allFed {listening : Stream Opened → Prop} (kind : ServerKind listening)
    (run : (muxSystem capacity token resilient).Reach allowed m) (distinct : Distinct m.client.streams)
    (up : ServerUp m.server) : AllFed listening m.server.registry m.server.dispatched m.server.streams := by
  refine run.invariant (p := fun m => Distinct m.client.streams → ServerUp m.server →
    AllFed listening m.server.registry m.server.dispatched m.server.streams) ?_ ?_ distinct up
  · rintro m rfl - - j t there
    simp [Server.fresh, Endpoint.fresh] at there
  · intro before action after prior valid permitted taken distinct up
    have server := ServerInvariant.server_valid (server_reach prior)
    have last := server_closedLast (prior.step permitted taken) distinct
    cases mux_effect taken with
    | client stepped => exact valid (ClientInvariant.Distinct.before (client_effect stepped) distinct) up
    | server stepped =>
      have effect := server_effect stepped
      exact server_fed kind server effect up (server_nodup prior distinct) last (both_delivered prior distinct).2
        (valid distinct (up.before server effect))

end Runs

end EchoProxy.Proofs.Conservation
