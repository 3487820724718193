import EchoProxy.Proofs.ClientSteps
import EchoProxy.Proofs.EndpointAccounts

/-! The invariant of the client's end of a connection, whatever the peer sends. -/

namespace EchoProxy.Proofs.ClientInvariant
open EchoProxy StreamFlow HandlerFlow EndpointSteps EndpointAccounts ClientSteps FrameSequences Places

/-- What one step does to the streams. -/
inductive StreamChange (c : Client) : List (Stream Handler) → Prop where
  | same : StreamChange c c.streams
  | shared {k s s' move} (found : c.streams[k]? = some s) (stepped : Effect s move s')
      (sent : move = .sent → c.frames.receiver = true) (unsent : move = .unsent → c.frames.receiver = false) :
    StreamChange c (c.streams.set k s')
  | handler {k s s' move} (found : c.streams[k]? = some s) (stepped : HandlerEffect s move s') :
    StreamChange c (c.streams.set k s')
  | accept {id tunnel} : StreamChange c (c.streams ++ [Stream.fresh id ⟨tunnel, .start, none⟩])

theorem client_streams {c c' : Client} {action} (effect : ClientEffect c action c') : StreamChange c c'.streams := by
  cases effect with
  | endpoint effect =>
    cases effect with
    | pop | put | putFail => exact .same
    | stream found isLocal stepped =>
      exact .shared found stepped (fun sent => absurd sent (isLocal_ne isLocal rfl)) fun unsent =>
        absurd unsent (isLocal_ne isLocal rfl)
    | sent found _ accepts stepped => exact .shared found stepped (fun _ => accepts.receiver) (by simp)
    | unsent found _ closed stepped => exact .shared found stepped (by simp) fun _ => closed
    | finish found _ stepped | unregister found stepped | route _ found stepped =>
      exact .shared found stepped (by simp) (by simp)
  | register found stepped | insertAck found stepped | leave found stepped => exact .handler found stepped
  | sent found _ _ _ stepped | unsent found _ _ _ stepped => exact .handler found stepped
  | ackLost found _ stepped | handler found _ stepped => exact .handler found stepped
  | acked _ _ _ _ found stepped => exact .handler found stepped
  | routing _ _ _ _ found stepped => exact .shared found stepped (by simp) (by simp)
  | accept => exact .accept
  | _ => exact .same

theorem client_closed {c c' : Client} {action} (effect : ClientEffect c action c') (opened : c'.frames.receiver = true) :
    c.frames.receiver = true := by
  cases effect with
  | endpoint effect => exact endpoint_closed effect opened
  | sent _ _ accepts => rw [← accepts.same]; exact opened
  | writerStop => simp at opened
  | _ => exact opened

/-- Every stream's own account. -/
structure Streams (c : Client) : Prop where
  handled : ∀ s ∈ c.streams, Handled s
  sending : c.frames.receiver = true → ∀ s ∈ c.streams, Sending s

theorem Streams.step {c c' : Client} {action} (valid : Streams c) (effect : ClientEffect c action c') : Streams c' := by
  have closed := client_closed effect
  have change := client_streams effect
  refine ⟨?_, fun opened => ?_⟩ <;> generalize c'.streams = after at change ⊢
  · cases change with
    | same => exact valid.handled
    | shared found stepped sent unsent =>
      have member := List.mem_of_getElem? found
      exact forall_set valid.handled ((valid.handled _ member).step (fun same => valid.sending (sent same) _ member) stepped)
    | handler found stepped =>
      exact forall_set valid.handled ((valid.handled _ (List.mem_of_getElem? found)).handlerStep stepped).1
    | accept => exact forall_append valid.handled (.fresh _ _)
  · have sending := valid.sending (closed opened)
    cases change with
    | same => exact sending
    | shared found stepped sent unsent =>
      refine forall_set sending ((sending _ (List.mem_of_getElem? found)).step (fun failed => ?_) stepped)
      simpa [unsent failed] using closed opened
    | handler found stepped =>
      have member := List.mem_of_getElem? found
      exact forall_set sending (((valid.handled _ member).handlerStep stepped).2 (sending _ member))
    | accept => exact forall_append sending (.fresh _ _)

theorem client_wired {c c' : Client} {action} (effect : ClientEffect c action c')
    (valid : Wired True c.registry c.routing c.streams) : Wired True c'.registry c'.routing c'.streams := by
  cases effect with
  | endpoint effect => exact effect.wired valid
  | register found stepped =>
    have same := stepped.same
    exact (valid.register found).set found same.1 same.2.2.2
  | insertAck found stepped => exact valid.set found stepped.same.1 stepped.same.2.2.2
  | sent found _ _ _ stepped | unsent found _ _ _ stepped => exact valid.set found stepped.same.1 stepped.same.2.2.2
  | ackLost found _ stepped | handler found _ stepped => exact valid.set found stepped.same.1 stepped.same.2.2.2
  | acked _ _ _ _ found stepped => exact valid.set found stepped.same.1 stepped.same.2.2.2
  | leave found stepped => exact (valid.set found stepped.same.1 stepped.same.2.2.2).close _
  | routing _ idle _ _ found stepped =>
    rw [idle] at valid
    refine valid.lookup found stepped.same.1 ?_
    cases stepped
    simp
  | closed => exact valid.close _
  | readerCloseAll | releaseCloseAll => exact valid.closeAll
  | writerStop =>
    simp only
    split
    · exact valid.closeAll
    · exact valid
  | accept => exact valid.append _ rfl
  | _ => exact valid

/-! ### HELLO and the writer -/

/-- HELLO goes out before the writer and every other task start. -/
structure Started (token : String) (c : Client) : Prop where
  order : InOrder [.hello token] c.toEndpoint
  connecting : ∀ presented, c.link = .connecting presented → presented = token ∧ c.writer = .unspawned

theorem Started.step {token : String} {c c' : Client} {action} (valid : Started token c)
    (effect : ClientEffect c action c') : Started token c' := by
  obtain ⟨order, connecting⟩ := valid
  obtain ⟨closed, placed⟩ := order
  cases effect with
  | connect link =>
    obtain ⟨rfl, unspawned⟩ := connecting _ link
    rw [unspawned] at closed placed
    exact ⟨⟨by simpa using closed, by simp [placed.2]⟩, by simp⟩
  | connectFail | releaseClear | releaseCloseAll => exact ⟨⟨closed, placed⟩, by simp⟩
  | release =>
    refine ⟨⟨closed, placed⟩, ?_⟩
    intro presented link
    simp only at link
    split at link <;> cases link
  | endpoint effect =>
    refine ⟨endpoint_inOrder effect ⟨closed, placed⟩, ?_⟩
    intro presented link
    obtain ⟨same, unspawned⟩ := connecting presented link
    refine ⟨same, ?_⟩
    cases effect with
    | pop writing | put writing | putFail writing => simp [unspawned] at writing
    | _ => exact unspawned
  | sent _ _ accepts => exact ⟨⟨by rw [accepts.same]; exact closed, by rw [accepts.taken]; exact placed⟩, connecting⟩
  | writerExit released _ receiving =>
    rw [receiving] at closed placed
    exact ⟨⟨by simpa using closed, by simp [placed]⟩, fun _ link => by simp [released] at link⟩
  | writerStop stopping =>
    rw [stopping] at closed placed
    refine ⟨⟨by simp, placed⟩, fun presented link => ?_⟩
    have unspawned := (connecting presented link).2
    rw [stopping] at unspawned
    cases unspawned
  | _ => exact ⟨⟨closed, placed⟩, connecting⟩

/-- The loops are spawned with the connection attached. -/
structure Spawned (c : Client) : Prop where
  connecting : (∃ token, c.link = .connecting token) → c.reader = .unspawned
  attached : c.link = .attached → c.reader ≠ .unspawned ∧ c.writer ≠ .unspawned

theorem Spawned.step {c c' : Client} {action} (valid : Spawned c) (effect : ClientEffect c action c') : Spawned c' := by
  obtain ⟨connecting, attached⟩ := valid
  cases effect with
  | connect => exact ⟨by simp, by simp⟩
  | connectFail | releaseClear | releaseCloseAll => exact ⟨by simp, by simp⟩
  | release => exact ⟨by simp only; split <;> simp, by simp only; split <;> simp⟩
  | endpoint effect =>
    refine ⟨connecting, fun link => ⟨(attached link).1, ?_⟩⟩
    cases effect with
    | pop | put | putFail => simp
    | _ => exact (attached link).2
  | broken running | readerCloseAll running | readerClear running =>
    exact ⟨fun early => by simp [connecting early] at running, fun link => ⟨by simp, (attached link).2⟩⟩
  | writerExit | writerStop => exact ⟨connecting, fun link => ⟨(attached link).1, by simp⟩⟩
  | _ => exact ⟨connecting, attached⟩

/-! ### Acknowledgements -/

/-- A pending sender belongs to a stream of the id, and the slot of a handler
holds an OPEN_ACK the reader has taken. -/
structure Acks (c : Client) : Prop where
  pending : ∀ id k, c.pendingAcks id = some k → ∃ s, c.streams[k]? = some s ∧ s.id = id
  slots : ∀ s ∈ c.streams, ∀ ok, s.front.ack = some ok → .openAck s.id ok ∈ c.dispatched

private theorem pending_set {c : Client} {k : Nat} {s s' : Stream Handler} (valid : Acks c)
    (found : c.streams[k]? = some s) (same : s'.id = s.id) (id : StreamId) (j : Nat) (pending : c.pendingAcks id = some j) :
    ∃ t, (c.streams.set k s')[j]? = some t ∧ t.id = id := by
  exact exists_set found (fun own => same.trans own) (valid.pending id j pending)

/-- A step that neither registers nor retires a sender nor fills a slot. -/
private theorem acks_set {c c' : Client} {k : Nat} {s s' : Stream Handler} (valid : Acks c)
    (found : c.streams[k]? = some s) (id : s'.id = s.id) (ack : s'.front.ack = s.front.ack)
    (streams : c'.streams = c.streams.set k s') (pending : c'.pendingAcks = c.pendingAcks)
    (dispatched : c.dispatched <+: c'.dispatched) : Acks c' := by
  refine ⟨?_, ?_⟩
  · rw [streams, pending]
    exact pending_set valid found id
  · rw [streams]
    refine forall_set (fun t member ok slot => dispatched.subset (valid.slots t member ok slot)) ?_
    intro ok slot
    rw [id]
    exact dispatched.subset (valid.slots s (List.mem_of_getElem? found) ok (ack ▸ slot))

private theorem acks_frame {c c' : Client} (valid : Acks c) (streams : c'.streams = c.streams)
    (pending : ∀ id k, c'.pendingAcks id = some k → c.pendingAcks id = some k)
    (dispatched : c.dispatched <+: c'.dispatched) : Acks c' := by
  refine ⟨?_, ?_⟩ <;> rw [streams]
  · exact fun id k there => valid.pending id k (pending id k there)
  · exact fun t member ok slot => dispatched.subset (valid.slots t member ok slot)

theorem Acks.step {c c' : Client} {action} (valid : Acks c) (effect : ClientEffect c action c') : Acks c' := by
  cases effect with
  | accept =>
    refine ⟨?_, ?_⟩
    · intro id k pending
      obtain ⟨t, there, own⟩ := valid.pending id k pending
      exact ⟨t, append_found there _, own⟩
    · apply forall_append valid.slots
      intro ok slot
      cases slot
  | register found stepped | leave found stepped =>
    exact acks_set valid found stepped.same.1 (stepped.slot (by simp)) rfl rfl (List.prefix_refl _)
  | sent found _ _ which stepped | unsent found _ _ which stepped =>
    exact acks_set valid found stepped.same.1 (stepped.slot (by rcases which with rfl | rfl <;> simp)) rfl rfl
      (List.prefix_refl _)
  | ackLost found _ stepped => exact acks_set valid found stepped.same.1 (stepped.slot (by simp)) rfl rfl (List.prefix_refl _)
  | handler found isLocal stepped =>
    exact acks_set valid found stepped.same.1 (stepped.slot (fun _ => handlerLocal_ne isLocal rfl))
      rfl rfl (List.prefix_refl _)
  | endpoint effect =>
    cases effect with
    | pop | put | putFail => exact acks_frame valid rfl (fun _ _ pending => pending) (List.prefix_refl _)
    | stream found _ stepped | sent found _ _ stepped | unsent found _ _ stepped | finish found _ stepped
    | unregister found stepped | route _ found stepped =>
      exact acks_set valid found stepped.same.1 (by rw [stepped.same.2]) rfl rfl (List.prefix_refl _)
  | routing _ _ _ _ found stepped =>
    exact acks_set valid found stepped.same.1 (by rw [stepped.same.2]) rfl rfl (List.prefix_append _ _)
  | @insertAck k s s' found stepped =>
    have kept : Acks { c with streams := c.streams.set k s' } :=
      acks_set valid found stepped.same.1 (stepped.slot (by simp)) rfl rfl (List.prefix_refl _)
    refine ⟨?_, kept.slots⟩
    intro id j pending
    simp only [Function.update_apply] at pending
    split at pending
    · next same => cases pending; exact ⟨s', set_found found s', stepped.same.1.trans same.symm⟩
    · exact kept.pending id j pending
  | @acked id ok k s s' data _ _ _ there found stepped =>
    obtain ⟨t, found', own⟩ := valid.pending id k there
    cases found.symm.trans found'
    refine ⟨?_, ?_⟩
    · intro id' j pending
      simp only [Function.update_apply] at pending
      split at pending
      · cases pending
      · exact pending_set valid found stepped.same.1 id' j pending
    · refine forall_set (fun t member ok slot => List.mem_append_left _ (valid.slots t member ok slot)) ?_
      intro answer slot
      have same := stepped.same.1
      cases stepped with
      | refused _ _ _ which => simp at which
      | ack =>
        simp only [received, own]
        cases before : s.front.ack with
        | none =>
          simp only [before, Option.none_or, Option.some.injEq] at slot
          simp [slot]
        | some earlier =>
          simp only [before, Option.some_or, Option.some.injEq] at slot
          subst slot
          exact List.mem_append_left _ (own ▸ valid.slots s (List.mem_of_getElem? found) _ before)
  | readerClear | releaseClear => exact acks_frame valid rfl (fun _ _ pending => by cases pending) (List.prefix_refl _)
  | closed | skipped => exact acks_frame valid rfl (fun _ _ pending => pending) (List.prefix_append _ _)
  | _ => exact acks_frame valid rfl (fun _ _ pending => pending) (List.prefix_refl _)

/-! ### Frames sent -/

/-- Ids are never taken back. -/
theorem client_ids {c c' : Client} {action} (effect : ClientEffect c action c') :
    c.streams.map Stream.id <+: c'.streams.map Stream.id := by
  have change := client_streams effect
  generalize c'.streams = after at change ⊢
  cases change with
  | same => exact List.prefix_refl _
  | shared found stepped => rw [set_ids found stepped.same.1]
  | handler found stepped => rw [set_ids found stepped.same.1]
  | accept => simp

theorem Distinct.before {c c' : Client} {action} (effect : ClientEffect c action c') (distinct : Distinct c'.streams) :
    Distinct c.streams :=
  distinct.sublist (client_ids effect).sublist

/-- What a step sends on the frame channel: nothing, or the frame a handler or a relay
loop has waiting. -/
inductive Sends (c : Client) (action : ClientAction) (c' : Client) : Prop where
  | same (streams : c'.streams = c.streams) (history : c'.frames.history = c.frames.history)
  | quiet {k s s'} (found : c.streams[k]? = some s) (id : s'.id = s.id) (emitted : s'.emitted = s.emitted)
      (streams : c'.streams = c.streams.set k s') (history : c'.frames.history = c.frames.history)
  | accept {id tunnel} (streams : c'.streams = c.streams ++ [Stream.fresh id ⟨tunnel, .start, none⟩])
      (history : c'.frames.history = c.frames.history)
  | sent {k s s' frame} (found : c.streams[k]? = some s) (id : s'.id = s.id) (own : streamId frame = some s.id)
      (emitted : s'.emitted = s.emitted ++ [frame]) (streams : c'.streams = c.streams.set k s')
      (history : c'.frames.history = c.frames.history ++ [frame]) (accepting : c.frames.receiver = true)
      (which : action = .handler k .send ∧ s.request = some frame ∨ action = .endpoint (.send k) ∧ s.outgoing = some frame)

theorem client_sends {c c' : Client} {action} (effect : ClientEffect c action c') : Sends c action c' := by
  cases effect with
  | accept => exact .accept rfl rfl
  | register found stepped | insertAck found stepped | leave found stepped =>
    exact .quiet found stepped.same.1 (stepped.quiet (by simp) (by simp)) rfl rfl
  | ackLost found _ stepped => exact .quiet found stepped.same.1 (stepped.quiet (by simp) (by simp)) rfl rfl
  | unsent found _ _ which stepped =>
    exact .quiet found stepped.same.1
      (stepped.quiet (by rcases which with rfl | rfl <;> simp) (by rcases which with rfl | rfl <;> simp)) rfl rfl
  | handler found isLocal stepped =>
    exact .quiet found stepped.same.1
      (stepped.quiet (handlerLocal_ne isLocal rfl) (handlerLocal_ne isLocal rfl)) rfl rfl
  | acked _ _ _ _ found stepped => exact .quiet found stepped.same.1 (stepped.quiet (by simp) (by simp)) rfl rfl
  | sent found request accepts which stepped =>
    obtain ⟨emitted, frame⟩ := stepped.sent_frame request which
    refine .sent found stepped.same.1 ?_ emitted rfl accepts.history accepts.receiver (.inl ⟨rfl, request⟩)
    rcases frame with ⟨rfl, -⟩ | ⟨bytes, rfl⟩ <;> rfl
  | routing _ _ _ _ found stepped => exact .quiet found stepped.same.1 (Effect.quiet stepped (by simp)) rfl rfl
  | endpoint effect =>
    cases effect with
    | pop _ takes => exact .same rfl takes.history
    | put | putFail => exact .same rfl rfl
    | stream found isLocal stepped =>
      exact .quiet found stepped.same.1 (Effect.quiet stepped (isLocal_ne isLocal rfl)) rfl rfl
    | sent found outgoing accepts stepped =>
      obtain ⟨emitted, own⟩ := Effect.sent_frame stepped outgoing
      exact .sent found stepped.same.1 own emitted rfl accepts.history accepts.receiver (.inr ⟨rfl, outgoing⟩)
    | unsent found _ _ stepped | finish found _ stepped | unregister found stepped | route _ found stepped =>
      exact .quiet found stepped.same.1 (Effect.quiet stepped (by simp)) rfl rfl
  | _ => exact .same rfl rfl

/-- Accepted frames are those of streams, and with distinct ids each stream's
frames are those it sent. -/
structure Sources (c : Client) : Prop where
  known : ∀ frame ∈ c.frames.history, ∃ id ∈ c.streams.map Stream.id, streamId frame = some id
  attributed : Distinct c.streams → Attributed c.frames.history c.streams

private theorem sources_quiet {c c' : Client} (valid : Sources c) (history : c'.frames.history = c.frames.history)
    (ids : c.streams.map Stream.id <+: c'.streams.map Stream.id)
    (attributed : Distinct c.streams → Attributed c.frames.history c'.streams) (distinct : Distinct c'.streams → Distinct c.streams) :
    Sources c' := by
  refine ⟨?_, fun different => history ▸ attributed (distinct different)⟩
  rw [history]
  intro frame member
  obtain ⟨id, there, own⟩ := valid.known frame member
  exact ⟨id, ids.subset there, own⟩

private theorem sources_set {c c' : Client} {k : Nat} {s s' : Stream Handler} (valid : Sources c)
    (found : c.streams[k]? = some s) (id : s'.id = s.id) (emitted : s'.emitted = s.emitted)
    (streams : c'.streams = c.streams.set k s') (history : c'.frames.history = c.frames.history) : Sources c' := by
  have ids : c'.streams.map Stream.id = c.streams.map Stream.id := by rw [streams, set_ids found id]
  refine sources_quiet valid history (by rw [ids]) ?_ (fun distinct => by rwa [Distinct, ids] at distinct)
  intro distinct
  rw [streams]
  exact (valid.attributed distinct).set found id emitted

private theorem sources_send {c c' : Client} {k : Nat} {s s' : Stream Handler} {frame : Frame} (valid : Sources c)
    (found : c.streams[k]? = some s) (id : s'.id = s.id) (own : streamId frame = some s.id)
    (emitted : s'.emitted = s.emitted ++ [frame]) (streams : c'.streams = c.streams.set k s')
    (history : c'.frames.history = c.frames.history ++ [frame]) : Sources c' := by
  have ids : c'.streams.map Stream.id = c.streams.map Stream.id := by rw [streams, set_ids found id]
  refine ⟨?_, fun distinct => ?_⟩
  · rw [history, ids]
    exact forall_append valid.known ⟨s.id, List.mem_map_of_mem (List.mem_of_getElem? found), own⟩
  · rw [Distinct, ids] at distinct
    rw [history, streams]
    exact (valid.attributed distinct).send distinct found id own emitted

theorem Sources.step {c c' : Client} {action} (valid : Sources c) (effect : ClientEffect c action c') : Sources c' := by
  cases client_sends effect with
  | same streams history =>
    refine sources_quiet valid history (by rw [streams]) ?_ (fun distinct => streams ▸ distinct)
    rw [streams]
    exact valid.attributed
  | quiet found id emitted streams history => exact sources_set valid found id emitted streams history
  | @accept id tunnel streams history =>
    have ids : c.streams.map Stream.id <+: c'.streams.map Stream.id := by simp [streams]
    refine ⟨?_, fun distinct => ?_⟩
    · rw [history]
      intro frame member
      obtain ⟨known, there, own⟩ := valid.known frame member
      exact ⟨known, ids.subset there, own⟩
    · rw [history, streams]
      refine (valid.attributed (distinct.sublist ids.sublist)).append (ofId_absent valid.known ?_)
      intro there
      rw [Distinct, streams, List.map_append, List.nodup_append] at distinct
      exact distinct.2.2 id there id (by simp [Stream.fresh]) rfl
  | sent found id own emitted streams history => exact sources_send valid found id own emitted streams history

/-! ### The invariant -/

structure Valid (token : String) (c : Client) : Prop where
  streams : Streams c
  wired : Wired True c.registry c.routing c.streams
  started : Started token c
  spawned : Spawned c
  acks : Acks c
  sources : Sources c

theorem Valid.initial (token : String) (resilient : Bool) : Valid token (Client.fresh token resilient) := by
  refine ⟨⟨?_, ?_⟩, .empty, ⟨⟨?_, rfl, rfl⟩, ?_⟩, ⟨?_, ?_⟩, ⟨?_, ?_⟩, ⟨?_, ?_⟩⟩
  all_goals simp [Client.fresh, Endpoint.fresh, Attributed]

theorem Valid.step {token : String} {c c' : Client} {action} (valid : Valid token c) (effect : ClientEffect c action c') :
    Valid token c' :=
  ⟨valid.streams.step effect, client_wired effect valid.wired, valid.started.step effect, valid.spawned.step effect,
    valid.acks.step effect, valid.sources.step effect⟩

theorem client_valid {token : String} {resilient : Bool} {allowed} {c : Client}
    (run : (clientSystem token resilient).Reach allowed c) : Valid token c := by
  refine run.invariant ?_ ?_
  · rintro c rfl
    exact .initial token resilient
  · intro before action after _ valid _ taken
    exact valid.step (client_effect taken)

end EchoProxy.Proofs.ClientInvariant
