import EchoProxy.Proofs.MuxInvariant

/-! Streams of a session that share an id, one after another. A relay task knows
its stream by the id alone, so an incarnation is on its own only if the tasks of the
ones before it are over. -/

namespace EchoProxy.Proofs.Incarnations
open EchoProxy StreamFlow EndpointSteps EndpointAccounts ServerSteps FrameSequences Places

/-- A stream is registered only once the relay tasks of all earlier streams of its
id have returned. -/
def fresh (c : Server) : ServerAction → Bool
  | .connectOk =>
    match c.reader with
    | .connecting id _ => c.streams.all fun s => s.id ≠ id ∨ s.phase = .done
    | _ => true
  | _ => true

/-- The frames of an id that belong to a stream: all but refusals. -/
def streamFrames (id : StreamId) (frames : List Frame) : List Frame :=
  frames.filter fun frame => streamId frame = some id ∧ frame ≠ .openAck id false

/-- Stream `k` is the last one with its id. -/
def Newest (streams : List (Stream Opened)) (k : Nat) (id : StreamId) : Prop :=
  ∀ (j : Nat) (t : Stream Opened), streams[j]? = some t → t.id = id → j ≤ k

/-! ### Registered streams -/

section Newest
variable {registry : StreamRegistry} {streams : List (Stream Opened)} {j k : Nat} {s s' new : Stream Opened} {id : StreamId}

private theorem Newest.set (newest : Newest streams k id) (found : streams[j]? = some s) (own : s'.id = s.id) :
    Newest (streams.set j s') k id := by
  intro i t there same
  rcases set_cases there with ⟨rfl, rfl⟩ | ⟨-, there⟩
  · exact newest _ s found (own ▸ same)
  · exact newest i t there same

private theorem Newest.append (newest : Newest streams k id) (other : new.id ≠ id) : Newest (streams ++ [new]) k id := by
  intro j t there same
  rcases append_cases there with ⟨-, rfl⟩ | there
  · exact absurd same other
  · exact newest j t there same

private theorem newest_last (streams : List (Stream Opened)) (new : Stream Opened) (id : StreamId) :
    Newest (streams ++ [new]) streams.length id := by
  intro j t there _
  have inside := (List.getElem?_eq_some_iff.mp there).1
  simp only [List.length_append, List.length_cons, List.length_nil] at inside
  omega

/-- A registered sender is that of the last stream of its id. -/
def RegistersNewest (registry : StreamRegistry) (streams : List (Stream Opened)) : Prop :=
  ∀ id k, registry id = some k → Newest streams k id

private theorem RegistersNewest.set (valid : RegistersNewest registry streams) (found : streams[j]? = some s)
    (own : s'.id = s.id) : RegistersNewest registry (streams.set j s') :=
  fun id k registered => (valid id k registered).set found own

private theorem RegistersNewest.close (valid : RegistersNewest registry streams) (id : StreamId) :
    RegistersNewest (registry.close id) streams :=
  fun other k registered => valid other k (close_some.mp registered).2

private theorem RegistersNewest.closeAll : RegistersNewest .new streams :=
  fun id k registered => by simp [StreamRegistry.new] at registered

private theorem RegistersNewest.connect (valid : RegistersNewest registry streams) (new : Stream Opened) :
    RegistersNewest (registry.register new.id streams.length) (streams ++ [new]) := by
  intro id k registered
  rcases register_some.mp registered with ⟨rfl, rfl⟩ | ⟨other, registered⟩
  · exact newest_last streams new _
  · exact (valid id k registered).append other.symm

theorem registers_newest {c c' : Server} {action} (effect : ServerEffect c action c')
    (valid : RegistersNewest c.registry c.streams) : RegistersNewest c'.registry c'.streams := by
  cases effect with
  | endpoint effect =>
    cases effect with
    | pop | put | putFail => exact valid
    | stream found _ stepped | sent found _ _ stepped | unsent found _ _ stepped | finish found _ stepped
    | route _ found stepped => exact valid.set found stepped.same.1
    | unregister found stepped => exact (valid.set found stepped.same.1).close _
  | routing _ _ _ _ found stepped => exact valid.set found stepped.same.1
  | acked _ found | unacked _ found | droppedAcking _ found => exact valid.set found rfl
  | closed | connectFail => exact valid.close _
  | @connectOk id dest => exact valid.connect (Stream.fresh id ⟨dest⟩)
  | readerCloseAll | writerStop => exact .closeAll
  | _ => exact valid

/-- Only the last stream of an id may still have a relay task. -/
def OneLive (streams : List (Stream Opened)) : Prop :=
  ∀ (k : Nat) (s : Stream Opened), streams[k]? = some s → s.phase ≠ .done → Newest streams k s.id

private theorem OneLive.set (valid : OneLive streams) (found : streams[j]? = some s) (own : s'.id = s.id)
    (stays : s.phase = .done → s'.phase = .done) : OneLive (streams.set j s') := by
  intro k t there live
  rcases set_cases there with ⟨rfl, rfl⟩ | ⟨-, there⟩
  · rw [own]
    exact (valid _ s found fun ended => live (stays ended)).set found own
  · exact (valid k t there live).set found own

private theorem OneLive.append (valid : OneLive streams) (over_ : ∀ s ∈ streams, s.id = new.id → s.phase = .done) :
    OneLive (streams ++ [new]) := by
  intro k t there live
  rcases append_cases there with ⟨rfl, rfl⟩ | there
  · exact newest_last streams t _
  · refine (valid k t there live).append fun same => live (over_ t (List.mem_of_getElem? there) same.symm)

theorem one_live {c c' : Server} {action} (effect : ServerEffect c action c') (server : ServerInvariant.Valid c)
    (guarded : fresh c action = true) (valid : OneLive c.streams) : OneLive c'.streams := by
  have handed {k : Nat} (acking : c.reader = .acking k) {s : Stream Opened} (found : c.streams[k]? = some s) : s.phase ≠ .done := by
    obtain ⟨t, there, front⟩ := server.streams.acking k acking
    cases found.symm.trans there
    simp [front]
  cases effect with
  | endpoint effect =>
    cases effect with
    | pop | put | putFail => exact valid
    | stream found _ stepped | sent found _ _ stepped | unsent found _ _ stepped | finish found _ stepped
    | route _ found stepped | unregister found stepped => exact valid.set found stepped.same.1 (Effect.done stepped)
  | routing _ _ _ _ found stepped => exact valid.set found stepped.same.1 (Effect.done stepped)
  | acked acking found | unacked acking found | droppedAcking acking found =>
    exact valid.set found rfl fun ended => absurd ended (handed acking found)
  | connectOk connecting =>
    refine valid.append fun s member same => ?_
    simp only [fresh, connecting, List.all_eq_true, decide_eq_true_eq] at guarded
    exact (guarded s member).resolve_left fun other => other same
  | _ => exact valid

end Newest

/-! ### The frames of an id -/

section Account
variable {streams : List (Stream Opened)} {k : Nat} {s s' new : Stream Opened} {id : StreamId}

private theorem split_at (found : streams[k]? = some s) :
    streams = streams.take k ++ s :: streams.drop (k + 1) ∧
      ∀ s', streams.set k s' = streams.take k ++ s' :: streams.drop (k + 1) := by
  obtain ⟨inside, rfl⟩ := List.getElem?_eq_some_iff.mp found
  refine ⟨?_, fun s' => ?_⟩
  · rw [List.cons_getElem_drop_succ, List.take_append_drop]
  · rw [List.set_eq_take_append_cons_drop, if_pos inside]

/-- What the streams of an id have sent, one after another. -/
def sentBy (id : StreamId) (streams : List (Stream Opened)) : List Frame :=
  (streams.filter (·.id = id)).flatMap (·.emitted)

private theorem sentBy_set (found : streams[k]? = some s) (own : s'.id = s.id) (emitted : s'.emitted = s.emitted) :
    sentBy id (streams.set k s') = sentBy id streams := by
  obtain ⟨whole, replaced⟩ := split_at found
  rw [replaced, sentBy, sentBy]
  conv => rhs; rw [whole]
  by_cases same : s.id = id <;> simp [own, same, emitted]

/-- A frame sent by the last stream of an id comes after all others. -/
private theorem sentBy_send {frame : Frame} (found : streams[k]? = some s) (own : s'.id = s.id)
    (emitted : s'.emitted = s.emitted ++ [frame]) (newest : Newest streams k s.id) :
    sentBy id (streams.set k s') = sentBy id streams ++ if s.id = id then [frame] else [] := by
  obtain ⟨whole, replaced⟩ := split_at found
  rw [replaced, sentBy, sentBy]
  conv => rhs; rw [whole]
  by_cases same : s.id = id
  · have later : (streams.drop (k + 1)).filter (fun t => t.id = id) = [] := by
      apply List.filter_eq_nil_iff.mpr
      intro t member own'
      obtain ⟨j, there⟩ := List.getElem?_of_mem member
      rw [List.getElem?_drop] at there
      have bound := newest _ t there (by simpa [same] using own')
      omega
    simp [own, same, emitted, later]
  · simp [own, same]

private theorem sentBy_append (silent : new.emitted = []) : sentBy id (streams ++ [new]) = sentBy id streams := by
  by_cases same : new.id = id <;> simp [sentBy, same, silent]

end Account

/-- Everything sent for an id but refusals was sent by its incarnations, one after
another. -/
def InTurn (c : Server) : Prop := ∀ id, streamFrames id c.frames.history = sentBy id c.streams

private theorem streamFrames_send {id other : StreamId} {frame : Frame} {frames : List Frame} (own : streamId frame = some other)
    (granted : frame ≠ .openAck other false) :
    streamFrames id (frames ++ [frame]) = streamFrames id frames ++ if other = id then [frame] else [] := by
  by_cases same : other = id
  · subst same
    simp [streamFrames, own, granted]
  · simp [streamFrames, own, same]

private theorem InTurn.set {c c' : Server} {k : Nat} {s s' : Stream Opened} (valid : InTurn c) (found : c.streams[k]? = some s)
    (own : s'.id = s.id) (emitted : s'.emitted = s.emitted) (history : c'.frames.history = c.frames.history)
    (streams : c'.streams = c.streams.set k s') : InTurn c' := by
  intro id
  rw [history, streams, sentBy_set found own emitted]
  exact valid id

private theorem InTurn.send {c c' : Server} {k : Nat} {s s' : Stream Opened} {frame : Frame} (valid : InTurn c)
    (live : OneLive c.streams) (found : c.streams[k]? = some s) (own : s'.id = s.id) (running : s.phase ≠ .done)
    (frameOwn : streamId frame = some s.id) (granted : frame ≠ .openAck s.id false) (emitted : s'.emitted = s.emitted ++ [frame])
    (history : c'.frames.history = c.frames.history ++ [frame]) (streams : c'.streams = c.streams.set k s') : InTurn c' := by
  intro id
  rw [history, streams, streamFrames_send frameOwn granted, sentBy_send found own emitted (live k s found running), valid id]

theorem in_turn {c c' : Server} {action} (effect : ServerEffect c action c') (server : ServerInvariant.Valid c)
    (live : OneLive c.streams) (valid : InTurn c) : InTurn c' := by
  cases effect with
  | endpoint effect =>
    cases effect with
    | pop _ takes =>
      intro id
      rw [takes.history]
      exact valid id
    | put | putFail => exact valid
    | stream found isLocal stepped =>
      exact valid.set found stepped.same.1 (Effect.quiet stepped (isLocal_ne isLocal rfl)) rfl rfl
    | unsent found _ _ stepped | finish found _ stepped | route _ found stepped | unregister found stepped =>
      exact valid.set found stepped.same.1 (Effect.quiet stepped (by simp)) rfl rfl
    | @sent k frame frames s s' found outgoing accepts stepped =>
      obtain ⟨emitted, own⟩ := Effect.sent_frame stepped outgoing
      have running : s.phase ≠ .done ∧ frame ≠ .openAck s.id false := by
        unfold Stream.outgoing at outgoing
        split at outgoing <;> cases outgoing <;> simp [*]
      exact valid.send live found stepped.same.1 running.1 own running.2 emitted accepts.history rfl
  | routing _ _ _ _ found stepped => exact valid.set found stepped.same.1 (Effect.quiet stepped (by simp)) rfl rfl
  | @acked k s frames acking found accepts =>
    obtain ⟨t, there, front⟩ := server.streams.acking k acking
    cases found.symm.trans there
    have own : (acked s [.openAck s.id true]).id = s.id := rfl
    exact valid.send live found own (by simp [front]) rfl (by simp) rfl accepts.history rfl
  | @unacked k s _ found =>
    have own : (acked s []).id = s.id := rfl
    exact valid.set found own (by simp [acked, Stream.relay]) rfl rfl
  | @droppedAcking k s _ found =>
    have own : s.abandon.id = s.id := rfl
    exact valid.set found own rfl rfl rfl
  | @refused other frames _ accepts =>
    intro id
    have none : streamFrames id [.openAck other false] = [] := by
      apply List.filter_eq_nil_iff.mpr
      intro frame member
      rw [List.mem_singleton.mp member]
      by_cases same : other = id <;> simp [streamId, same]
    rw [accepts.history, streamFrames, List.filter_append]
    exact (congrArg (streamFrames id c.frames.history ++ ·) none).trans ((List.append_nil _).trans (valid id))
  | connectOk =>
    intro id
    simp only [Server.connected]
    rw [sentBy_append rfl]
    exact valid id
  | writerStop => exact valid
  | _ => exact valid

/-! ### Isolation -/

/-- What holds of a session whose incarnations do not meet. -/
structure Isolated (c : Server) : Prop where
  /-- Everything sent for an id but refusals comes from its incarnations in turn, -/
  inTurn : ∀ id, streamFrames id c.frames.history = sentBy id c.streams
  /-- each of which begins with its OPEN_ACK and goes on with bytes of its own upstream. -/
  blocks : ∀ s ∈ c.streams, ∃ sent : List Bytes, sent <+: s.socket.chunks ∧
    s.emitted <+: .openAck s.id true :: sent.map (.data s.id) ++ [.close s.id]
  /-- A received payload goes to the last incarnation only. -/
  receives : ∀ action c', serverSystem.step c action = some c' → ∀ (k : Nat) (s s' : Stream Opened),
    c.streams[k]? = some s → c'.streams[k]? = some s' → s'.inflow ≠ s.inflow → Newest c.streams k s.id
  /-- What an upstream is written was routed to its own stream. -/
  written : ∀ s ∈ c.streams, s.socket.written <+: s.inflow.flatten
  /-- The end of one incarnation does not remove the entry of another. -/
  keeps : ∀ j c', serverSystem.step c (.endpoint (.unregister j)) = some c' → ∀ id k, c.registry id = some k → k ≠ j →
    c'.registry id = some k

private theorem unrouted {streams : List (Stream Opened)} {j k : Nat} {s s' t t' : Stream Opened} (found : streams[j]? = some t)
    (inflow : t'.inflow = t.inflow) (before : streams[k]? = some s) (after : (streams.set j t')[k]? = some s') :
    s'.inflow = s.inflow := by
  rcases set_cases after with ⟨rfl, rfl⟩ | ⟨-, same⟩
  · cases found.symm.trans before
    exact inflow
  · cases before.symm.trans same
    rfl

/-- A stream that is routed a payload is registered. -/
private theorem routed_registered {c c' : Server} {action} (effect : ServerEffect c action c') {k : Nat} {s s' : Stream Opened}
    (before : c.streams[k]? = some s) (after : c'.streams[k]? = some s') (routed : s'.inflow ≠ s.inflow) :
    ∃ id, c.registry id = some k := by
  have unchanged (same : c'.streams = c.streams) : False := by
    rw [same] at after
    cases before.symm.trans after
    exact routed rfl
  cases effect with
  | endpoint effect =>
    cases effect with
    | pop | put | putFail => exact (unchanged rfl).elim
    | stream found isLocal stepped =>
      exact absurd (unrouted found (Effect.inflow stepped (fun _ => isLocal_ne isLocal rfl)) before after) routed
    | sent found _ _ stepped | unsent found _ _ stepped | finish found _ stepped | route _ found stepped
    | unregister found stepped => exact absurd (unrouted found (Effect.inflow stepped (by simp)) before after) routed
  | @routing id bytes j t t' data _ _ _ registered found stepped =>
    rcases set_cases after with ⟨rfl, rfl⟩ | ⟨-, same⟩
    · exact ⟨id, registered⟩
    · cases before.symm.trans same
      exact absurd rfl routed
  | acked _ found | unacked _ found | droppedAcking _ found => exact absurd (unrouted found (by rfl) before after) routed
  | connectOk =>
    rcases append_cases after with ⟨rfl, -⟩ | same
    · simp at before
    · cases before.symm.trans same
      exact absurd rfl routed
  | _ => exact (unchanged rfl).elim

/-- As long as a stream is registered only when the tasks of the earlier streams of its
id are over, the incarnations of every id are isolated, whatever the peer sends. -/
theorem incarnations_isolated (c : Server) (run : (serverSystem.when fresh).Reachable c) : Isolated c := by
  have valid : RegistersNewest c.registry c.streams ∧ OneLive c.streams ∧ InTurn c := by
    refine run.invariant (p := fun c => RegistersNewest c.registry c.streams ∧ OneLive c.streams ∧ InTurn c) ?_ ?_
    · rintro c rfl
      exact ⟨.closeAll, fun k s found => by simp [Server.fresh, Endpoint.fresh] at found, fun id => rfl⟩
    · rintro before action after prior ⟨registers, live, turn⟩ - taken
      obtain ⟨guarded, taken⟩ := Transition.System.when_step.mp taken
      have server := ServerInvariant.server_valid prior.unguarded
      have effect := server_effect taken
      exact ⟨registers_newest effect registers, one_live effect server guarded live, in_turn effect server live turn⟩
  obtain ⟨registers, live, turn⟩ := valid
  have server := ServerInvariant.server_valid run.unguarded
  refine ⟨turn, fun s member => (server.streams.relayed s member).conforms, ?_, ?_, ?_⟩
  · intro action c' taken k s s' before after routed
    obtain ⟨id, registered⟩ := routed_registered (server_effect taken) before after routed
    obtain ⟨t, found, own⟩ := server.routes.wired.registered id k registered
    cases found.symm.trans before
    exact own ▸ registers id k registered
  · intro s member
    have relayed := server.streams.relayed s member
    by_cases absent : s.task = .absent
    · rw [(relayed.unrelayed absent).2]
      exact List.nil_prefix
    · obtain ⟨written, same, front⟩ := relayed.inbound.relayed absent
      simpa [same] using front
  · intro j c' taken id k registered different
    have effect : ServerEffect c (.endpoint (.unregister j)) c' := server_effect taken
    cases effect with
    | endpoint effect =>
      cases effect with
      | @unregister _ s s' found stepped =>
        refine close_some.mpr ⟨?_, registered⟩
        rintro rfl
        have running : s.phase ≠ .done := by
          cases stepped with
          | unregister now => simp [now]
        obtain ⟨t, there, own⟩ := server.routes.wired.registered s.id k registered
        have older := registers s.id k registered j s found rfl
        have newer := live j s found running k t there own
        exact different (Nat.le_antisymm newer older)

private def firstIncarnation : List ServerAction := [.incoming (Frame.hello "t").message, .accept,
  .incoming (Frame.openStream 1 "1.1.1.1:80").message, .connectOk, .answer]

/-- The id is opened again after the first stream has ended. -/
theorem reopened_isolated : ∃ c, c.streams.map (fun s => (s.id, s.phase)) = [(1, .done), (1, .reading)] ∧ Isolated c := by
  have executed : ((serverSystem.when fresh).exec Server.fresh (firstIncarnation ++
      [.endpoint (.stream 0 .shut), .endpoint (.stream 0 .readEnd), .endpoint (.send 0), .endpoint (.unregister 0),
        .incoming (Frame.openStream 1 "1.1.1.1:80").message, .connectOk, .answer])).any (fun c =>
      decide (c.streams.map (fun s => (s.id, s.phase)) = [(1, .done), (1, .reading)])) = true := by decide +kernel
  obtain ⟨c, run, shape⟩ := Transition.System.reached executed rfl
  exact ⟨c, of_decide_eq_true shape, incarnations_isolated c run⟩

/-- The peer closes stream 1 and opens it again while the first relay task still reads:
bytes of the first upstream are sent after the second OPEN_ACK, and when that task ends
it takes the entry of the second stream with it. -/
theorem reopened_mixes : ∃ c, serverSystem.Reachable c ∧
    c.dispatched = [.hello "t", .openStream 1 "1.1.1.1:80", .close 1, .openStream 1 "1.1.1.1:80"] ∧
    ¬ (∀ id, streamFrames id c.frames.history = sentBy id c.streams) ∧
    ∃ c', serverSystem.step c (.endpoint (.unregister 0)) = some c' ∧ c.registry 1 = some 1 ∧ c'.registry 1 = none := by
  have executed : (serverSystem.exec Server.fresh (firstIncarnation ++ [.incoming (Frame.close 1).message,
      .incoming (Frame.openStream 1 "1.1.1.1:80").message, .connectOk, .answer,
      .endpoint (.stream 0 (.arrive [7])), .endpoint (.stream 0 (.read 1)), .endpoint (.send 0),
      .endpoint (.stream 0 .shut), .endpoint (.stream 0 .readEnd), .endpoint (.send 0)])).any (fun c =>
      decide (c.dispatched = [.hello "t", .openStream 1 "1.1.1.1:80", .close 1, .openStream 1 "1.1.1.1:80"] ∧
        streamFrames 1 c.frames.history ≠ sentBy 1 c.streams ∧ c.registry 1 = some 1) &&
      (serverSystem.step c (.endpoint (.unregister 0))).any fun c' => decide (c'.registry 1 = none)) = true := by decide +kernel
  obtain ⟨c, run, view⟩ := Transition.System.reached executed rfl
  obtain ⟨view, removed⟩ := Bool.and_eq_true_iff.mp view
  obtain ⟨dispatched, mixed, registered⟩ := of_decide_eq_true view
  obtain ⟨c', taken, gone⟩ := (Option.any_eq_true _ _).mp removed
  exact ⟨c, run, dispatched, fun turn => mixed (turn 1), c', taken, registered, of_decide_eq_true gone⟩

end EchoProxy.Proofs.Incarnations
