import EchoProxy.Proofs.EndpointSteps

/-! Three accounts of an endpoint: the writer puts frames in the order the channel
accepted them, the accepted frames of an id are those its stream sent, and the
payloads routed to a stream are those dispatched for its id. -/

namespace EchoProxy.Proofs.EndpointAccounts
open EchoProxy StreamFlow EndpointSteps FrameSequences Places

variable {φ : Type}

/-! ### The writer -/

/-- `greeting` is what went out before the writer loop. -/
def InOrder (greeting : List Frame) (e : Endpoint φ) : Prop :=
  (e.frames.receiver = false ↔ e.writer = .ended) ∧
  match e.writer with
  | .unspawned => e.put = [] ∧ e.frames.taken = []
  | .receiving => e.put = greeting ++ e.frames.taken
  | .sending frame => e.put ++ [frame] = greeting ++ e.frames.taken
  | .stopping | .ended => e.put <+: greeting ++ e.frames.taken

theorem InOrder.accepting {greeting : List Frame} {e : Endpoint φ} (order : InOrder greeting e) (running : e.writer ≠ .ended) :
    e.frames.receiver = true := by
  have closed := order.1
  simpa [running] using closed

/-- A writer loop that waits for a frame has put all the others. -/
theorem InOrder.all_put {greeting : List Frame} {e : Endpoint φ} (order : InOrder greeting e) (receiving : e.writer = .receiving)
    (drained : e.frames.queue = []) : e.put = greeting ++ e.frames.history := by
  have placed := order.2
  rw [receiving] at placed
  rw [placed, Channel.history, drained, List.append_nil]

theorem InOrder.put_isPrefix {greeting : List Frame} {e : Endpoint φ} (order : InOrder greeting e) :
    e.put <+: greeting ++ e.frames.history := by
  have taken : greeting ++ e.frames.taken <+: greeting ++ e.frames.history :=
    List.prefix_append_right_inj greeting |>.mpr e.frames.taken_isPrefix
  refine List.IsPrefix.trans ?_ taken
  have placed := order.2
  cases writer : e.writer <;> rw [writer] at placed
  · rw [placed.1]; exact List.nil_prefix
  · exact placed ▸ List.prefix_refl _
  · exact placed ▸ List.prefix_append _ _
  · exact placed
  · exact placed

theorem endpoint_inOrder {greeting : List Frame} {e e' : Endpoint φ} {action}
    (effect : EndpointEffect e action e') (order : InOrder greeting e) : InOrder greeting e' := by
  obtain ⟨closed, placed⟩ := order
  cases effect with
  | pop receiving takes =>
    rw [receiving] at placed closed
    exact ⟨by simpa [takes.same] using closed, by simp [takes.taken, placed]⟩
  | put sending =>
    rw [sending] at placed closed
    exact ⟨by simpa using closed, placed⟩
  | putFail sending =>
    rw [sending] at placed closed
    exact ⟨by simpa using closed, placed ▸ List.prefix_append _ _⟩
  | sent _ _ accepts =>
    refine ⟨by rw [accepts.same]; exact closed, ?_⟩
    rw [accepts.taken]
    exact placed
  | stream | unsent | unregister | finish | route => exact ⟨closed, placed⟩

/-! ### Frames sent -/

theorem Effect.sent_frame {s s' : Stream φ} (effect : Effect s .sent s') {frame : Frame}
    (outgoing : s.outgoing = some frame) : s'.emitted = s.emitted ++ [frame] ∧ streamId frame = some s.id := by
  cases effect with
  | sentData phase | sentClose phase =>
    simp only [Stream.outgoing, phase, Option.some.injEq] at outgoing
    subst outgoing
    exact ⟨rfl, rfl⟩

theorem Effect.quiet {s s' : Stream φ} {move} (effect : Effect s move s') (silent : move ≠ .sent) : s'.emitted = s.emitted := by
  cases effect <;> first | rfl | exact absurd rfl silent

/-- The frames of a stream's id that the channel accepted are those it sent. -/
def Attributed (history : List Frame) (streams : List (Stream φ)) : Prop :=
  ∀ (k : Nat) (s : Stream φ), streams[k]? = some s → ofId s.id history = s.emitted

namespace Attributed
variable {history : List Frame} {streams : List (Stream φ)}

theorem set {k : Nat} {s s' : Stream φ} (valid : Attributed history streams) (found : streams[k]? = some s)
    (id : s'.id = s.id) (emitted : s'.emitted = s.emitted) : Attributed history (streams.set k s') := by
  intro j t there
  rcases set_cases there with ⟨rfl, rfl⟩ | ⟨-, there⟩
  · rw [id, emitted]; exact valid _ s found
  · exact valid j t there

theorem send {k : Nat} {s s' : Stream φ} {frame : Frame} (valid : Attributed history streams) (distinct : Distinct streams)
    (found : streams[k]? = some s) (id : s'.id = s.id) (own : streamId frame = some s.id)
    (emitted : s'.emitted = s.emitted ++ [frame]) : Attributed (history ++ [frame]) (streams.set k s') := by
  intro j t there
  rcases set_cases there with ⟨rfl, rfl⟩ | ⟨different, there⟩
  · rw [ofId_append, id, emitted, valid _ s found, ofId_single own]
  · have other : streamId frame ≠ some t.id := by
      rw [own]
      intro same
      exact different (distinct.same there found (Option.some.inj same).symm)
    rw [ofId_append, ofId_other other, List.append_nil]
    exact valid j t there

theorem append {new : Stream φ} (valid : Attributed history streams) (own : ofId new.id history = new.emitted) :
    Attributed history (streams ++ [new]) := by
  intro j t there
  rcases append_cases there with ⟨-, rfl⟩ | there
  · exact own
  · exact valid j t there

end Attributed

/-- Frames of other ids do not count. -/
theorem ofId_absent {history : List Frame} {ids : List StreamId} {id : StreamId}
    (known : ∀ frame ∈ history, ∃ other ∈ ids, streamId frame = some other) (absent : id ∉ ids) : ofId id history = [] := by
  apply List.filter_eq_nil_iff.mpr
  intro frame member own
  obtain ⟨other, there, same⟩ := known frame member
  have alike : other = id := by simpa [same] using own
  exact absent (alike ▸ there)

/-! ### Payloads routed -/

/-- What was routed to a stream is at the front of the payloads dispatched for its
id, and all of them while its sender is registered. -/
def Delivered (registry : StreamRegistry) (streams : List (Stream φ)) (dispatched : List Frame) : Prop :=
  ∀ (k : Nat) (s : Stream φ), streams[k]? = some s → s.inflow <+: payloads s.id dispatched ∧
    (registry s.id = some k → s.inflow = payloads s.id dispatched)

theorem Effect.inflow {s s' : Stream φ} {move} (effect : Effect s move s') (passive : ∀ bytes, move ≠ .lookup bytes) :
    s'.inflow = s.inflow := by
  cases effect with
  | @lookup bytes => exact absurd rfl (passive bytes)
  | _ => rfl

namespace Delivered
variable {registry : StreamRegistry} {streams : List (Stream φ)} {dispatched : List Frame}

theorem set {k : Nat} {s s' : Stream φ} (valid : Delivered registry streams dispatched) (found : streams[k]? = some s)
    (id : s'.id = s.id) (inflow : s'.inflow = s.inflow) : Delivered registry (streams.set k s') dispatched := by
  intro j t there
  rcases set_cases there with ⟨rfl, rfl⟩ | ⟨-, there⟩
  · rw [id, inflow]; exact valid _ s found
  · exact valid j t there

/-- A frame that is no DATA, or whose id has no sender. -/
theorem skip {frame : Frame} (valid : Delivered registry streams dispatched)
    (unrouted : ∀ id, registry id ≠ none → payload id frame = none) : Delivered registry streams (dispatched ++ [frame]) := by
  intro j t there
  obtain ⟨front, all⟩ := valid j t there
  rw [payloads_append]
  refine ⟨front.trans (List.prefix_append _ _), ?_⟩
  intro registered
  rw [all registered]
  simp [payloads, unrouted t.id (by simp [registered])]

theorem route {k : Nat} {id : StreamId} {bytes : Bytes} {s s' : Stream φ} (valid : Delivered registry streams dispatched)
    (distinct : Distinct streams) (found : streams[k]? = some s) (registered : registry id = some k) (own : s.id = id)
    (same : s'.id = s.id) (inflow : s'.inflow = s.inflow ++ [bytes]) :
    Delivered registry (streams.set k s') (dispatched ++ [.data id bytes]) := by
  intro j t there
  rw [payloads_append]
  rcases set_cases there with ⟨rfl, rfl⟩ | ⟨different, there⟩
  · have all := (valid _ s found).2 (own ▸ registered)
    rw [same, inflow, all]
    simp [payloads, payload, own]
  · have other : id ≠ t.id := fun alike => different (distinct.same there found (alike ▸ own.symm))
    simpa [payloads, payload, other] using valid j t there

theorem register {k : Nat} {s s' : Stream φ} (valid : Delivered registry streams dispatched) (found : streams[k]? = some s)
    (id : s'.id = s.id) (inflow : s'.inflow = s.inflow) (none : payloads s.id dispatched = []) :
    Delivered (registry.register s.id k) (streams.set k s') dispatched := by
  intro j t there
  rcases set_cases there with ⟨rfl, rfl⟩ | ⟨different, there⟩
  · have front := (valid _ s found).1
    rw [none] at front
    rw [id, inflow, none, List.prefix_nil.mp front]
    exact ⟨List.prefix_refl _, fun _ => rfl⟩
  · refine ⟨(valid j t there).1, ?_⟩
    intro registered
    rcases register_some.mp registered with ⟨-, same⟩ | ⟨-, registered⟩
    · exact absurd same different
    · exact (valid j t there).2 registered

theorem close (valid : Delivered registry streams dispatched) (id : StreamId) :
    Delivered (registry.close id) streams dispatched := by
  intro j t there
  refine ⟨(valid j t there).1, ?_⟩
  intro registered
  exact (valid j t there).2 (close_some.mp registered).2

theorem closeAll (valid : Delivered registry streams dispatched) : Delivered .new streams dispatched :=
  fun j t there => ⟨(valid j t there).1, fun registered => by simp [StreamRegistry.new] at registered⟩

theorem append {new : Stream φ} (valid : Delivered registry streams dispatched) (inflow : new.inflow = [])
    (unregistered : registry new.id ≠ some streams.length) : Delivered registry (streams ++ [new]) dispatched := by
  intro j t there
  rcases append_cases there with ⟨rfl, rfl⟩ | there
  · rw [inflow]
    exact ⟨List.nil_prefix, fun registered => absurd registered unregistered⟩
  · exact valid j t there

/-- A stream that appears with its sender registered. -/
theorem connect {new : Stream φ} (valid : Delivered registry streams dispatched) (inflow : new.inflow = [])
    (none : payloads new.id dispatched = []) :
    Delivered (registry.register new.id streams.length) (streams ++ [new]) dispatched := by
  intro j t there
  rcases append_cases there with ⟨rfl, rfl⟩ | there
  · rw [inflow, none]
    exact ⟨List.prefix_refl _, fun _ => rfl⟩
  · refine ⟨(valid j t there).1, fun registered => ?_⟩
    rcases register_some.mp registered with ⟨-, rfl⟩ | ⟨-, registered⟩
    · simp at there
    · exact (valid j t there).2 registered

end Delivered

theorem endpoint_delivered {e e' : Endpoint φ} {action} (effect : EndpointEffect e action e')
    (valid : Delivered e.registry e.streams e.dispatched) : Delivered e'.registry e'.streams e'.dispatched := by
  cases effect with
  | pop | put | putFail => exact valid
  | @stream k move s s' found isLocal stepped =>
    exact valid.set found stepped.same.1 (Effect.inflow stepped (fun _ => isLocal_ne isLocal rfl))
  | sent found _ _ stepped | unsent found _ _ stepped | finish found _ stepped | route _ found stepped =>
    exact valid.set found stepped.same.1 (Effect.inflow stepped (by simp))
  | unregister found stepped => exact (valid.set found stepped.same.1 (Effect.inflow stepped (by simp))).close _

theorem endpoint_ids {e e' : Endpoint φ} {action} (effect : EndpointEffect e action e') :
    e'.streams.map Stream.id = e.streams.map Stream.id ∧ e'.dispatched = e.dispatched := by
  cases effect with
  | pop | put | putFail => exact ⟨rfl, rfl⟩
  | stream found _ stepped | sent found _ _ stepped | unsent found _ _ stepped | finish found _ stepped
  | route _ found stepped | unregister found stepped => exact ⟨set_ids found stepped.same.1, rfl⟩

theorem endpoint_attributed {e e' : Endpoint φ} {action} (effect : EndpointEffect e action e')
    (distinct : Distinct e.streams) (valid : Attributed e.frames.history e.streams) :
    Attributed e'.frames.history e'.streams := by
  cases effect with
  | pop _ takes => rw [takes.history]; exact valid
  | put | putFail => exact valid
  | @stream k move s s' found isLocal stepped =>
    exact valid.set found stepped.same.1 (Effect.quiet stepped (isLocal_ne isLocal rfl))
  | sent found outgoing accepts stepped =>
    obtain ⟨emitted, own⟩ := Effect.sent_frame stepped outgoing
    rw [accepts.history]
    exact valid.send distinct found stepped.same.1 own emitted
  | unsent found _ _ stepped | finish found _ stepped | route _ found stepped | unregister found stepped =>
    exact valid.set found stepped.same.1 (Effect.quiet stepped (by simp))

end EchoProxy.Proofs.EndpointAccounts
